import RepoCatalog.Repository
import RepoCatalog.Revision
import RepoCatalog.Specification.Types

/-!
# Building specifications

One entry for each selected repository whose revision, if that is checked, exists in its clone.
-/

namespace RepoCatalog

open Effect

/-- Environment variable that holds the access token. -/
def tokenVariable : String := "GITLAB_TOKEN"

/-- Template of links to files when none is given. -/
def defaultUrlPattern : String :=
  "https://gitlab.com/\x7bname\x7d/-/blob/\x7bversion\x7d/\x7bpath\x7d#L\x7blno\x7d"

/-- Environment variable that holds the clone password; the empty text without a token. -/
def passwordVariableFor (token : String) : String :=
  if token = "" then "" else tokenVariable

/-- Where the clone of a repository lives. -/
def repositoryPath (root path : String) : String :=
  joinPath root path

/-- What entries have in common. -/
structure EntryOptions where
  /-- Directory that holds the clones. -/
  root : Given String
  /-- Revision to index. -/
  revision : Given String
  /-- Whether repositories are cloned over HTTPS instead of SSH. -/
  overHttp : Bool
  /-- Environment variable that holds the clone password. -/
  passwordVariable : String
  /-- Number of commits to fetch; zero fetches all. -/
  depth : Int
  /-- Name of the user for cloning over HTTPS. -/
  username : String
  /-- Template of links to files. -/
  urlPattern : String
  deriving DecidableEq, Repr

namespace EntryOptions

/-- Options that say nothing but where the clones are and which revision is indexed. -/
def basic (root revision : Given String) : EntryOptions :=
  ⟨root, revision, false, "", 0, "git", defaultUrlPattern⟩

/-- Address a repository is cloned from. -/
def remote (options : EntryOptions) (repository : Repository) : Json :=
  if options.overHttp then repository.httpAddress else repository.sshAddress

/-- Entry of a repository with the given path in a directory of clones. -/
def entryAt (options : EntryOptions) (root path : String) (repository : Repository) :
    RepositoryEntry :=
  ⟨repositoryPath root path, path, [options.revision],
    some ⟨repository.webAddress, options.remote repository, options.urlPattern⟩,
    some ⟨options.depth, options.username, options.passwordVariable⟩⟩

/-- Entry of a repository, whose path has to be a text; the directory must not be missing. -/
def entry (options : EntryOptions) (repository : Repository) : Except Failure RepositoryEntry :=
  match options.root, repository.path with
  | .value root, .string path => .ok (options.entryAt root path repository)
  | _, _ => .error .wrongType

end EntryOptions

namespace Specification

/-- Record about a repository that is left out for want of a revision. -/
def skipNotice (path : String) (revision : Given String) : String :=
  "Skipping missing revision repo=" ++ path ++ " rev=" ++ revision.shown id

/-- Whether a repository passes the check in the clones below a directory, if there is a check. -/
def passes (checkRoot : Option (Given String)) (path : String) (revision : Given String) :
    Effect Bool :=
  match checkRoot with
  | none => pure true
  | some (.value root) => Revision.isPresent root path revision
  | some .nothing => throw .wrongType

/-- Entries of the repositories that pass the check, in order. -/
def entries (options : EntryOptions) (checkRoot : Option (Given String)) :
    List Repository → Effect (List RepositoryEntry)
  | [] => pure []
  | repository :: rest => do
    let entry ← ofExcept (options.entry repository)
    if ← passes checkRoot entry.name options.revision then
      return entry :: (← entries options checkRoot rest)
    else
      log .info (skipNotice entry.name options.revision)
      entries options checkRoot rest

/-- Specification of the repositories that pass the check. -/
def build (name : String) (options : EntryOptions) (checkRoot : Option (Given String))
    (repositories : List Repository) : Effect Specification := do
  return ⟨name, ← entries options checkRoot repositories⟩

end Specification

end RepoCatalog
