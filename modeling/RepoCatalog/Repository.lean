import RepoCatalog.Failure
import RepoCatalog.Json.Display

/-!
# Repositories

The reduced view of a project record. Values are kept as the server gave them.
-/

namespace RepoCatalog

/-- A repository of a GitLab instance. -/
structure Repository where
  /-- Path with its namespace. -/
  path : Json
  /-- Address for cloning over SSH. -/
  sshAddress : Json
  /-- Address for cloning over HTTPS. -/
  httpAddress : Json
  /-- Address of its page. -/
  webAddress : Json
  /-- What it was forked from, if it is a fork. -/
  forkedFrom : Option Json
  /-- Whether it is archived. -/
  archived : Bool
  deriving Repr

namespace Repository

/-- Name of the member that holds the path of a project. -/
def pathField : String := "path_with_namespace"

/-- Whether a repository is a fork. -/
def isFork (repository : Repository) : Bool :=
  repository.forkedFrom.isSome

/-- Text by which repositories are ordered. -/
def pathKey (repository : Repository) : String :=
  repository.path.text?.getD ""

/-- Member of a record, or null. -/
def memberOf (name : String) (record : Json) : Json :=
  (record.field? name).getD .null

/-- Name of the project that fork data describe: its path, else the text of its number. -/
def parentName (fork : Json) : Except Failure Json :=
  let path := memberOf pathField fork
  if path.isTruthy then .ok path
  else
    match fork.field? "id" with
    | none => .ok (.string "")
    | some id => id.toText.map .string

/-- What a project record says it was forked from. -/
def forkParent (record : Json) : Except Failure (Option Json) :=
  match memberOf "forked_from_project" record with
  | .object [] => .ok none
  | .object members => (parentName (.object members)).map some
  | other => if other.isTruthy then .error .missingAttribute else .ok none

/-- The repository a project record describes. -/
def ofRecord (record : Json) : Except Failure Repository :=
  match record with
  | .object members =>
    match forkParent record with
    | .error failure => .error failure
    | .ok forkedFrom =>
      match members.lookup pathField with
      | none => .error (.missingKey (some pathField))
      | some path =>
        .ok ⟨path, (memberOf "ssh_url_to_repo" record).orEmpty,
          (memberOf "http_url_to_repo" record).orEmpty, (memberOf "web_url" record).orEmpty,
          forkedFrom, (memberOf "archived" record).isTruthy⟩
  | _ => .error .missingAttribute

/-- The repositories that records describe, as far as the first record that describes none. -/
def ofRecords : List Json → Except Failure (List Repository)
  | [] => .ok []
  | record :: rest =>
    match ofRecord record with
    | .error failure => .error failure
    | .ok repository => (ofRecords rest).map (repository :: ·)

end Repository

end RepoCatalog
