import RepoCatalog.Number.Numeral
import RepoCatalog.Specification.Build
import RepoCatalog.Text.Upper

/-!
# Configuration

What the command line settles, and how the values of its options are read.
-/

namespace RepoCatalog

/-- Everything the command line settles. -/
structure Configuration where
  /-- Address of the GitLab instance. -/
  address : Given String
  /-- Access token; the empty text for none. -/
  token : Given String
  /-- Proxy, if one is given. -/
  proxy : Option (Given String)
  /-- Seconds before a request is given up; none waits forever. -/
  timeout : Option (Given Int)
  /-- Whether certificates are not verified. -/
  insecure : Bool
  /-- Projects per page. -/
  perPage : Given Int
  /-- Groups to index; all accessible projects if there is none. -/
  groups : List (Given String)
  /-- Directory that holds the clones. -/
  directory : Given String
  /-- File that names repositories to leave out. -/
  ignoreList : Option (Given String)
  /-- File the index is written to. -/
  indexPath : String
  /-- File the specification is written to. -/
  specificationPath : String
  /-- The program that builds the index. -/
  codesearch : Given String
  /-- The program that fetches and indexes, if it is given. -/
  fetchReindex : Option (Given String)
  /-- Name of the index. -/
  name : Given String
  /-- Revision to index. -/
  revision : Given String
  /-- Template of links to files. -/
  urlPattern : Given String
  /-- Number of repositories updated at a time. -/
  workers : Given Int
  /-- Whether revisions in links are resolved. -/
  revparse : Bool
  /-- Whether forks are indexed. -/
  forks : Bool
  /-- Whether archived repositories are indexed. -/
  archived : Bool
  /-- Whether repositories are cloned over HTTPS. -/
  http : Bool
  /-- Name of the user for cloning over HTTPS. -/
  httpUser : Given String
  /-- Number of commits to fetch; zero fetches all. -/
  depth : Given Int
  /-- Whether repositories without the revision are skipped. -/
  skipMissing : Bool
  /-- Whether indexing is left out. -/
  noIndex : Bool
  /-- Name of the log level. -/
  logLevel : Given String
  /-- File that records are also written to. -/
  logFile : Option (Given String)
  deriving DecidableEq, Repr

namespace Configuration

/-- Name of the index file in the directory of the clones. -/
def indexFileName : String := "livegrep.idx"

/-- Name of the specification file in the directory of the clones. -/
def specificationFileName : String := "livegrep.json"

/-- What holds before any option is read; the paths of the two files are not yet settled. -/
def initial (token : String) : Configuration :=
  { address := "https://gitlab.example.com", token := token, proxy := none, timeout := none
    insecure := false, perPage := .value 100, groups := [], directory := "repos"
    ignoreList := none, indexPath := "", specificationPath := "", codesearch := ""
    fetchReindex := none, name := "livegrep index", revision := "HEAD"
    urlPattern := defaultUrlPattern, workers := .value 8, revparse := true, forks := true
    archived := false, http := false, httpUser := "git", depth := .value 0, skipMissing := false
    noIndex := false, logLevel := "INFO", logFile := none }

/-- A path, or a file in the directory of the clones in place of an empty one. -/
def pathOr (path : String) (directory : Given String) (name : String) : Except Failure String :=
  if path ≠ "" then .ok path
  else
    match directory with
    | .value directory => .ok (joinPath directory name)
    | .nothing => .error .wrongType

/-- Configuration with the paths of the two files settled. -/
def settle (configuration : Configuration) : Except Failure Configuration := do
  let indexPath ← pathOr configuration.indexPath configuration.directory indexFileName
  let specificationPath ←
    pathOr configuration.specificationPath configuration.directory specificationFileName
  return { configuration with indexPath := indexPath, specificationPath := specificationPath }

end Configuration

/-- Number of digits of any kind that a text consists of, blanks around it aside. -/
def digitsOf? (text : String) : Option (List Char) :=
  let digits := Text.strip text.toList
  if !digits.isEmpty && digits.all Text.isDigit then some digits else none

/-- Reads a number that may be zero. -/
def readNonNegative (text : String) : Except Failure Nat :=
  match digitsOf? text with
  | some digits => readDigits digits
  | none => .error (.badArgument "Use 0 or a positive integer.")

/-- Reads a number that may not be zero. -/
def readPositive (text : String) : Except Failure Nat :=
  let refused := Failure.badArgument "Use a positive integer (e.g., 8)."
  match digitsOf? text with
  | some digits =>
    match readDigits digits with
    | .ok 0 => .error refused
    | other => other
  | none => .error refused

end RepoCatalog
