import RepoCatalog.World

/-!
# Ignore lists

A file names the repositories that are never indexed, one path per line. Lines are taken as they
are: only line feeds separate them.
-/

namespace RepoCatalog.IgnoreList

open Effect

/-- Paths that the content of an ignore list names. -/
def parse (content : List UInt8) : Except Text.Malformed (List String) :=
  (Text.decodeUtf8 content).map fun text => (Text.split '\n' text).map String.ofList

/-- Content of a file, or why it cannot be read. -/
def readFile (files : FileTree) (path : FilePath) : Except Failure (List UInt8) :=
  if hasNull path.text then .error .embeddedNull
  else
    match files.contentOf path.text with
    | .ok content => .ok content
    | .error fault => .error (.system (fault.about path.text))

/-- Paths that the ignore list at a path names. -/
def load (files : FileTree) (path : String) : Except Failure (List String) :=
  let path := FilePath.ofString path
  match readFile files path with
  | .error (.system error) => .error (.ignoreListUnreadable path (.system error))
  | .error failure => .error failure
  | .ok content =>
    match parse content with
    | .error malformed => .error (.ignoreListUnreadable path (.notUtf8 malformed))
    | .ok paths => .ok paths

end RepoCatalog.IgnoreList
