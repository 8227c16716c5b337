import RepoCatalog.Text.Split

/-!
# Paths

Joining and splitting path texts, and paths in normal form: a root and the names below it, with
empty and `.` components removed and `..` kept.
-/

namespace RepoCatalog

/-- Whether a text contains the null character, which the operating system does not take. -/
def hasNull (text : String) : Bool :=
  text.toList.contains '\x00'

/-- A path text below another one; an absolute one stands alone. -/
def joinChars (base name : List Char) : List Char :=
  if name.head? == some '/' then name
  else if base.isEmpty || base.getLast? == some '/' then base ++ name
  else base ++ '/' :: name

/-- A path below another one; an absolute one stands alone. -/
def joinPath (base name : String) : String :=
  String.ofList (joinChars base.toList name.toList)

/-- What follows the last slash. -/
def baseChars (path : List Char) : List Char :=
  (path.reverse.takeWhile (· != '/')).reverse

/-- What stands before the last slash, without trailing slashes unless there is nothing else. -/
def directoryChars (path : List Char) : List Char :=
  let head := (path.reverse.dropWhile (· != '/')).reverse
  let kept := (head.reverse.dropWhile (· == '/')).reverse
  if kept.isEmpty then head else kept

/-- Last component of a path. -/
def baseName (path : String) : String :=
  String.ofList (baseChars path.toList)

/-- Directory part of a path. -/
def directoryName (path : String) : String :=
  String.ofList (directoryChars path.toList)

/-- Where a path starts. -/
inductive PathRoot
  | working
  | single
  | double
  deriving DecidableEq, Repr

/-- A path in normal form. -/
structure FilePath where
  /-- Where it starts. -/
  root : PathRoot
  /-- The names that lead to it, outermost first. -/
  names : List String
  deriving DecidableEq, Repr

namespace FilePath

/-- Where a path text starts: exactly two slashes differ from one and from many. -/
def rootOf : List Char → PathRoot
  | '/' :: '/' :: '/' :: _ => .single
  | '/' :: '/' :: _ => .double
  | '/' :: _ => .single
  | _ => .working

/-- Whether a component of a path text names something. -/
def isName (component : List Char) : Bool :=
  !component.isEmpty && component != ['.']

/-- Normal form of a path text. -/
def ofString (text : String) : FilePath :=
  ⟨rootOf text.toList, ((Text.split '/' text.toList).filter isName).map String.ofList⟩

/-- Text of a root. -/
def rootText : PathRoot → String
  | .working => ""
  | .single => "/"
  | .double => "//"

/-- Text of a path. -/
def text (path : FilePath) : String :=
  if path.root = .working && path.names.isEmpty then "."
  else rootText path.root ++ String.intercalate "/" path.names

/-- The path without its last name. -/
def parent (path : FilePath) : FilePath :=
  ⟨path.root, path.names.dropLast⟩

end FilePath

end RepoCatalog
