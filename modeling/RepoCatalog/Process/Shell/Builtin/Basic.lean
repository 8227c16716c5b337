import RepoCatalog.Process.Shell.Expansion

/-!
# Builtin commands

What builtin commands have in common: how they are run, how their options are read, and how they
write.
-/

namespace RepoCatalog.Shell

open Act

/-- A builtin command. -/
structure Builtin where
  /-- Whether its failure ends the shell, and assignments before it last. -/
  special : Bool
  /-- Whether its arguments may assign variables. -/
  assigns : Bool
  /-- Runs it on arguments and gives its status. -/
  run : Runner → Mode → List Octets → Act Nat

namespace Builtin

/-- An option of a builtin command, with its argument. -/
abbrev Flag := Char × Octets

/-- Reads the options in one argument; `known` tells which options have arguments of their own. -/
def takeLetters (known : List (Char × Bool)) :
    Octets → List Octets → Act (List Flag × List Octets)
  | [], rest => return ([], rest)
  | c :: letters, rest => do
    match known.lookup c with
    | none => fail ("Illegal option -" ++ [c])
    | some false =>
      let (options, rest) ← takeLetters known letters rest
      return ((c, []) :: options, rest)
    | some true =>
      if !letters.isEmpty then return ([(c, letters)], rest)
      else
        match rest with
        | argument :: rest => return ([(c, argument)], rest)
        | [] => fail ("No arg for -" ++ [c] ++ " option")

/-- Reads options up to the first argument that is none; fuel bounds the number of arguments. -/
def takeAll (known : List (Char × Bool)) : Nat → List Octets → Act (List Flag × List Octets)
  | 0, arguments => return ([], arguments)
  | fuel + 1, arguments => do
    match arguments with
    | ['-', '-'] :: rest => return ([], rest)
    | ('-' :: c :: letters) :: rest =>
      let (first, rest) ← takeLetters known (c :: letters) rest
      let (more, rest) ← takeAll known fuel rest
      return (first ++ more, rest)
    | arguments => return ([], arguments)

/-- Reads the options of a builtin command. -/
def options (known : List (Char × Bool)) (arguments : List Octets) :
    Act (List Flag × List Octets) :=
  takeAll known (arguments.length + 1) arguments

/-- Reads the options of a builtin command that knows none. -/
def noOptions (arguments : List Octets) : Act (List Octets) :=
  return (← options [] arguments).2

/-- Writes text and gives the status that comes of it. -/
def write (text : Octets) : Act Nat := do
  match ← tryWrite 1 text with
  | .ok () => return 0
  | .error _ =>
    report "I/O error"
    return 1

/-- Number that an argument writes. -/
def numberOf (text : Octets) : Act Nat := do
  let value := number text
  if text.isEmpty || !text.all Char.isDigit || 2147483647 < value then
    fail ("Illegal number: " ++ text)
  else return value

/-- Text between quotes, so that the shell reads it back: quotes stand between double quotes and
everything else between single ones. Fuel bounds the length of the text. -/
def quoteFrom : Nat → Octets → Octets
  | 0, _ => []
  | fuel + 1, text =>
    let (plain, rest) := text.span (· != '\x27')
    let (marks, rest) := rest.span (· == '\x27')
    '\x27' :: plain ++ ['\x27']
      ++ (if marks.isEmpty then [] else '"' :: marks ++ ['"'])
      ++ (if rest.isEmpty then [] else quoteFrom fuel rest)

/-- Text between quotes, so that the shell reads it back. -/
def quote (text : Octets) : Octets :=
  quoteFrom (text.length + 1) text

end Builtin

/-- Paths at which a program may be found along a search path. -/
def searchPaths (path name : Octets) : List Octets :=
  if name.contains '/' then [name]
  else
    (Text.split ':' path).map fun directory =>
      if directory.isEmpty then name else directory ++ '/' :: name

/-- Whether a path leads to a file that might be a program. -/
def leadsToFile (files : FileTree) (path : Octets) : Bool :=
  match files.inspect (Octets.toString path) with
  | .ok (.file _ _) | .ok (.tool _) => true
  | _ => false

/-- Search path in force. -/
def searchPath : Act Octets :=
  return (← value? "PATH").getD []

end RepoCatalog.Shell
