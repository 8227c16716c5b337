import RepoCatalog.Process.Shell.Script

/-!
# Tools

What the programs of the machine have in common: how they are run, how they read options and files,
and how they complain.
-/

namespace RepoCatalog

open Act

/-- A program of the machine: its status for the name that it was called by and its arguments. -/
abbrev Tool := Shell.Runner → Octets → List Octets → Act Nat

namespace Tool

/-- An option of a program, with its argument. -/
structure Flag where
  /-- Letter of the option. -/
  letter : Char
  /-- Its argument. -/
  argument : Octets
  deriving DecidableEq, Repr

/-- Options that a program knows. A letter with and without arguments takes only an argument that is
written together with it. -/
structure Known where
  /-- Letters of options without arguments. -/
  plain : List Char
  /-- Letters of options with arguments. -/
  valued : List Char
  /-- Letters of options that have long names. -/
  long : List (String × Char)
  /-- Whether options may stand behind other arguments. -/
  anywhere : Bool

/-- Options and other arguments, or why they are not understood. -/
abbrev Sorted := Except Octets (List Flag × List Octets)

/-- One more option in front. -/
def Sorted.cons (flag : Flag) (sorted : Sorted) : Sorted :=
  sorted.map fun (flags, others) => (flag :: flags, others)

/-- Options in one argument; `go` sorts the arguments behind it. -/
def sortLetters (known : Known) (go : List Octets → Sorted) (rest : List Octets) : Octets → Sorted
  | [] => go rest
  | c :: letters =>
    if known.plain.contains c && known.valued.contains c then Sorted.cons ⟨c, letters⟩ (go rest)
    else if known.plain.contains c then Sorted.cons ⟨c, []⟩ (sortLetters known go rest letters)
    else if known.valued.contains c then
      if !letters.isEmpty then Sorted.cons ⟨c, letters⟩ (go rest)
      else
        match rest with
        | argument :: rest => Sorted.cons ⟨c, argument⟩ (go rest)
        | [] => .error ("option requires an argument -- '" ++ [c, '\x27'])
    else .error ("invalid option -- '" ++ [c, '\x27'])

/-- An option with a long name, which may be cut short. -/
def sortLong (known : Known) (go : List Octets → Sorted) (rest : List Octets) (text : Octets) :
    Sorted :=
  let (name, value) := text.span (· != '=')
  let fits := known.long.filter fun (long, _) => name.isPrefixOf long.toList
  let exact := fits.filter fun (long, _) => long.toList == name
  match if exact.isEmpty then fits else exact with
  | [(long, letter)] =>
    if known.plain.contains letter then Sorted.cons ⟨letter, value.drop 1⟩ (go rest)
    else if known.valued.contains letter then
      match value, rest with
      | _ :: value, rest => Sorted.cons ⟨letter, value⟩ (go rest)
      | [], argument :: rest => Sorted.cons ⟨letter, argument⟩ (go rest)
      | [], [] => .error (Octets.ofString ("option '--" ++ long ++ "' requires an argument"))
    else Sorted.cons ⟨letter, []⟩ (go rest)
  | _ => .error ("unrecognized option '--" ++ text ++ ['\x27'])

/-- Sorts options from other arguments; fuel bounds the number of arguments. -/
def sortFrom (known : Known) : Nat → List Octets → Sorted
  | 0, arguments => .ok ([], arguments)
  | _ + 1, [] => .ok ([], [])
  | fuel + 1, argument :: rest =>
    match argument with
    | ['-', '-'] => .ok ([], rest)
    | '-' :: '-' :: text => sortLong known (sortFrom known fuel) rest text
    | '-' :: c :: letters => sortLetters known (sortFrom known fuel) rest (c :: letters)
    | argument =>
      if known.anywhere then
        (sortFrom known fuel rest).map fun (flags, others) => (flags, argument :: others)
      else .ok ([], argument :: rest)

/-- Writes a message of a program. -/
def complain (name message : Octets) : Act Unit :=
  say (name ++ ": " ++ message)

/-- Tells where help is to be found. -/
def pointToHelp (name : Octets) : Act Unit :=
  say ("Try '" ++ name ++ " --help' for more information.")

/-- Sorts options from other arguments, or stops with a message and a status. -/
def sort (known : Known) (name : Octets) (status : Nat) (arguments : List Octets) :
    Act (List Flag × List Octets) := do
  match sortFrom known (arguments.length + 1) arguments with
  | .ok sorted => return sorted
  | .error message =>
    complain name message
    pointToHelp name
    finish status

/-- Whether an option was given. -/
def has (flags : List Flag) (letter : Char) : Bool :=
  flags.any (·.letter = letter)

/-- Argument of an option, the last time that it was given. -/
def argument? (flags : List Flag) (letter : Char) : Option Octets :=
  (flags.reverse.find? (·.letter = letter)).map (·.argument)

/-- Writes text; the status tells whether that was possible. -/
def write (name text : Octets) : Act Nat := do
  match ← tryWrite 1 text with
  | .ok () => return 0
  | .error fault =>
    complain name ("write error: " ++ Octets.ofString fault.reason)
    return 1

/-- Content of an input of a program; a dash stands for what it is given to read. -/
def readInput (path : Octets) : Act (Except FileFault Octets) :=
  if path = ['-'] then readAll 0 else readFile path

/-- Contents of inputs with their names; those that cannot be read are complained about and left
out, which the second part tells. -/
def readInputs (name : Octets) (paths : List Octets) : Act (List (Octets × Octets) × Bool) := do
  let mut contents := []
  let mut complete := true
  for path in if paths.isEmpty then [['-']] else paths do
    match ← readInput path with
    | .ok text => contents := contents ++ [(path, text)]
    | .error fault =>
      complain name (path ++ ": " ++ Octets.ofString fault.reason)
      complete := false
  return (contents, complete)

/-- Stops with a message and advice. -/
def misuse {α : Type} (name : Octets) (status : Nat) (message : Octets) : Act α := do
  complain name message
  pointToHelp name
  finish status

/-- The larger of two statuses. -/
def worse (first second : Nat) : Nat :=
  max first second

/-- Stops with a message because an argument is missing. -/
def missing (name : Octets) (status : Nat) : Act Nat := do
  complain name "missing operand"
  pointToHelp name
  return status

/-- Stops with a message because there is an argument too many. -/
def extra (name argument : Octets) (status : Nat) : Act Nat := do
  complain name ("extra operand '" ++ argument ++ ['\x27'])
  pointToHelp name
  return status

/-- Number that an argument writes. -/
def natural? (text : Octets) : Option Nat :=
  if text.isEmpty || !text.all Char.isDigit then none else some (Shell.number text)

end Tool

end RepoCatalog
