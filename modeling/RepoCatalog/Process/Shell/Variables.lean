import RepoCatalog.Process.Session

/-!
# Variables of the shell

Variables, the parameters that are no variables, and the messages about them.
-/

namespace RepoCatalog.Shell

open Act

/-- Writes a message of the shell. -/
def report (message : Octets) : Act Unit := do
  let process ← Act.process
  let about : Octets := match process.command with
    | some command => command ++ [':', ' ']
    | none => []
  say (process.name ++ ": " ++ Octets.ofNat process.line ++ ": " ++ about ++ message)

/-- Stops with a message; unless a builtin command is under way, the shell ends. -/
def fail {α : Type} (message : Octets) : Act α := do
  report message
  change fun process => { process with status := 2 }
  throw .failed

/-- Separators that are used unless others are set. -/
def standardSeparators : Octets := [' ', '\t', '\n']

/-- Search path of a shell that was told none. -/
def standardPath : Octets := "/usr/local/sbin:/usr/local/bin:/usr/sbin:/usr/bin:/sbin:/bin"

/-- Variables that every shell has. -/
def ownVariables : List (Octets × Variable) :=
  [("IFS", ⟨some standardSeparators, false, false⟩), ("MAIL", ⟨none, false, false⟩),
    ("MAILPATH", ⟨none, false, false⟩), ("PATH", ⟨some standardPath, false, false⟩),
    ("PS1", ⟨some "# ", false, false⟩), ("PS2", ⟨some "> ", false, false⟩),
    ("PS4", ⟨some "+ ", false, false⟩), ("OPTIND", ⟨some "1", false, false⟩),
    ("LINENO", ⟨some "", false, false⟩)]

/-- Parameter of the shell's line number. -/
def lineName : Octets := "LINENO"

/-- Variable of a name. -/
def findVariable? (name : Octets) : Act (Option Variable) :=
  return (← Act.process).scope.lookup name

/-- Value of a variable that has one. -/
def value? (name : Octets) : Act (Option Octets) := do
  if name = lineName then
    let process ← Act.process
    return some (Octets.ofNat (process.line - (process.functionLine - 1)))
  else return (← findVariable? name).bind (·.value)

/-- Replaces a variable. -/
def putVariable (name : Octets) (held : Variable) : Act Unit :=
  change fun process => { process with scope := assign name held process.scope }

/-- Takes a variable away. -/
def dropVariable (name : Octets) : Act Unit :=
  change fun process => { process with scope := process.scope.filter (·.1 ≠ name) }

/-- Stops if a variable must not be changed. -/
def refuseReadOnly (name : Octets) : Act Unit := do
  if ((← findVariable? name).map (·.readOnly)).getD false then
    fail (name ++ ": is read only")

/-- Gives a variable a value. -/
def setVariable (name value : Octets) : Act Unit := do
  refuseReadOnly name
  let all := (← Act.process).options.contains 'a'
  let exported := ((← findVariable? name).map (·.exported)).getD false
  putVariable name ⟨some value, exported || all, false⟩
  if name = "PATH" then change fun process => { process with hashed := [] }
  if name = "OPTIND" then change fun process => { process with optionOffset := none }

/-- Gives a variable a value and tells programs about it. -/
def setExported (name value : Octets) : Act Unit := do
  setVariable name value
  putVariable name ⟨some value, true, false⟩

/-- Takes the value of a variable away. -/
def unsetVariable (name : Octets) : Act Unit := do
  refuseReadOnly name
  dropVariable name

/-- Remembers a variable, to be restored at the end of the present function. -/
def rememberVariable (name : Octets) : Act Unit := do
  let old ← findVariable? name
  change fun process =>
    if process.locals.any (·.1 = name) then process
    else { process with locals := (name, old) :: process.locals }

/-- Runs an action, and restores the variables that it made its own. -/
def withLocals {α : Type} (action : Act α) : Act α := do
  let outer := (← Act.process).locals
  change fun process => { process with locals := [] }
  let restore : Act Unit := do
    (← Act.process).locals.forM fun (name, old) =>
      match old with
      | some held => putVariable name held
      | none => dropVariable name
    change fun process => { process with locals := outer }
  let result ← (try action catch interrupt => do
    restore
    throw interrupt)
  restore
  return result

/-- Place of a name in the order in which variables are listed. -/
def bucket (name : Octets) : Nat :=
  let first := (name.head?.map Char.toNat).getD 0
  (16 * first + (name.map Char.toNat).foldl (· + ·) 0) % 39

/-- Variables in the order in which they are listed. -/
def listed (scope : List (Octets × Variable)) : List (Octets × Variable) :=
  (List.range 39).flatMap fun place => scope.filter fun (name, _) => bucket name = place

/-- What programs are told. -/
def exportedBindings : Act Bindings := do
  return (listed (← Act.process).scope).filterMap fun (name, held) =>
    if held.exported then held.value.map (name, ·) else none

/-- Separators in force. -/
def separators : Act Octets :=
  return (← value? "IFS").getD standardSeparators

/-- Options in the order in which they are shown. -/
def optionLetters : List Char :=
  ['e', 'f', 'I', 'i', 'm', 'n', 's', 'x', 'v', 'V', 'E', 'C', 'a', 'b', 'u']

/-- Number that digits write. -/
def number (digits : Octets) : Nat :=
  digits.foldl (fun value c => 10 * value + (c.toNat - 48)) 0

/-- Value of a parameter that is not the list of all arguments. -/
def parameter? (name : Octets) : Act (Option Octets) := do
  let process ← Act.process
  match name with
  | ['?'] => return some (Octets.ofNat process.status)
  | ['#'] => return some (Octets.ofNat process.arguments.length)
  | ['$'] => return some (Octets.ofNat process.shell)
  | ['!'] => return process.background.map Octets.ofNat
  | ['-'] => return some (optionLetters.filter process.options.contains)
  | c :: rest =>
    if c.isDigit then
      let position := number (c :: rest)
      return if position = 0 then some process.name else process.arguments[position - 1]?
    else value? name
  | [] => return none

end RepoCatalog.Shell
