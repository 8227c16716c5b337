import RepoCatalog.Process.Condition
import RepoCatalog.Process.Tool.Launch

/-!
# Tools that tell about their surroundings

Programs that look at the environment, at the files and at who runs them, and programs that wait.
-/

namespace RepoCatalog.Tool

open Act

/-- Writes variables of the environment. -/
def printenv : Tool := fun _ name arguments => do
  let (flags, names) ← sort ⟨['0'], [], [("null", '0')], true⟩ name 2 arguments
  let ending : Octets := if has flags '0' then ['\x00'] else ['\n']
  let bindings := (← process).bindings
  if names.isEmpty then
    write name (bindings.flatMap fun (key, value) => key ++ '=' :: value ++ ending)
  else
    let values := names.map fun key => bindings.lookup key
    let status ← write name (values.flatMap fun value =>
      (value.map (· ++ ending)).getD [])
    return if values.all Option.isSome then status else 1

/-- Decides a condition. -/
def test : Tool := fun _ name arguments => do
  match Condition.decide ⟨false, ← files⟩ arguments with
  | .ok holds => return if holds then 0 else 1
  | .error message =>
    complain name message
    return 2

/-- Decides a condition in brackets. -/
def bracket : Tool := fun runner name arguments => do
  if arguments.getLast? = some [']'] then test runner name arguments.dropLast
  else
    complain name "missing ']'"
    return 2

/-- Waits, which takes no time here. -/
def sleep : Tool := fun _ name arguments => do
  let isTime (text : Octets) : Bool :=
    let digits := match text.getLast? with
      | some c => if ['s', 'm', 'h', 'd'].contains c then text.dropLast else text
      | none => text
    !digits.isEmpty && digits.all fun c => c.isDigit || c == '.'
  if arguments.isEmpty then missing name 1
  else
    match arguments.find? (!isTime ·) with
    | some text =>
      misuse name 1 ("invalid time interval '" ++ text ++ ['\x27'])
    | none => return 0

/-- Tells who runs the program. -/
def id : Tool := fun _ name arguments => do
  let (flags, _) ← sort
    ⟨['u', 'g', 'n', 'r', 'G'], [], [("user", 'u'), ("group", 'g'), ("name", 'n')], true⟩ name 1
    arguments
  if has flags 'u' || has flags 'g' || has flags 'G' then
    write name (if has flags 'n' then "root\n" else "0\n")
  else write name "uid=0(root) gid=0(root) groups=0(root)\n"

/-- Writes a text that is always the same, and ends with a status. -/
def constantly (text : Octets) (status : Nat) : Tool := fun _ name _ => do
  return worse (← write name text) status

/-- Tells where programs are found. -/
def which : Tool := fun _ name arguments => do
  let (flags, programs) ← sort ⟨['a', 's'], [], [], false⟩ name 2 arguments
  let files ← files
  let bindings := (← process).bindings
  let isProgram (path : Octets) : Bool :=
    match files.resolve .follow (Octets.toString path) with
    | .ok (.present _ (.file _ true)) | .ok (.present _ (.tool _)) => true
    | _ => false
  let found := programs.map fun program =>
    let paths := (programPaths bindings program).filter isProgram
    if has flags 'a' then paths else paths.take 1
  let shown := if has flags 's' then [] else found.flatMap fun paths => paths
  let status ← write name (Octets.unlines shown)
  return if programs.isEmpty || found.any List.isEmpty then 1 else status

/-- Tells about the machine. -/
def uname : Tool := fun _ name arguments => do
  let (flags, _) ← sort ⟨['s', 'm', 'o', 'p', 'i', 'n', 'r', 'v', 'a'], [],
    [("machine", 'm'), ("kernel-name", 's')], true⟩ name 1 arguments
  let parts : List (Char × Octets) := [('s', "Linux"), ('m', "x86_64"), ('o', "GNU/Linux")]
  let shown := parts.filter fun (letter, _) => has flags letter || (flags.isEmpty && letter = 's')
  write name (Octets.join [' '] (shown.map (·.2)) ++ ['\n'])

end RepoCatalog.Tool
