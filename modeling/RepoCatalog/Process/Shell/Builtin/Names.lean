import RepoCatalog.Process.Shell.Builtin.Basic

/-!
# Builtin commands for the names of commands

Names that other words are read in place of, names of programs that were found along the search
path, and what names stand for.
-/

namespace RepoCatalog.Shell

open Act

/-- Remembers that a program was found along the search path. -/
def rememberProgram (name : Octets) : Act Unit :=
  change fun process =>
    if process.hashed.contains name then process
    else { process with hashed := process.hashed ++ [name] }

namespace Builtin

/-- Number by which a name is put into one of several places. -/
def hashValue (name : Octets) : Nat :=
  name.foldl (fun sum c => sum + c.toNat) (16 * (name.head?.map Char.toNat).getD 0)

/-- Names in the order of the places they are put into, and in each place as they came. -/
def inPlaces {α : Type} (places : Nat) (name : α → Octets) (items : List α) : List α :=
  items.mergeSort fun first second =>
    hashValue (name first) % places ≤ hashValue (name second) % places

/-! ## Aliases -/

/-- A name and the text that is read in place of it, as the shell reads them back. -/
def aliasText (name text : Octets) : Octets :=
  name ++ '=' :: quote text

/-- Lists aliases, or adds some. -/
def «alias» (_ : Runner) (_ : Mode) (arguments : List Octets) : Act Nat := do
  let line (name text : Octets) : Act Nat := write (aliasText name text ++ ['\n'])
  if arguments.isEmpty then
    let _ ← (inPlaces 39 (·.1) (← process).aliases).mapM fun (name, text) => line name text
    return 0
  else
    let statuses ← arguments.mapM fun argument => do
      match (argument.drop 1).span (· != '=') with
      | (behind, _ :: text) =>
        let name := argument.take 1 ++ behind
        change fun process => { process with aliases := assign name text process.aliases }
        return 0
      | _ =>
        match (← process).aliases.lookup argument with
        | some text => line argument text
        | none =>
          say ("alias: " ++ argument ++ " not found")
          return 1
    return statuses.foldl max 0

/-- Takes aliases away. -/
def unalias (_ : Runner) (_ : Mode) (arguments : List Octets) : Act Nat := do
  let (options, names) ← options [('a', false)] arguments
  if !options.isEmpty then
    change fun process => { process with aliases := [] }
    return 0
  else
    let statuses ← names.mapM fun name => do
      if ((← process).aliases.lookup name).isSome then
        change fun process => { process with aliases := process.aliases.filter (·.1 ≠ name) }
        return 0
      else
        say ("unalias: " ++ name ++ " not found")
        return 1
    return statuses.foldl max 0

/-! ## What names stand for -/

/-- What a name stands for as a command. -/
inductive Meaning
  | keyword
  | «alias» (text : Octets)
  | function
  | builtin (special : Bool)
  | program (known : Bool) (path : Octets)
  | unknown
  deriving DecidableEq, Repr

/-- Commands that are built in. -/
def names : List String :=
  specialBuiltins ++ ["[", "alias", "bg", "cd", "chdir", "command", "echo", "false", "fg",
    "getopts", "hash", "jobs", "kill", "printf", "pwd", "read", "test", "true", "type", "ulimit",
    "umask", "unalias", "wait"]

/-- What a name stands for. -/
def meaning (name : Octets) : Act Meaning := do
  let text := String.ofList name
  if keywords.contains text then return .keyword
  else if let some text := (← process).aliases.lookup name then return .alias text
  else if ((← process).functions.lookup name).isSome then return .function
  else if names.contains text then return .builtin (specialBuiltins.contains text)
  else
    let files ← files
    let exists? (path : Octets) : Bool := files.inspect (Octets.toString path) matches .ok _
    let paths := searchPaths (← searchPath) name
    match paths.find? (if name.contains '/' then exists? else leadsToFile files) with
    | some path =>
      let known := (← process).hashed.contains name
      if !name.contains '/' then rememberProgram name
      return .program known path
    | none => return .unknown

/-- Tells what names stand for. -/
def describe (verbose : Bool) (arguments : List Octets) : Act Nat := do
  let statuses ← arguments.mapM fun name => do
    let line (text : Octets) : Act Nat := write (text ++ ['\n'])
    match ← meaning name with
    | .keyword => line (if verbose then name ++ " is a shell keyword" else name)
    | .alias text =>
      line
        (if verbose then name ++ " is an alias for " ++ text else "alias " ++ aliasText name text)
    | .function => line (if verbose then name ++ " is a shell function" else name)
    | .builtin special =>
      let kind : Octets := if special then " is a special shell builtin" else " is a shell builtin"
      line (if verbose then name ++ kind else name)
    | .program known path =>
      let kind : Octets := if known then " is a tracked alias for " else " is "
      line (if verbose then name ++ kind ++ path else path)
    | .unknown =>
      if verbose then
        let _ ← line (name ++ ": not found")
      return 127
  return statuses.foldl max 0

/-- Tells what names stand for, in sentences. -/
def type (_ : Runner) (_ : Mode) (arguments : List Octets) : Act Nat :=
  describe true arguments

/-- Tells what a command is, if it is asked to; running commands is up to the shell. -/
def command (_ : Runner) (_ : Mode) (arguments : List Octets) : Act Nat := do
  let (options, arguments) ← options [('p', false), ('v', false), ('V', false)] arguments
  match options.find? fun option => option.1 ≠ 'p' with
  | none => return 0
  | some option => describe (option.1 = 'V') (arguments.take 1)

/-- Lists the programs that were found along the search path, forgets them, or looks for some. -/
def hash (_ : Runner) (_ : Mode) (arguments : List Octets) : Act Nat := do
  let (options, names) ← options [('r', false)] arguments
  if !options.isEmpty then
    change fun process => { process with hashed := [] }
    return 0
  else if names.isEmpty then
    let _ ← (inPlaces 31 id (← process).hashed).mapM fun name => do
      match ← meaning name with
      | .program _ path => write (path ++ ['\n'])
      | _ => return 0
    return 0
  else
    let statuses ← names.mapM fun name => do
      match ← meaning name with
      | .unknown =>
        if name.contains '/' then return 0
        else
          report (name ++ ": not found")
          return 1
      | _ => return 0
    return statuses.foldl max 0

end Builtin

end RepoCatalog.Shell
