import RepoCatalog.Process.Escape
import RepoCatalog.Process.Shell.Arithmetic
import RepoCatalog.Process.Tool.Files

/-!
# Tools that run programs

Programs that start another one in their place, with an environment or under conditions of its own.
-/

namespace RepoCatalog.Tool

open Act

/-- Path searched when the environment has none. -/
def defaultSearchPath : Octets := "/bin:/usr/bin"

/-- Paths at which a program may be found. -/
def programPaths (bindings : Bindings) (program : Octets) : List Octets :=
  if program.contains '/' then [program]
  else
    let path := (bindings.lookup ("PATH" : Octets)).getD defaultSearchPath
    (Text.split ':' path).map fun directory =>
      if directory.isEmpty then program else directory ++ '/' :: program

/-- Starts the first of several programs that can be started in place of the running one; otherwise
gives the fault that tells most. -/
def startFirst (runner : Shell.Runner) (arguments : List Octets) :
    FileFault → List Octets → Act FileFault
  | fault, [] => return fault
  | fault, path :: paths => do
    let found ← runner.program (Octets.toString path) arguments
    match found with
    | .execFormat =>
      runner.program "/bin/sh" (("/bin/sh" : Octets) :: path :: arguments.drop 1)
    | .accessDenied => startFirst runner arguments .accessDenied paths
    | .noEntry | .notDirectory => startFirst runner arguments fault paths
    | found => return found

/-- Starts a program in place of the running one; if that is not possible, ends with a message. -/
def replaceBy (runner : Shell.Runner) (name complaint : Octets) (arguments : List Octets) :
    Act Nat := do
  let program := arguments.head?.getD []
  let fault ← startFirst runner arguments .noEntry (programPaths (← process).bindings program)
  complain name (complaint ++ quoted program ++ ": " ++ Octets.ofString fault.reason)
  return if fault = .noEntry then 127 else 126

/-! ## Environments -/

/-- What is known within a text that stands for several arguments. -/
structure Splitting where
  /-- Quote that is open. -/
  quote : Option Char
  /-- Argument under way, its last character first. -/
  word : Option Octets
  deriving DecidableEq, Repr

/-- Arguments that a text stands for, or why it stands for none; fuel bounds its length. -/
def splitArguments (bindings : Bindings) :
    Nat → Splitting → Octets → Except Octets (List Octets)
  | 0, _, _ => .ok []
  | _ + 1, ⟨some _, _⟩, [] => .error "no terminating quote in -S string"
  | _ + 1, ⟨none, word⟩, [] => .ok (word.map List.reverse).toList
  | fuel + 1, state, c :: rest =>
    let word := state.word.getD []
    let add (text : Octets) (rest : Octets) : Except Octets (List Octets) :=
      splitArguments bindings fuel ⟨state.quote, some (text.reverse ++ word)⟩ rest
    let cut (rest : Octets) : Except Octets (List Octets) := do
      return (state.word.map List.reverse).toList
        ++ (← splitArguments bindings fuel ⟨none, none⟩ rest)
    let inSingle := state.quote = some '\x27'
    if (c == '\x27' || c == '"') && (state.quote.isNone || state.quote = some c) then
      splitArguments bindings fuel ⟨if state.quote.isNone then some c else none, some word⟩ rest
    else if state.quote.isNone && Shell.Expression.isSpace c then cut rest
    else if c == '#' && state.word.isNone then .ok []
    else if c == '$' && !inSingle then
      let (name, behind) := (rest.drop 1).span fun c => c.isAlphanum || c == '_'
      if rest.head? = some '\x7b' && behind.head? = some '\x7d' && !name.isEmpty then
        match bindings.lookup name with
        | some value => add value (behind.drop 1)
        | none => splitArguments bindings fuel state (behind.drop 1)
      else .error ("only $\x7bVARNAME\x7d expansion is supported, error at: " ++ c :: rest)
    else if c == '\\' then
      match rest with
      | [] => if inSingle then add [c] [] else .error "invalid backslash at end of string in -S"
      | shown :: rest =>
        if inSingle && shown != '\\' && shown != '\x27' then add [c] (shown :: rest)
        else if ['"', '#', '$', '\x27', '\\'].contains shown then add [shown] rest
        else if shown == '_' then if state.quote.isNone then cut rest else add [' '] rest
        else if shown == 'c' then
          if state.quote.isNone then .ok (state.word.map List.reverse).toList
          else .error "'\\c' must not appear in double-quoted -S string"
        else if ['f', 'n', 'r', 't', 'v'].contains shown then
          add [(Escape.letter? shown).getD shown] rest
        else .error ("invalid sequence '\\" ++ [shown] ++ "' in -S")
    else add [c] rest

/-- Arguments in which those that stand for several are split; fuel bounds how many. -/
def expandSplits (bindings : Bindings) : Nat → List Octets → Except Octets (List Octets)
  | 0, arguments => .ok arguments
  | fuel + 1, arguments =>
    let split (text : Octets) (rest : List Octets) : Except Octets (List Octets) := do
      return (← splitArguments bindings (text.length + 1) ⟨none, none⟩ text) ++ rest
    match arguments with
    | ['-', 'S'] :: text :: rest => split text rest
    | ('-' :: 'S' :: text) :: rest => split text rest
    | ('-' :: 'v' :: 'S' :: text) :: rest => split text rest
    | ['-', 'u'] :: value :: rest => do
      return ['-', 'u'] :: value :: (← expandSplits bindings fuel rest)
    | ['-', 'C'] :: value :: rest => do
      return ['-', 'C'] :: value :: (← expandSplits bindings fuel rest)
    | ('-' :: letters) :: rest => do return ('-' :: letters) :: (← expandSplits bindings fuel rest)
    | arguments => .ok arguments

/-- Arguments that assign variables, and what follows them. -/
def takeAssignments (arguments : List Octets) : Bindings × List Octets :=
  let assignments := arguments.takeWhile (·.contains '=')
  (assignments.map fun text =>
    let (name, value) := text.span (· != '=')
    (name, value.drop 1), arguments.drop assignments.length)

/-- Runs a program with another environment, or writes the environment. -/
def env : Tool := fun runner name arguments => do
  let present := (← process).bindings
  let arguments ← match expandSplits present (arguments.length + 1) arguments with
    | .ok arguments => pure arguments
    | .error message => do
      complain name message
      finish 125
  let (flags, operands) ← sort ⟨['i', '0', 'v'], ['u', 'C'],
    [("ignore-environment", 'i'), ("unset", 'u'), ("chdir", 'C'), ("null", '0')], false⟩ name 125
    arguments
  let (clears, operands) := match operands with
    | ['-'] :: rest => (true, rest)
    | operands => (has flags 'i', operands)
  let start := if clears then [] else present
  let dropped := (flags.filter (·.letter = 'u')).map (·.argument)
  let kept := start.filter fun (key, _) => !dropped.contains key
  let (assigned, rest) := takeAssignments operands
  let bindings := assigned.foldl (fun bindings (key, value) => assign key value bindings) kept
  match argument? flags 'C' with
  | none => pure ()
  | some path =>
    let files ← files
    match files.resolve .follow (Octets.toString path) with
    | .ok (.present place .directory) => setFiles { files with working := place }
    | _ =>
      complain name (aboutFile "cannot change directory to" path .noEntry)
      finish 125
  if rest.isEmpty then
    let ending : Octets := if has flags '0' then ['\x00'] else ['\n']
    write name (bindings.flatMap fun (key, value) => key ++ '=' :: value ++ ending)
  else
    change fun process => { process with bindings := bindings }
    replaceBy runner name [] rest

/-! ## Conditions -/

/-- Runs a program under conditions that do not matter here. -/
def runPlainly (valued : List Char) (skipped : Nat) : Tool := fun runner name arguments => do
  let (_, operands) ← sort ⟨['v', 'f'], valued,
    [("kill-after", 'k'), ("signal", 's'), ("foreground", 'f')], false⟩ name 125 arguments
  match operands.drop skipped with
  | [] =>
    if operands.isEmpty && skipped = 0 then missing name 125
    else
      pointToHelp name
      return 125
  | operands => replaceBy runner name "failed to run command " operands

/-- Runs a program with less urgency, which does not matter here, or tells how urgent it is. -/
def nice : Tool := fun runner name arguments => do
  let (flags, operands) ← sort ⟨[], ['n'], [("adjustment", 'n')], false⟩ name 125 arguments
  match operands, argument? flags 'n' with
  | [], none => write name "0\n"
  | [], some _ => misuse name 125 "a command must be given with an adjustment"
  | operands, _ => replaceBy runner name [] operands

end RepoCatalog.Tool
