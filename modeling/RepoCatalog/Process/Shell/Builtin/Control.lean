import RepoCatalog.Process.Shell.Builtin.Names
import RepoCatalog.Process.Shell.Builtin.State
import RepoCatalog.Process.Signal

/-!
# Builtin commands for the course of a script

Commands that run other commands, end what is under way, or deal with signals and processes.
-/

namespace RepoCatalog.Shell

open Act

/-! ## Programs -/

/-- Whether a program cannot be started because it is missing. -/
def isMissing (fault : FileFault) : Bool :=
  fault = .noEntry || fault = .notDirectory

/-- Words for a program that cannot be started. -/
def startMessage (name : Octets) (fault : FileFault) : Octets :=
  name ++ ": " ++ Octets.ofString (if isMissing fault then "not found" else fault.reason)

/-- Status of a program that cannot be started. -/
def startStatus (fault : FileFault) : Nat :=
  if isMissing fault || fault = .tooManyLinks || fault = .nameTooLong then 127 else 126

/-- Program that runs scripts which name none. -/
def scriptProgram : String := "/bin/sh"

/-- Starts the first of several programs that can be started, in place of the shell; otherwise gives
the last fault that tells something. -/
def startFirst (runner : Runner) (arguments : List Octets) :
    FileFault → List Octets → Act FileFault
  | fault, [] => return fault
  | fault, path :: paths => do
    let found ← runner.program (Octets.toString path) arguments
    let found ← if found = .execFormat then
        runner.program scriptProgram (Octets.ofString scriptProgram :: path :: arguments.drop 1)
      else pure found
    startFirst runner arguments (if isMissing found then fault else found) paths

/-- Starts a program in place of the shell. -/
def execute (runner : Runner) (arguments : List Octets) : Act Unit := do
  let bindings ← exportedBindings
  change fun process => { process with bindings := bindings }
  let name := arguments.head?.getD []
  let fault ← startFirst runner arguments .noEntry (searchPaths (← searchPath) name)
  report (startMessage name fault)
  finish (startStatus fault)

namespace Builtin

/-! ## Other commands -/

/-- Runs its arguments as a script. -/
def eval (runner : Runner) (mode : Mode) (arguments : List Octets) : Act Nat := do
  runText runner { mode with exits := false } (Octets.join [' '] arguments)
  return (← process).status

/-- Runs a file as part of the script. -/
def source (runner : Runner) (_ : Mode) (arguments : List Octets) : Act Nat := do
  match ← noOptions arguments with
  | [] => return 0
  | name :: _ =>
    let files ← files
    let path ← if name.contains '/' then pure name else do
      match (searchPaths (← searchPath) name).find? (leadsToFile files) with
      | some path => pure path
      | none => fail (name ++ ": not found")
    match ← readFile path with
    | .error fault => fail (openingMessage path fault)
    | .ok text =>
      tryCatch (runText runner .plain text) fun interrupt =>
        match interrupt with
        | .returned => pure ()
        | interrupt => throw interrupt
      return (← process).status
where
  openingMessage (path : Octets) (fault : FileFault) : Octets :=
    "cannot open " ++ path ++ ": "
      ++ Octets.ofString (if isMissing fault then "No such file" else fault.reason)

/-- Starts a program in place of the shell. -/
def exec (runner : Runner) (_ : Mode) (arguments : List Octets) : Act Nat := do
  match ← noOptions arguments with
  | [] => return 0
  | arguments =>
    execute runner arguments
    return 0

/-! ## Leaving -/

/-- Ends the shell. -/
def exit (_ : Runner) (_ : Mode) (arguments : List Octets) : Act Nat := do
  match arguments with
  | [] =>
    let process ← process
    finish (process.statusBefore.getD process.status)
  | text :: _ => finish ((← numberOf text) % 256)

/-- Ends a function or a file that is part of the script. -/
def «return» (_ : Runner) (_ : Mode) (arguments : List Octets) : Act Nat := do
  match arguments with
  | [] => pure ()
  | text :: _ => setStatus (← numberOf text)
  throw .returned

/-- How many of the loops under way are meant. -/
def levels (arguments : List Octets) : Act Nat := do
  let wanted ← match arguments with
    | [] => pure 1
    | text :: _ => numberOf text
  if wanted = 0 then fail "Illegal number: 0"
  return min wanted (← process).loops

/-- Ends loops. -/
def «break» (_ : Runner) (_ : Mode) (arguments : List Octets) : Act Nat := do
  let levels ← levels arguments
  setStatus 0
  if levels = 0 then return 0 else throw (.left levels)

/-- Goes on with the next turn of a loop. -/
def «continue» (_ : Runner) (_ : Mode) (arguments : List Octets) : Act Nat := do
  let levels ← levels arguments
  setStatus 0
  if levels = 0 then return 0 else throw (.continued levels)

/-! ## Signals and processes -/

/-- Sets what is done on signals, or lists it. -/
def trap (_ : Runner) (_ : Mode) (arguments : List Octets) : Act Nat := do
  match ← noOptions arguments with
  | [] =>
    let traps := (← process).traps.mergeSort fun first second => first.1 ≤ second.1
    write (traps.flatMap fun (signal, action) =>
      "trap -- " ++ quote action ++ [' '] ++ Signal.name signal ++ ['\n'])
  | first :: rest =>
    let resets := rest.isEmpty || (Signal.ofNumber? first).isSome
    let action := if resets || first = ['-'] then none else some first
    let mut status := 0
    for text in if resets then first :: rest else rest do
      if status = 0 then
        match Signal.ofText? text with
        | none =>
          say ("trap: " ++ text ++ ": bad trap")
          status := 1
        | some signal =>
          change fun process =>
            let others := process.traps.filter (·.1 ≠ signal)
            { process with traps := match action with
                | some action => (signal, action) :: others
                | none => others }
    return status

/-- Words on how to send signals. -/
def killUsage : Octets :=
  "Usage: kill [-s sigspec | -signum | -sigspec] [pid | job]... or\nkill -l [exitstatus]"

/-- Sends a signal to processes. -/
def sendAll (signal : Nat) (targets : List Octets) : Act Nat := do
  let statuses ← targets.mapM fun target => do
    let reached ← match target with
      | '-' :: digits => do
        let _ ← numberOf digits
        pure false
      | target => do Signal.send (← numberOf target) signal
    if reached then return 0
    else
      report "No such process\n"
      return 1
  return statuses.foldl max 0

/-- Sends signals, or lists them. -/
def kill (_ : Runner) (_ : Mode) (arguments : List Octets) : Act Nat := do
  let finish (signal : Nat) (targets : List Octets) : Act Nat :=
    if targets.isEmpty then fail killUsage else sendAll signal targets
  match arguments with
  | [] => fail killUsage
  | ('-' :: specification) :: rest =>
    match Signal.ofText? specification with
    | some signal => finish signal rest
    | none =>
      let (options, targets) ← options [('l', false), ('s', true)] arguments
      if options.any (·.1 = 'l') then
        match targets with
        | [] =>
          let names := (List.range Signal.bound).drop 1
          write ("0\n" ++ Octets.unlines (names.map Signal.name))
        | text :: _ =>
          let number ← numberOf text
          let signal := if 128 < number then number - 128 else number
          if 0 < signal && signal < Signal.bound then write (Signal.name signal ++ ['\n'])
          else fail ("invalid signal number or exit status: " ++ text)
      else
        match options.getLast? with
        | none => finish Signal.terminate targets
        | some (_, text) =>
          match Signal.ofText? text with
          | some signal => finish signal targets
          | none => fail ("invalid signal number or name: " ++ text)
  | targets => finish Signal.terminate targets

/-- Jobs are not controlled, so there is none to go on with. -/
def noJob (_ : Runner) (_ : Mode) (_ : List Octets) : Act Nat :=
  fail "No current job"

/-- Waits for processes in the background. -/
def wait (runner : Runner) (_ : Mode) (arguments : List Octets) : Act Nat := do
  match ← noOptions arguments with
  | [] =>
    runJobs runner
    modify fun session => { session with jobs := [] }
    return 0
  | targets =>
    let statuses ← targets.mapM fun target => do
      let number ← match target with
        | '%' :: digits => do
          let position ← numberOf digits
          pure (((← get).jobs[position - 1]?).map (·.1) |>.getD 0)
        | target => numberOf target
      runJob runner number
      match (← get).jobs.lookup number with
      | some (.done outcome) =>
        Signal.mention outcome
        modify fun session => { session with jobs := session.jobs.filter (·.1 ≠ number) }
        return outcome.status
      | _ => return 127
    return (statuses.getLast?).getD 0

end Builtin

end RepoCatalog.Shell
