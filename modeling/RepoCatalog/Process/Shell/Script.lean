import RepoCatalog.Process.Shell.Reader
import RepoCatalog.Process.Shell.Variables
import RepoCatalog.Process.Signal

/-!
# Running scripts

A script is read and run line by line, so that what stands before a malformed line is run. The
commands themselves are run by a runner, which may do less than the one that uses it; that is how
the depth of commands within commands is bounded.
-/

namespace RepoCatalog.Shell

open Act

/-- What depends on a command: whether its failure is looked at, and whether nothing of the shell
is run after it. -/
structure Mode where
  /-- Whether its failure is looked at. -/
  tested : Bool
  /-- Whether nothing is run after it. -/
  exits : Bool
  deriving DecidableEq, Repr

/-- A mode in which failures count and the shell goes on. -/
def Mode.plain : Mode := ⟨false, false⟩

/-- What runs commands and programs. A program takes the place of the running one, so it comes back
only if it cannot be started. -/
structure Runner where
  /-- Runs a command. -/
  command : Command → Mode → Act Unit
  /-- Runs the program at a path with its name and its arguments. -/
  program : String → List Octets → Act FileFault

/-- Sets the status of the last command. -/
def setStatus (status : Nat) : Act Unit :=
  change fun process => { process with status := status }

/-- Runs the rest of a script line by line; fuel bounds the number of lines. The status of a script
without commands is zero. -/
def runLines (runner : Runner) (mode : Mode) : Nat → Source → Nat → Act Unit
  | 0, _, _ => throw .failed
  | fuel + 1, source, status => do
    let documents := (← process).documents
    change fun process => { process with line := source.line }
    let aliases := (← process).aliases
    match Source.nextCommand
        { source with documents := documents, next := documents.length, aliases := aliases } with
    | .error malformed =>
      change fun process => { process with line := malformed.line }
      fail ("Syntax error: " ++ malformed.message)
    | .ok (command, rest) =>
      change fun process => { process with documents := rest.documents }
      let finished := rest.isFinished || rest.rest.isEmpty
      match command with
      | none =>
        if finished then setStatus status else runLines runner mode fuel rest status
      | some command =>
        runner.command command { mode with exits := mode.exits && finished }
        if finished then pure ()
        else runLines runner mode fuel rest (← process).status

/-- Runs a text as a script. -/
def runText (runner : Runner) (mode : Mode) (text : Octets) : Act Unit := do
  let source := Source.ofText text
  runLines runner mode (text.length + 2) source 0

/-- Runs the command for a signal and restores the status. -/
def runTrap (runner : Runner) (action : Octets) : Act Unit := do
  let before ← process
  change fun process => { process with statusBefore := some before.status }
  runText runner .plain action
  change fun process =>
    { process with status := before.status, statusBefore := before.statusBefore }

/-- Runs the commands for signals that have arrived. -/
def handleSignals (runner : Runner) : Act Unit := do
  let session ← get
  match session.signals.filter (·.1 = session.process.number) with
  | [] => pure ()
  | arrived =>
    set { session with signals := session.signals.filter (·.1 ≠ session.process.number) }
    arrived.forM fun (number, signal) => do
      match if signal = Signal.kill then none else session.process.traps.lookup signal with
      | none => throw (.killed number signal)
      | some action => runTrap runner action

/-- Runs an action, whatever it is that it leaves; only signals go on. -/
def guarded (action : Act Unit) : Act Unit :=
  tryCatch action fun interrupt =>
    match interrupt with
    | .killed process signal => throw (.killed process signal)
    | _ => pure ()

/-- Runs the command for the end of the shell. -/
def runLastTrap (runner : Runner) : Act Unit := do
  match (← process).traps.lookup 0 with
  | none => pure ()
  | some text =>
    change fun process => { process with traps := process.traps.filter (·.1 ≠ 0), loops := 0 }
    guarded (runTrap runner text)

/-- Runs a process that waits in the background. -/
def runJob (runner : Runner) (number : Nat) : Act Unit := do
  match (← get).jobs.lookup number with
  | some (.waiting process working command) =>
    let outcome ← inChild (fun _ => process) do
      setFiles { ← files with working := working }
      guarded (runner.command command ⟨false, true⟩)
      runLastTrap runner
    modify fun session => { session with jobs := assign number (.done outcome) session.jobs }
  | _ => pure ()

/-- Runs all processes that wait in the background. -/
def runJobs (runner : Runner) : Act Unit := do
  (← get).jobs.forM fun (number, _) => runJob runner number

/-- Runs what a shell consists of, then the command for its end and what is left in the background;
the shell ends in any case. -/
def asShell (runner : Runner) (action : Act Unit) : Act Unit := do
  guarded action
  runLastTrap runner
  let status := (← process).status
  runJobs runner
  setStatus status
  throw .ended

/-- A process that goes on as a shell of its own: it has the traps that ignore signals only. -/
def Process.forked (process : Process) : Process :=
  { process with traps := process.traps.filter (·.2.isEmpty) }

/-- Runs commands as a shell of its own. -/
def inSubshell (runner : Runner) (action : Act Unit) : Act Outcome :=
  inChild Process.forked (asShell runner action)

end RepoCatalog.Shell
