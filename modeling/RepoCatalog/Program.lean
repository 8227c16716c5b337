import RepoCatalog.CommandLine.Help
import RepoCatalog.Journal.Build
import RepoCatalog.Pipeline

/-!
# The program

A whole run from the command line: fatal conditions are recorded once and end with status one, an
interruption ends with the status of its signal.
-/

namespace RepoCatalog

open Effect

/-- How the program ends. -/
inductive Ending
  | returned
  | exited (status : Int) (notice : String)
  | failed (failure : Failure)
  deriving DecidableEq, Repr

namespace Program

/-- Notice about an interruption. -/
def interruptNotice : String := "\n[!] Interrupted, exiting.\n"

/-- Ending after a signal. -/
def interruptedBy (signal : Int) : Ending :=
  .exited (Failure.signalStatus signal) interruptNotice

/-- How the logger of a configuration is set up; nothing names no level. -/
def loggerOptions (configuration : Configuration) : Except Failure LoggerOptions :=
  match configuration.logLevel with
  | .value name =>
    .ok { LoggerOptions.standard with
      level := Level.ofName name, file := configuration.logFile.bind Given.toOption }
  | .nothing => .error .missingAttribute

/-- A configured run with its own logger. -/
def runConfigured (configuration : Configuration) (invocation : String) : Effect Unit := do
  let _ ← Journal.build (← ofExcept (loggerOptions configuration))
  let _ ← Pipeline.run configuration invocation

/-- Ending of a run that stopped with a failure. -/
def conclude (failure : Failure) : Effect Ending := do
  if failure.isReported then
    log .error failure.message
    return .exited 1 ""
  else
    match failure with
    | .interrupted => return interruptedBy Failure.interruptSignal
    | .signalled signal => return interruptedBy signal
    | _ => return .failed failure

/-- The program, given how it was called and its arguments. -/
def execute (invocation : String) (arguments : List String) : Effect Ending := do
  modify fun world => { world with recorder := .journal LoggerOptions.mainName }
  match CommandLine.parse (← get).environment arguments with
  | .help => do
    note (.printed (CommandLine.helpText (← get).environment))
    return .exited 0 ""
  | .misused complaint => return .exited 2 complaint
  | .failed failure => return .failed failure
  | .configured configuration =>
    tryCatch (do
      runConfigured configuration invocation
      return .returned) conclude

end Program

end RepoCatalog
