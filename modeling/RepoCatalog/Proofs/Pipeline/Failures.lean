import RepoCatalog.Rehearsal
import RepoCatalog.Proofs.Journal.Setup
import RepoCatalog.Proofs.Pipeline.Causes

/-!
# How a run fails

A run against a server and programs that fail in their own ways only gives a specification, fails in
a way that is reported, is interrupted, or fails for a cause in what it was given. The program that
makes the run ends accordingly: with nothing recorded as an error, or with the one record of the
failure that it reports. Limits of the machine, on memory or the depth of a value, are left aside.
-/

namespace RepoCatalog

open Effect

/-! ## What a specification says -/

namespace Configuration

variable {feature : Json → Prop} {configuration : Configuration}

end Configuration

section Contracts

variable {configuration : Configuration} {invocation : String} {start : World}

end Contracts

/-! ## The logger -/

/-- Why the logger of a configuration cannot be set up in a world. -/
inductive Unlogged (configuration : Configuration) (start : World) : Failure → Prop
  | level (missing : configuration.logLevel = .nothing) :
      Unlogged configuration start .missingAttribute
  | file {file : String} {failure : Failure} (named : configuration.logFile = some (.value file))
      (unopened : ((Journal.openFile file).run start).1 = .error failure) :
      Unlogged configuration start failure

namespace Journal

end Journal

namespace Program

/-- How the program ends that makes a run of a configuration, and in which world. -/
inductive Ends (configuration : Configuration) (invocation : String) (start after : World) :
    Ending → Prop
  | returned (errors : after.errors = start.errors) :
      Ends configuration invocation start after .returned
  | reported {failure : Failure} (reported : failure.isReported = true)
      (errors : after.errors = start.errors ++ [failure.message]) :
      Ends configuration invocation start after (.exited 1 "")
  | interrupted (signal : Int) (errors : after.errors = start.errors) :
      Ends configuration invocation start after (interruptedBy signal)
  | failed {failure : Failure} (unreported : failure.isReported = false)
      (cause : Unlogged configuration start failure ∨
        Cause configuration invocation start failure)
      (errors : after.errors = start.errors) :
      Ends configuration invocation start after (.failed failure)

variable {configuration : Configuration} {invocation : String} {start world : World}

end Program

end RepoCatalog
