import RepoCatalog.Specification.Build
import RepoCatalog.World

/-!
# The delegate

The program that fetches the repositories of a specification and builds the index.
-/

namespace RepoCatalog

open Effect

/-- What the delegate is told. -/
structure DelegateOptions where
  /-- File the index is written to. -/
  indexPath : String
  /-- The program that builds the index. -/
  codesearch : Given String
  /-- Number of repositories updated at a time. -/
  workers : Given Int
  /-- File that holds the specification. -/
  specificationPath : String
  /-- Whether indexing is left out. -/
  noIndex : Bool
  /-- Whether revisions in links are resolved. -/
  resolvesRevisions : Bool
  /-- Whether missing repositories are skipped. -/
  skipsMissing : Bool
  deriving DecidableEq, Repr

namespace DelegateOptions

/-- A flag, if it is set. -/
def flagIf (flag : String) (isSet : Bool) : List (Given String) :=
  if isSet then [.value flag] else []

/-- Arguments of the delegate; the file that holds the specification comes last. -/
def arguments (options : DelegateOptions) : Except Failure (List (Given String)) :=
  if Nat.pow 10 Failure.digitLimit ≤ (options.workers.getD 0).natAbs then .error .numberTooLong
  else
    let leading : List (Given String) :=
      ["--out", options.indexPath, "--codesearch", options.codesearch, "--num-workers",
        options.workers.shown toString]
    .ok (leading ++ flagIf "--no-index" options.noIndex
      ++ flagIf "--revparse" options.resolvesRevisions
      ++ flagIf "--skip-missing" options.skipsMissing ++ [.value options.specificationPath])

end DelegateOptions

namespace Delegate

/-- Environment of the delegate: its own only if there is a token to pass on. -/
def environmentFor (token : String) (environment : Environment) : Option Environment :=
  if token = "" then none else some (assign tokenVariable token environment)

/-- Runs the delegate, which has to succeed. -/
def run (program : String) (arguments : List (Given String)) (token : String) : Effect Unit := do
  log .info ("Running: " ++ program ++ " " ++ Launch.shownArguments arguments)
  let environment := environmentFor token (← get).environment
  let status ← reword Failure.isSystem (.delegateNotStarted program)
    (launch ⟨.value program :: arguments, environment, false⟩)
  if status ≠ 0 then throw (.delegateExited program status)

end Delegate

end RepoCatalog
