import RepoCatalog.CommandLine.Parse
import RepoCatalog.Delegate
import RepoCatalog.Discovery
import RepoCatalog.IgnoreList
import RepoCatalog.Locate
import RepoCatalog.Selection
import RepoCatalog.Specification.Store

/-!
# The pipeline

A run discovers repositories, selects and sorts them, checks revisions if asked to, writes the
specification and hands it to the delegate.
-/

namespace RepoCatalog

open Effect

namespace Configuration

/-- Policy of a run; reads the ignore list, if there is one. -/
def policy (files : FileTree) (configuration : Configuration) : Except Failure Policy :=
  let policyWith (ignored : Option (List String)) : Policy :=
    ⟨!configuration.forks, !configuration.archived, ignored⟩
  let path := (configuration.ignoreList.bind Given.toOption).getD ""
  if path = "" then .ok (policyWith none)
  else (IgnoreList.load files path).map fun paths => policyWith (some paths)

/-- Connection of a run. -/
def connection (configuration : Configuration) : Connection :=
  ⟨configuration.address, configuration.token.getD "", configuration.timeout,
    configuration.proxy.bind Given.toOption, !configuration.insecure⟩

/-- What the entries of a run have in common. -/
def entryOptions (configuration : Configuration) : EntryOptions :=
  ⟨configuration.directory, configuration.revision, configuration.http,
    passwordVariableFor (configuration.token.getD ""), configuration.depth.getD 0,
    configuration.httpUser.getD "", configuration.urlPattern.getD ""⟩

/-- Directory in whose clones revisions are checked, if they are. -/
def checkRoot (configuration : Configuration) : Option (Given String) :=
  if configuration.skipMissing then some configuration.directory else none

/-- What the delegate of a run is told. -/
def delegateOptions (configuration : Configuration) : DelegateOptions :=
  ⟨configuration.indexPath, configuration.codesearch, configuration.workers,
    configuration.specificationPath, configuration.noIndex, configuration.revparse,
    configuration.skipMissing⟩

/-- The delegate of a run: as given, or located by how the program was called. -/
def delegateProgram (files : FileTree) (invocation : String) (configuration : Configuration) :
    Except Failure String :=
  let program := (configuration.fetchReindex.bind Given.toOption).getD ""
  if program = "" then (locate files Strategy.defaults Failure.delegateName invocation).outcome
  else .ok program

end Configuration

namespace Pipeline

/-- The repositories that are indexed, in order. -/
def choose (policy : Policy) (discovered : List Repository) : Effect (List Repository) := do
  ofExcept (Selection.sort (← Selection.select policy discovered))

/-- Connects and discovers repositories. -/
def discover (configuration : Configuration) (policy : Policy) : Effect (List Repository) := do
  configuration.connection.connect
  Discovery.discover (configuration.groups.map .path) configuration.perPage
    (if policy.excludesArchived then some false else none)

/-- The specification of a run. -/
def specify (configuration : Configuration) : Effect Specification := do
  let policy ← ofExcept (configuration.policy (← get).files)
  let discovered ← discover configuration policy
  let chosen ← choose policy discovered
  Specification.build (configuration.name.getD "") configuration.entryOptions
    configuration.checkRoot chosen

/-- Hands the specification of a run to the delegate. -/
def delegate (configuration : Configuration) (invocation : String) : Effect Unit := do
  let program ← ofExcept (configuration.delegateProgram (← get).files invocation)
  let arguments ← ofExcept configuration.delegateOptions.arguments
  Delegate.run program arguments (configuration.token.getD "")

/-- One run: gives the specification that was written and handed to the delegate. -/
def run (configuration : Configuration) (invocation : String) : Effect Specification := do
  let specification ← specify configuration
  let path ← specification.store configuration.specificationPath
  log .info ("Wrote index specification with " ++ toString specification.repositories.length
    ++ " repositories: " ++ path.text)
  delegate configuration invocation
  return specification

end Pipeline

end RepoCatalog
