import RepoCatalog.Rehearsal

/-!
# Command line

Rehearses a run with the given arguments. Recorded pages of projects are read from standard input.
-/

open RepoCatalog

/-- Environment variables that a run looks at. -/
def observedVariables : List String := ["GITLAB_TOKEN", "HOME", "PATH", "COLUMNS"]

/-- The environment as far as a run looks at it. -/
def observedEnvironment : IO Environment := do
  let mut environment : Environment := []
  for name in observedVariables do
    if let some value ← IO.getEnv name then environment := environment ++ [(name, value)]
  return environment

/-- The ignore list of a configuration, if it can be read. -/
def givenFiles (configuration : Configuration) : IO (List (String × List UInt8)) := do
  match configuration.ignoreList.bind Given.toOption with
  | none => return []
  | some path =>
    try
      let content ← IO.FS.readBinFile path
      return [(path, content.toList)]
    catch _ => return []

/-- The world in which the given arguments are rehearsed; without a configuration it is empty. -/
def rehearsalWorld (arguments : List String) : IO World := do
  let environment ← observedEnvironment
  match CommandLine.parse environment arguments with
  | .configured configuration =>
    let given ← givenFiles configuration
    let recording ← (← IO.getStdin).readToEnd
    return Rehearsal.world environment given (Rehearsal.pagesOf recording.toList)
  | _ => return Rehearsal.world environment [] []

/-- Rehearses a run and reports what it would do. -/
def main (arguments : List String) : IO UInt32 := do
  let world ← rehearsalWorld arguments
  match (Program.execute "livegrep-gitlab-reindex" arguments).run world with
  | (.ok ending, world) =>
    IO.print world.output
    IO.print (Rehearsal.report world)
    IO.eprint (Rehearsal.notice ending)
    return UInt32.ofNat (Rehearsal.status ending).toNat
  | (.error failure, _) =>
    IO.eprintln failure.message
    return 1
