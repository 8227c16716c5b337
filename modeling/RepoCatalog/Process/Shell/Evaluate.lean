import RepoCatalog.Process.Shell.Builtin.Control
import RepoCatalog.Process.Shell.Builtin.Text
import RepoCatalog.Process.Shell.Redirect

/-!
# Running commands

How commands are run: simple ones as functions, builtin commands or programs, and the others by
running those that they consist of.
-/

namespace RepoCatalog.Shell

open Act

/-- Builtin commands by name. -/
def builtins : List (String × Builtin) :=
  let special (run : Runner → Mode → List Octets → Act Nat) : Builtin := ⟨true, false, run⟩
  let regular (run : Runner → Mode → List Octets → Act Nat) : Builtin := ⟨false, false, run⟩
  let constant (status : Nat) (_ : Runner) (_ : Mode) (_ : List Octets) : Act Nat := return status
  [(":", special (constant 0)), (".", special Builtin.source), ("break", special Builtin.break),
    ("continue", special Builtin.continue), ("eval", special Builtin.eval),
    ("exec", special Builtin.exec), ("exit", special Builtin.exit),
    ("export", ⟨true, true, Builtin.exportVariables⟩),
    ("readonly", ⟨true, true, Builtin.protectVariables⟩), ("return", special Builtin.return),
    ("set", special Builtin.set), ("shift", special Builtin.shift), ("times", special (constant 0)),
    ("trap", special Builtin.trap), ("unset", special Builtin.unset),
    ("true", regular (constant 0)), ("false", regular (constant 1)),
    ("echo", regular Builtin.echo), ("printf", regular Builtin.printf),
    ("test", regular Builtin.test), ("[", regular Builtin.bracket),
    ("read", regular Builtin.read), ("cd", regular Builtin.cd), ("chdir", regular Builtin.cd),
    ("pwd", regular Builtin.pwd), ("local", ⟨true, true, Builtin.makeLocal⟩),
    ("getopts", regular Builtin.getopts), ("umask", regular Builtin.umask),
    ("command", regular Builtin.command), ("type", regular Builtin.type),
    ("kill", regular Builtin.kill), ("wait", regular Builtin.wait), ("hash", regular Builtin.hash),
    ("jobs", regular (constant 0)), ("alias", regular Builtin.alias),
    ("unalias", regular Builtin.unalias), ("ulimit", regular (constant 0)),
    ("bg", regular Builtin.noJob), ("fg", regular Builtin.noJob)]

/-- Builtin command of a name. -/
def builtin? (name : Octets) : Option Builtin :=
  (builtins.find? fun (known, _) => known.toList == name).map (·.2)

/-- How many turns a loop takes at most. -/
def turnLimit : Nat := 100000

/-- Runs a turn of a loop and tells whether the loop goes on. -/
def turn (action : Act Bool) : Act Bool :=
  tryCatch action fun interrupt =>
    match interrupt with
    | .left levels => if levels ≤ 1 then return false else throw (.left (levels - 1))
    | .continued levels => if levels ≤ 1 then return true else throw (.continued (levels - 1))
    | interrupt => throw interrupt

/-- Runs turns as long as they say so; fuel bounds their number. -/
def turns (action : Act Bool) : Nat → Act Unit
  | 0 => do throw (.killed (← process).number 13)
  | fuel + 1 => do
    if ← turn action then turns action fuel

/-- Runs an action as a loop. -/
def asLoop (action : Act Unit) : Act Unit := do
  let loops := (← process).loops
  change fun process => { process with loops := loops + 1 }
  try action
  finally change fun process => { process with loops := loops }

/-- Runs a loop with a test. Its status is that of its last turn. -/
def runLoop (runner : Runner) (mode : Mode) (untilTrue : Bool) (test body : Command) :
    Act Unit := do
  let rec go : Nat → Nat → Act Unit
    | 0, _ => do throw (.killed (← process).number 13)
    | fuel + 1, status => do
      -- The status so far counts unless the turn runs to its end.
      let goesOn ← turn do
        setStatus status
        runner.command test ⟨true, false⟩
        if ((← process).status = 0) = untilTrue then
          setStatus status
          return false
        else
          runner.command body ⟨mode.tested, false⟩
          return true
      if goesOn then go fuel (← process).status
  asLoop (go turnLimit 0)

/-- Runs commands once for every value of a variable. -/
def runEach (runner : Runner) (mode : Mode) (name : Octets) (body : Command) :
    List Octets → Act Unit
  | [] => pure ()
  | value :: values => do
    let goesOn ← turn do
      setVariable name value
      runner.command body ⟨mode.tested, false⟩
      return true
    if goesOn then runEach runner mode name body values

/-- Runs the first case with a pattern that fits. -/
def runCases (runner : Runner) (mode : Mode) (subject : Octets) :
    List (List Word × Option Command) → Act Unit
  | [] => setStatus 0
  | (patterns, body) :: cases => do
    let rec anyFits : List Word → Act Bool
      | [] => return false
      | word :: words => do
        let pattern ← expandPattern runner word
        if pattern.fits subject then return true else anyFits words
    if ← anyFits patterns then
      match body with
      | some body => runner.command body mode
      | none => setStatus 0
    else runCases runner mode subject cases

/-- Runs commands, the output of each being the input of the next. -/
def runPipeline (runner : Runner) (mode : Mode) : Option Nat → List Command → Act Unit
  | _, [] => pure ()
  | input, command :: commands => do
    let output ← if commands.isEmpty then pure none
      else some <$> addStream ⟨.buffer [], 0, true, true, true⟩
    let connectBoth : Act Unit := do
      if input.isSome then connect 0 input
      if output.isSome then connect 1 output
    let outcome ← inSubshell runner do
      connectBoth
      runner.command command ⟨mode.tested, true⟩
    if commands.isEmpty then Signal.mention outcome
    setStatus outcome.status
    -- Only the reading side of a stream goes on.
    match output with
    | some stream =>
      modify fun session =>
        match session.system.streams[stream]? with
        | some held =>
          { session with system := session.system.set stream { held with writes := false } }
        | none => session
    | none => pure ()
    runPipeline runner mode output commands

/-- Runs a function on arguments. -/
def runFunction (runner : Runner) (mode : Mode) (body : Command) (line : Nat)
    (arguments : List Octets) : Act Unit := do
  let before ← process
  change fun process =>
    { process with
      arguments := arguments, optionIndex := 1, optionOffset := none, loops := 0
      calls := before.calls + 1, functionLine := line }
  try
    tryCatch (runner.command body ⟨mode.tested, false⟩) fun interrupt =>
      match interrupt with
      | .returned => pure ()
      | interrupt => throw interrupt
  finally
    change fun process =>
      { process with
        arguments := before.arguments, optionIndex := before.optionIndex
        optionOffset := before.optionOffset, loops := before.loops, calls := before.calls
        functionLine := before.functionLine }

/-- Runs a builtin command. An error in it ends the shell only if it is a special one. -/
def runBuiltin (runner : Runner) (mode : Mode) (builtin : Builtin) (isSpecial : Bool)
    (name : Octets) (arguments : List Octets) : Act Unit := do
  let before := (← process).command
  let restore : Act Unit := change fun process => { process with command := before }
  change fun process => { process with command := some name }
  tryCatch (do
    let status ← builtin.run runner mode arguments
    restore
    setStatus status) fun interrupt => do
    restore
    match interrupt with
    | .failed => if isSpecial then throw .failed else pure ()
    | interrupt => throw interrupt

/-- Runs a program and waits for it, unless nothing of the shell is run after it. -/
def runProgram (runner : Runner) (mode : Mode) (arguments : List Octets) : Act Unit := do
  let name := arguments.head?.getD []
  let files ← files
  let found := name.contains '/'
    || (searchPaths (← searchPath) name).any (leadsToFile files)
  if !found then
    report (startMessage name .noEntry)
    setStatus 127
  else
    if !name.contains '/' then rememberProgram name
    if Octets.toString name = "sleep" then runJobs runner
    if mode.exits && (← process).traps.all (·.2.isEmpty) && (← get).jobs.isEmpty then
      execute runner arguments
    else
      let outcome ← inChild Process.forked (execute runner arguments)
      Signal.mention outcome
      setStatus outcome.status

/-! ## Simple commands -/

/-- Expands words until there is a first one. -/
def expandFirst (runner : Runner) : List Word → Act (List Octets × List Word)
  | [] => return ([], [])
  | word :: words => do
    match ← expandWord runner word with
    | [] => expandFirst runner words
    | texts => return (texts, words)

/-- What runs a simple command. -/
inductive Executor
  | nothing
  | function (line : Nat) (body : Command)
  | builtin (name : Octets) (builtin : Builtin)
  | program
  deriving Inhabited

/-- What runs a command of a name; `command` in front of it leaves functions out. -/
def executorOf (name : Octets) (withoutFunctions : Bool) : Act Executor := do
  let process ← process
  match if withoutFunctions then none else process.functions.lookup name with
  | some (Command.define line _ body) => return .function line body
  | _ =>
    match builtin? name with
    | some builtin => return .builtin name builtin
    | none => return .program

/-- What is known of a simple command whose first words are expanded. -/
structure Plan where
  /-- What runs it. -/
  executor : Executor
  /-- Name and arguments, as far as they are expanded. -/
  texts : List Octets
  /-- Words that are not expanded yet. -/
  words : List Word
  /-- Whether it was a special builtin command that came first. -/
  isSpecial : Bool
  /-- Whether assignments in front of it last. -/
  keepsAssignments : Bool

/-- Takes the word `command` and its options away in front of a command, if it is to be run; fuel
bounds the number of words. -/
def takeCommandWord (runner : Runner) : Nat → List Octets → List Word →
    Act (Option (List Octets × List Word))
  | 0, _, _ => return none
  | fuel + 1, texts, words => do
    match texts with
    | [] =>
      match ← expandFirst runner words with
      | ([], _) => return none
      | (texts, words) => takeCommandWord runner fuel texts words
    | ['-', '-'] :: rest =>
      match rest with
      | [] =>
        let (texts, words) ← expandFirst runner words
        return if texts.isEmpty then none else some (texts, words)
      | rest => return some (rest, words)
    | ('-' :: c :: letters) :: rest =>
      if (c :: letters).all (· = 'p') then takeCommandWord runner fuel rest words else return none
    | texts => return some (texts, words)

/-- Finds out what runs a command; fuel bounds how often the word `command` stands in front. -/
def planFrom (runner : Runner) : Nat → Bool → Option Bool → List Octets → List Word → Act Plan
  | 0, _, _, texts, words => return ⟨.program, texts, words, false, false⟩
  | fuel + 1, withoutFunctions, special, texts, words => do
    let executor ← executorOf (texts.head?.getD []) withoutFunctions
    match executor with
    | .builtin name builtin =>
      let isSpecial := special.getD builtin.special
      let plan : Plan := ⟨executor, texts, words, isSpecial, isSpecial⟩
      if name = "command" then
        -- The words that were looked at are kept if the command is not run after all.
        let (texts, words) ← if texts.length < 2 then do
          let (more, words) ← expandFirst runner words
          pure (texts ++ more, words) else pure (texts, words)
        match ← takeCommandWord runner (texts.length + words.length + 1) (texts.drop 1) words with
        | some (texts, words) => planFrom runner fuel true (some isSpecial) texts words
        | none => return { plan with texts := texts, words := words }
      else return plan
    | executor => return ⟨executor, texts, words, false, false⟩

/-- Expands words that may assign variables. -/
def expandArguments (runner : Runner) (assigns : Bool) (words : List Word) : Act (List Octets) := do
  let texts ← words.mapM fun word => do
    match if assigns then assignment? word else none with
    | some (name, value) => return [name ++ '=' :: (← expandAssigned runner value)]
    | none => expandWord runner word
  return texts.flatten

/-- Makes assignments in front of a command and gives them as texts. -/
def makeAssignments (runner : Runner) (own exports : Bool) (assignments : List (Octets × Word)) :
    Act (List Octets) :=
  assignments.mapM fun (name, word) => do
    let value ← expandAssigned runner word
    if own then
      refuseReadOnly name
      rememberVariable name
    if own || exports then setExported name value else setVariable name value
    return name ++ '=' :: value

/-- Writes a command that is going to run, if that is wanted, to where messages went to before. -/
def trace (runner : Runner) (descriptors : List (Nat × Nat)) (texts : List Octets) : Act Unit := do
  if (← process).options.contains 'x' then
    let start ← expandTemplate runner ((← value? "PS4").getD [])
    let present := (← process).descriptors
    change fun process => { process with descriptors := descriptors }
    say (start ++ Octets.join [' '] texts)
    change fun process => { process with descriptors := present }

/-- Runs a simple command. -/
def runSimple (runner : Runner) (mode : Mode) (assignments : List (Octets × Word))
    (words : List Word) (redirections : List Redirection) : Act Unit := do
  change fun process => { process with insertedStatus := 0 }
  let (texts, words) ← expandFirst runner words
  let plan : Plan ←
    if texts.isEmpty then pure ⟨.nothing, [], [], false, true⟩
    else planFrom runner (words.length + 1) false none texts words
  let assigns := match plan.executor with
    | .builtin _ builtin => builtin.assigns
    | _ => false
  let texts := plan.texts ++ (← expandArguments runner assigns plan.words)
  let arguments := texts.drop 1
  let isExec := match plan.executor with
    | .builtin name _ => name = "exec"
    | _ => false
  let redirected ← redirections.mapM (expandRedirection runner)
  let before := (← process).descriptors
  let run : Act Unit := do
    if ← applyAll redirected then
      let assigned ←
        makeAssignments runner (!plan.keepsAssignments) (isExec && !arguments.isEmpty) assignments
      trace runner before (assigned ++ texts)
      match plan.executor with
      | .nothing => setStatus (← process).insertedStatus
      | .function line body => runFunction runner mode body line arguments
      | .builtin name builtin => runBuiltin runner mode builtin plan.isSpecial name arguments
      | .program => runProgram runner mode texts
    else
      setStatus 2
      if plan.isSpecial then throw .failed
  try
    if plan.keepsAssignments then run else withLocals run
  finally
    if !isExec then leadBack redirected before

/-! ## All commands -/

/-- Remembers the line of a command. -/
def reach (line : Nat) : Act Unit :=
  change fun process => { process with line := line }

/-- Ends the shell if failures end it and a command failed. -/
def checkFailure (mode : Mode) : Act Unit := do
  let process ← process
  if process.options.contains 'e' && !mode.tested && process.status ≠ 0 then throw .ended

/-- Lets a command run in the background. -/
def startBackground (command : Command) : Act Unit := do
  let session ← get
  let number := session.started + 1
  let nothing ← addStream ⟨.device .null, 0, true, true, false⟩
  let process := session.process
  let descriptors := (0, nothing) :: process.descriptors.filter (·.1 ≠ 0)
  let child := { Process.forked process with number := number, descriptors := descriptors }
  modify fun session =>
    { session with
      started := number
      jobs := session.jobs ++ [(number, .waiting child session.system.files.working command)]
      process := { process with background := some number, status := 0 } }

/-- Runs a command. -/
def runCommand (runner : Runner) (mode : Mode) : Command → Act Unit
  | .simple line assignments words redirections => do
    reach line
    runSimple runner mode assignments words redirections
    checkFailure mode
  | .pipeline commands => do
    runPipeline runner mode none commands
    checkFailure mode
  | .negate command => do
    runner.command command ⟨true, false⟩
    setStatus (if (← process).status = 0 then 1 else 0)
  | .both first second => do
    runner.command first ⟨true, false⟩
    if (← process).status = 0 then runner.command second mode
  | .either first second => do
    runner.command first ⟨true, false⟩
    if (← process).status ≠ 0 then runner.command second mode
  | .sequence first second => do
    runner.command first { mode with exits := false }
    runner.command second mode
  | .background command => startBackground command
  | .subshell line body redirections => do
    reach line
    let redirected ← redirections.mapM (expandRedirection runner)
    let outcome ← inSubshell runner do
      if ← applyAll redirected then runner.command body ⟨mode.tested, true⟩ else setStatus 2
    Signal.mention outcome
    setStatus outcome.status
    checkFailure mode
  | .redirected line body redirections => do
    reach line
    withRedirections runner redirections (runner.command body { mode with exits := false }) do
      setStatus 2
      checkFailure mode
  | .each line name words body => do
    reach line
    let values ← expandArguments runner false words
    setStatus 0
    asLoop (runEach runner mode name body values)
  | .loop untilTrue test body => runLoop runner mode untilTrue test body
  | .branch test yes no => do
    runner.command test ⟨true, false⟩
    if (← process).status = 0 then runner.command yes mode
    else
      match no with
      | some no => runner.command no mode
      | none => setStatus 0
  | .choose line subject cases => do
    reach line
    let subject ← expandText runner subject
    runCases runner mode subject cases
  | .define line name body => do
    change fun process =>
      { process with functions := assign name (.define line name body) process.functions }
    setStatus 0

/-- Runs a command, unless commands are only read, and acts on signals before and after it. -/
def runAttentively (runner : Runner) (command : Command) (mode : Mode) : Act Unit := do
  handleSignals runner
  if !(← process).options.contains 'n' then runCommand runner mode command
  handleSignals runner

/-! ## Shells -/

/-- Path of the working directory that a shell starts with. -/
def startDirectory (bindings : Bindings) (files : FileTree) : Octets :=
  match bindings.lookup ("PWD" : Octets) with
  | some path =>
    if path.head? = some '/' && (files.resolve .follow (Octets.toString path) matches
        .ok (.present _ .directory)) && files.settle (Octets.toString path) = files.working
    then path else FileTree.absoluteText files.working
  | none => FileTree.absoluteText files.working

/-- What a shell is to run. -/
inductive Input
  | text (text : Octets)
  | file (path : Octets)
  | standard

/-- What the arguments of a shell ask for: what it runs, its name, and the arguments of that. -/
structure Invocation where
  /-- What it runs. -/
  input : Input
  /-- Its name. -/
  name : Octets
  /-- The arguments of what it runs. -/
  arguments : List Octets

/-- Reads the options of a shell; fuel bounds their number. -/
def readOptions : Nat → Bool → List Octets → Act (Bool × List Octets)
  | 0, asText, arguments => return (asText, arguments)
  | fuel + 1, asText, arguments => do
    match arguments with
    | ['-'] :: rest | ['-', '-'] :: rest => return (asText, rest)
    | ('-' :: letters) :: rest =>
      let (known, texts) := letters.partition fun c => c ≠ 'c' && c ≠ 'l'
      let rest ← Builtin.setLetters true known rest
      readOptions fuel (asText || texts.contains 'c') rest
    | ('+' :: letters) :: rest =>
      let rest ← Builtin.setLetters false letters rest
      readOptions fuel asText rest
    | arguments => return (asText, arguments)

/-- Reads the arguments of a shell. -/
def readArguments (name : Octets) (arguments : List Octets) : Act Invocation := do
  let (asText, rest) ← readOptions (arguments.length + 1) false arguments
  if asText then
    match rest with
    | [] => fail "-c requires an argument"
    | [text] => return ⟨.text text, name, []⟩
    | text :: name :: arguments => return ⟨.text text, name, arguments⟩
  else if (← process).options.contains 's' then return ⟨.standard, name, rest⟩
  else
    match rest with
    | [] => return ⟨.standard, name, []⟩
    | path :: arguments => return ⟨.file path, path, arguments⟩

/-- Variables of a new shell. -/
def firstVariables (bindings : Bindings) : List (Octets × Variable) :=
  let told := bindings.filter fun (name, _) => isName name
  let own : List Octets := ["IFS", "OPTIND", "PPID", "LINENO"]
  let scope := told.foldl (fun scope (name, value) =>
    if own.contains name then scope else assign name ⟨some value, true, false⟩ scope)
    ownVariables
  scope

/-- Runs a shell on arguments. -/
def run (runner : Runner) (name : Octets) (arguments : List Octets) : Act Unit := do
  let session ← get
  let parent := (session.ancestors.head?.map (·.number)).getD 1
  let directory := startDirectory session.process.bindings session.system.files
  change fun process =>
    { process with
      shell := process.number, name := name, arguments := [], status := 0, line := 0
      functionLine := 0, command := none, hashed := [], scope := firstVariables process.bindings
      locals := [], functions := [], aliases := [], documents := [], options := [], loops := 0
      calls := 0
      optionIndex := 1, optionOffset := none, directory := directory, background := none
      statusBefore := none }
  asShell runner do
    putVariable "PPID" ⟨some (Octets.ofNat parent), false, false⟩
    putVariable "PWD" ⟨some directory, true, false⟩
    let invocation ← readArguments name arguments
    let becomeNamed : Act Unit := change fun process =>
      { process with name := invocation.name, arguments := invocation.arguments }
    match invocation.input with
    | .text text => do
      becomeNamed
      runText runner ⟨false, true⟩ text
    | .standard => do
      becomeNamed
      match ← readAll 0 with
      | .ok text => runText runner .plain text
      | .error _ => pure ()
    | .file path => do
      match ← readFile path with
      | .ok text =>
        becomeNamed
        runText runner .plain text
      | .error fault =>
        if fault = .isDirectory then pure ()
        else
          let reason := if isMissing fault then "No such file" else fault.reason
          fail ("cannot open " ++ path ++ ": " ++ Octets.ofString reason)

end RepoCatalog.Shell
