import RepoCatalog.Process.Shell.Evaluate
import RepoCatalog.Process.Tool.Batch
import RepoCatalog.Process.Tool.Columns
import RepoCatalog.Process.Tool.Compare
import RepoCatalog.Process.Tool.Copying
import RepoCatalog.Process.Tool.Digest
import RepoCatalog.Process.Tool.Editor.Run
import RepoCatalog.Process.Tool.Encode
import RepoCatalog.Process.Tool.Expression
import RepoCatalog.Process.Tool.Find
import RepoCatalog.Process.Tool.Order
import RepoCatalog.Process.Tool.Paths
import RepoCatalog.Process.Tool.Search
import RepoCatalog.Process.Tool.Sequence
import RepoCatalog.Process.Tool.Surroundings

/-!
# Starting programs

Programs are looked up and started as the operating system does it: a name without a slash is
searched for along the path, and a script is run by the interpreter that its first line names.

Real runs are launched here. What is proved of runs holds for any launcher, and of this one only
where a program is found and that it starts.
-/

namespace RepoCatalog.Machine

open Act

/-! ## Programs -/

/-- Programs of the machine by name. -/
def tools : List (String × Tool) :=
  let constant (status : Nat) : Tool := fun _ _ _ => return status
  [("[", Tool.bracket), ("arch", Tool.constantly "x86_64\n" 0), ("base64", Tool.base64),
    ("basename", Tool.basename), ("cat", Tool.cat), ("chmod", Tool.chmod), ("cksum", Tool.cksum),
    ("cmp", Tool.cmp), ("comm", Tool.comm), ("cp", Tool.cp), ("cut", Tool.cut), ("dd", Tool.dd),
    ("diff", Tool.diff), ("dirname", Tool.dirname), ("echo", Tool.echo), ("egrep", Tool.grep),
    ("env", Tool.env), ("expand", Tool.expand), ("expr", Tool.expr), ("false", constant 1),
    ("fgrep", Tool.grep), ("find", Tool.find), ("fold", Tool.fold), ("grep", Tool.grep),
    ("groups", Tool.constantly "root\n" 0), ("head", Tool.head), ("id", Tool.id),
    ("install", Tool.install), ("ionice", Tool.runPlainly ['c', 'n'] 0), ("join", Tool.joinLines),
    ("link", Tool.link), ("ln", Tool.ln), ("ls", Tool.ls), ("md5sum", Tool.digest Tool.Digest.md5),
    ("mkdir", Tool.mkdir), ("mktemp", Tool.mktemp), ("mv", Tool.mv), ("nice", Tool.nice),
    ("nl", Tool.nl), ("nohup", Tool.runPlainly [] 0), ("od", Tool.od), ("paste", Tool.paste),
    ("printenv", Tool.printenv), ("printf", Tool.printf), ("pwd", Tool.pwd),
    ("readlink", Tool.readlink), ("realpath", Tool.realpath), ("rev", Tool.rev), ("rm", Tool.rm),
    ("rmdir", Tool.rmdir), ("sed", Tool.sed), ("seq", Tool.seq), ("setsid", Tool.runPlainly [] 0),
    ("sha1sum", Tool.digest Tool.Digest.sha1), ("sha256sum", Tool.digest Tool.Digest.sha256),
    ("sleep", Tool.sleep), ("sort", Tool.sortLines), ("stat", Tool.stat),
    ("stdbuf", Tool.runPlainly ['i', 'o', 'e'] 0), ("sync", constant 0), ("tac", Tool.tac),
    ("tail", Tool.tail), ("tee", Tool.tee), ("test", Tool.test),
    ("timeout", Tool.runPlainly ['k', 's'] 1), ("touch", Tool.touch), ("tr", Tool.tr),
    ("true", constant 0), ("truncate", Tool.truncate), ("tty", Tool.constantly "not a tty\n" 1),
    ("uname", Tool.uname), ("unexpand", Tool.unexpand), ("uniq", Tool.uniq),
    ("unlink", Tool.unlink), ("wc", Tool.wc), ("which", Tool.which),
    ("whoami", Tool.constantly "root\n" 0), ("xargs", Tool.xargs), ("yes", Tool.yes)]

/-- Names of shells. -/
def shells : List String := ["sh", "dash", "bash"]

/-- Directories that every machine has. -/
def directories : List Location :=
  [["boot"], ["dev"], ["dev", "pts"], ["dev", "shm"], ["etc"], ["home"], ["media"], ["mnt"],
    ["opt"], ["proc"], ["proc", "self"], ["proc", "self", "fd"], ["root"], ["run"], ["srv"],
    ["sys"], ["tmp"], ["usr"], ["usr", "bin"], ["usr", "lib"], ["usr", "local"],
    ["usr", "local", "bin"], ["usr", "sbin"],
    ["usr", "share"], ["var"], ["var", "tmp"]]

/-- Devices of every machine. -/
def devices : List (Location × Device) :=
  [(["dev", "null"], .null), (["dev", "zero"], .zero), (["dev", "full"], .full),
    (["dev", "random"], .zero), (["dev", "urandom"], .zero), (["dev", "tty"], .terminal),
    (["proc", "self", "fd", "0"], .input), (["proc", "self", "fd", "1"], .output),
    (["proc", "self", "fd", "2"], .messages)]

/-- Links of every machine. -/
def links : List (Location × String) :=
  [(["bin"], "usr/bin"), (["sbin"], "usr/sbin"), (["lib"], "usr/lib"),
    (["dev", "fd"], "/proc/self/fd"), (["dev", "stdin"], "/proc/self/fd/0"),
    (["dev", "stdout"], "/proc/self/fd/1"), (["dev", "stderr"], "/proc/self/fd/2"),
    (["proc", "self", "root"], "/")]

/-- What every machine has before anything else is put there. -/
def standardEntries : List (Location × Entry) :=
  directories.map (·, .directory)
    ++ links.map (fun (place, target) => (place, .link target))
    ++ devices.map (fun (place, device) => (place, .device device))
    ++ [(["etc", "passwd"], .file (Octets.toBytes "root:x:0:0:root:/root:/bin/bash\n") false)]
    ++ (shells ++ tools.map (·.1)).map fun name => (["usr", "bin", name], .tool name)

/-! ## Starting -/

/-- How many interpreters may stand behind each other. -/
def interpreterLimit : Nat := 5

/-- How much of a file is looked at for its interpreter, in bytes. -/
def lineLimit : Nat := 256

/-- Interpreter and its argument that the first line of a script names. -/
def interpreterLine? (content : List UInt8) : Option (String × List Octets) :=
  match Octets.ofBytes (content.take lineLimit) with
  | '#' :: '!' :: start =>
    let blank (c : Char) : Bool := c == ' ' || c == '\t'
    let (line, rest) := start.span (· != '\n')
    let ended := !rest.isEmpty || content.length < lineLimit
    -- Blanks at the end of the line count for nothing only if the line is seen to its end.
    let line := if ended then Text.dropEndWhile blank line else line
    let line := line.dropWhile blank
    let (interpreter, behind) := line.span fun c => !blank c && c != '\x00'
    if interpreter.isEmpty || (!ended && behind.isEmpty) then none
    else
      let argument := (behind.dropWhile blank).takeWhile (· != '\x00')
      some (Octets.toString interpreter, if argument.isEmpty then [] else [argument])
  | _ => none

/-- A program of the machine that is to run. -/
structure Running where
  /-- Its name. -/
  program : String
  /-- The name it is called by. -/
  calledAs : Octets
  /-- Its arguments. -/
  arguments : List Octets
  deriving DecidableEq, Repr

/-- What runs when a file is started, with the name it is called by and its arguments. -/
def start (files : FileTree) :
    Nat → String → Octets → List Octets → Except FileFault Running
  | depth, path, name, arguments =>
    match files.resolve .follow path with
    | .error fault => .error fault
    | .ok (.absent _) => .error .noEntry
    | .ok (.present _ (.tool program)) => .ok ⟨program, name, arguments⟩
    | .ok (.present _ (.file content true)) =>
      match interpreterLine? content with
      | none => .error .execFormat
      | some (interpreter, extra) =>
        match depth with
        | 0 => .error .tooManyLinks
        | depth + 1 =>
          start files depth interpreter (Octets.ofString interpreter)
            (extra ++ Octets.ofString path :: arguments)
    | .ok _ => .error .accessDenied

/-- Runs a program of the machine in place of the running one. -/
def run (runner : Shell.Runner) (running : Running) : Act Unit := do
  if shells.contains running.program then
    Shell.run runner running.calledAs running.arguments
  else
    match tools.lookup running.program with
    | some tool => finish (← tool runner running.calledAs running.arguments)
    | none => finish 127

/-- Longest text that a program can be handed, in bytes. -/
def argumentLimit : Nat := 131071

/-- How many bytes the texts that a program is handed may take together. -/
def argumentsLimit : Nat := 2097152

/-- Whether a program can be handed all of its arguments and variables; each of them is ended by a
byte and found by an address of eight bytes. -/
def fitsLimits (arguments : List Octets) (bindings : Bindings) : Bool :=
  let sizes := arguments.map List.length
    ++ bindings.map fun (name, value) => name.length + 1 + value.length
  sizes.all (· ≤ argumentLimit) && (sizes.map (· + 9)).foldl (· + ·) 0 ≤ argumentsLimit

/-- Runs the program at a path in place of the running one, which goes on if that is not
possible. -/
def replace (runner : Shell.Runner) (path : String) (arguments : List Octets) : Act FileFault := do
  match start (← files) interpreterLimit path (arguments.head?.getD []) (arguments.drop 1) with
  | .error fault => return fault
  | .ok running =>
    if !fitsLimits arguments (← process).bindings then return .tooManyArguments
    run runner running
    throw .ended

/-- A runner whose commands and programs may stand within each other up to a depth; what goes deeper
is killed. -/
def runner : Nat → Shell.Runner
  | 0 =>
    let killed {α : Type} : Act α := do throw (.killed (← process).number 11)
    ⟨fun _ _ => killed, fun _ _ => killed⟩
  | depth + 1 =>
    ⟨fun command mode => Shell.runAttentively (runner depth) command mode,
      fun path arguments => replace (runner depth) path arguments⟩

/-- How deep commands and programs may stand within each other. -/
def depthLimit : Nat := 10000

/-! ## Launches -/

/-- Paths at which a program may be found. -/
def programPaths (environment : Environment) (program : String) : List String :=
  if program.toList.contains '/' then [program]
  else
    let searchPath := (environment.lookup "PATH").getD (Octets.toString Tool.defaultSearchPath)
    (Text.split ':' searchPath.toList).map fun directory =>
      joinPath (String.ofList directory) program

/-- Whether a failure to start a program makes the search go on without being remembered. -/
def isMissing (fault : FileFault) : Bool :=
  fault = .noEntry || fault = .notDirectory

/-- Finds the first of several paths that can be started; otherwise the first telling fault, or else
the last one, is reported. -/
def startFirst (files : FileTree) (name : Octets) (arguments : List Octets) :
    Option FileFault → FileFault → List String → Except FileFault Running
  | telling, last, [] => .error (telling.getD last)
  | telling, _, path :: rest =>
    match start files interpreterLimit path name arguments with
    | .ok running => .ok running
    | .error fault =>
      startFirst files name arguments (if isMissing fault then telling else telling.or (some fault))
        fault rest

/-- Why an argument cannot be handed to a program. -/
def argumentRefusal? : Given String → Option Failure
  | .value argument => if hasNull argument then some .embeddedNull else none
  | .nothing => some .wrongType

/-- Why a launch cannot even be attempted. -/
def refusal? (launch : Launch) : Option Failure :=
  let bindings := launch.environment.getD []
  if bindings.any (·.1.toList.contains '=') then
    some (.value "illegal environment variable name")
  else
    match launch.arguments.findSome? argumentRefusal? with
    | some failure => some failure
    | none =>
      if bindings.any fun (name, value) => hasNull name || hasNull value then some .embeddedNull
      else none

/-- The first process: it reads nothing, writes to a console, and its messages are lost. -/
def firstProcess (bindings : Bindings) (quiet : Bool) : Array Stream × Process :=
  let stream (channel : Channel) : Stream := ⟨channel, 0, true, true, true⟩
  (#[stream .nowhere, stream (if quiet then .device .null else .console), stream .nowhere],
    { number := 2, shell := 2, name := [], arguments := [], bindings := bindings
      descriptors := [(0, 0), (1, 1), (2, 2)], status := 0, insertedStatus := 0, line := 0
      functionLine := 0, command := none, hashed := [], scope := [], locals := [], functions := []
      aliases := [], documents := [], options := [], traps := [], statusBefore := none, loops := 0
      calls := 0
      optionIndex := 1, optionOffset := none, directory := [], background := none, mask := 18 })

/-- What comes of a program that runs: how it ends, what it writes, and the files it leaves. -/
def runAlone (files : FileTree) (bindings : Bindings) (quiet : Bool) (running : Running) :
    Outcome × Octets × FileTree :=
  let (streams, process) := firstProcess bindings quiet
  let session : Session :=
    { system := ⟨files, streams, []⟩, process := process, ancestors := [], signals := [], jobs := []
      started := process.number }
  let action := inChild (fun process => process) (run (runner depthLimit) running)
  let (result, session) := action.run session
  let outcome := match result with
    | .ok outcome => outcome
    | .error _ => .exited session.process.status
  (outcome, session.system.console, { session.system.files with working := files.working })

/-- Exit status by which a launch reports how a program ended. -/
def exitStatus : Outcome → Int
  | .exited status => status
  | .killed signal => -signal

/-- Reply of the machine to a launch. -/
def reply (files : FileTree) (present : Environment) (launch : Launch) : Reply :=
  match launch.arguments.map (Given.getD "") with
  | [] => ⟨"", files, .error .outOfRange⟩
  | program :: arguments =>
    match refusal? launch with
    | some failure => ⟨"", files, .error failure⟩
    | none =>
      let environment := launch.environment.getD present
      let texts := launch.arguments.map fun text => Octets.ofString (text.getD "")
      let bindings := environment.map fun (name, value) =>
        (Octets.ofString name, Octets.ofString value)
      match startFirst files (Octets.ofString program) (arguments.map Octets.ofString) none .noEntry
          (programPaths environment program) with
      | .error fault => ⟨"", files, .error (.system (fault.about program))⟩
      | .ok running =>
        if !fitsLimits texts bindings then
          ⟨"", files, .error (.system (FileFault.tooManyArguments.about program))⟩
        else
          let (outcome, output, files) := runAlone files bindings launch.quiet running
          ⟨Octets.toString output, files, .ok (exitStatus outcome)⟩

/-- The launcher that starts programs on this machine. -/
def launcher : Launcher :=
  ⟨fun _ files environment launch => reply files environment launch⟩

end RepoCatalog.Machine
