import RepoCatalog.Encoding
import RepoCatalog.Journal.Logger
import RepoCatalog.Launch
import RepoCatalog.Server

/-!
# The world of a run

Everything outside the program: files, environment, the GitLab server, other programs, the loggers
and the clock, with the history of what the program did to them.
-/

namespace RepoCatalog

/-- Whether an outlet takes a line; a file takes one that has an encoding. -/
def Encoding.takes (encoding : Encoding) (outlet : Outlet) (line : String) : Bool :=
  match outlet with
  | .console => encoding.prints line
  | .file _ => (encoding.stray? line.toList).isNone

/-- Something the program did. -/
inductive Event
  | logged (level : Level) (message : String)
  | connected (settings : ClientSettings)
  | authenticated
  | listed (request : PageRequest)
  | launched (launch : Launch)
  | printed (text : String)
  | preparedDirectory (path : FilePath)
  | clearedFile (path : FilePath)
  | brokeOff (path : FilePath)
  | wroteFile (path : FilePath)
  deriving DecidableEq, Repr

/-- Who keeps the records of a run. -/
inductive Recorder
  | caller
  | journal (logger : String)
  deriving DecidableEq, Repr

/-- Everything outside the program. -/
structure World where
  /-- Files. -/
  files : FileTree
  /-- Environment variables. -/
  environment : Environment
  /-- The GitLab server. -/
  server : Server
  /-- What runs programs. -/
  launcher : Launcher
  /-- The present moment. -/
  clock : Clock
  /-- The loggers. -/
  journal : Journal
  /-- Who keeps the records. -/
  recorder : Recorder
  /-- What happened, latest first. -/
  history : List Event
  /-- How texts are written out. -/
  encoding : Encoding := .plain

namespace World

/-- What happened, earliest first. -/
def events (world : World) : List Event :=
  world.history.reverse

/-- Launches so far, earliest first. -/
def launches (world : World) : List Launch :=
  world.events.filterMap fun
    | .launched launch => some launch
    | _ => none

/-- Records so far, earliest first. -/
def records (world : World) : List (Level × String) :=
  world.events.filterMap fun
    | .logged level message => some (level, message)
    | _ => none

/-- Page requests so far, earliest first. -/
def requests (world : World) : List PageRequest :=
  world.events.filterMap fun
    | .listed request => some request
    | _ => none

/-- Clients set up so far, earliest first. -/
def clients (world : World) : List ClientSettings :=
  world.events.filterMap fun
    | .connected settings => some settings
    | _ => none

/-- Number of authentications so far. -/
def authentications (world : World) : Nat :=
  world.history.countP (· == .authenticated)

/-- Standard output so far. -/
def output (world : World) : String :=
  String.join (world.events.filterMap fun
    | .printed text => some text
    | _ => none)

/-- The world after something happened. -/
def note (event : Event) (world : World) : World :=
  { world with history := event :: world.history }

@[simp] theorem events_note (event : Event) (world : World) :
    (world.note event).events = world.events ++ [event] := by
  simp [events, note]

/-- Appends a line to a file that was opened at a location. -/
def appendLine (place : Location) (line : String) (world : World) : World :=
  match world.files.get? place with
  | some (.file content executable) =>
    let content := content ++ Text.encodeUtf8 line.toList
    { world with files := world.files.put place (.file content executable) }
  | _ => world

/-- The world after a handler wrote a record; a line that its outlet does not take is dropped. -/
def emit (record : Record) (handler : Handler) (world : World) : World :=
  match handler.line? world.clock record with
  | none => world
  | some line =>
    if world.encoding.takes handler.outlet line then
      match handler.outlet with
      | .console => world.note (.printed line)
      | .file place => world.appendLine place line
    else world

/-- The world after handlers wrote a record, one after another. -/
def deliver (record : Record) (handlers : List Handler) (world : World) : World :=
  handlers.foldl (fun world handler => world.emit record handler) world

/-- The world after a record was sent to its logger. -/
def send (record : Record) (world : World) : World :=
  world.deliver record (world.journal.reached record.logger record.level)

/-- The world after a record was handed to whoever keeps the records. -/
def record (level : Level) (message : String) (world : World) : World :=
  let noted := world.note (.logged level message)
  match world.recorder with
  | .caller => noted
  | .journal name => noted.send ⟨name, level, .plain message⟩

end World

/-- Something the program does: it changes the world, and gives a result or fails. -/
abbrev Effect := ExceptT Failure (StateM World)

namespace Effect

/-- Hands a record to whoever keeps the records. -/
def log (level : Level) (message : String) : Effect Unit :=
  modify (World.record level message)

/-- Notes that something happened. -/
def note (event : Event) : Effect Unit :=
  modify (World.note event)

/-- Runs a program and gives its exit status. -/
def launch (request : Launch) : Effect Int := do
  let world ← get
  let reply := world.launcher.reply world.launches world.files world.environment request
  note (.launched request)
  modify fun world => { world with files := reply.files }
  if reply.output ≠ "" then note (.printed reply.output)
  ofExcept reply.outcome

/-- Rewords a failure that satisfies a test. -/
def reword {α : Type} (concerned : Failure → Bool) (words : Failure → Failure) (action : Effect α) :
    Effect α :=
  tryCatch action fun failure => throw (if concerned failure then words failure else failure)

end Effect

end RepoCatalog
