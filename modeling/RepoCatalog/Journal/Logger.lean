import RepoCatalog.File.Tree
import RepoCatalog.Journal.Clock
import RepoCatalog.Journal.Format

/-!
# Loggers

Named loggers form a hierarchy by the dots in their names, below the root logger. A record passes
the level of its logger and then the level of each handler it reaches.
-/

namespace RepoCatalog

/-- Importance of a record; larger is more important. -/
abbrev Level := Int

namespace Level

/-- Details of the work. -/
def debug : Level := 10

/-- Progress of the work. -/
def info : Level := 20

/-- Something questionable. -/
def warning : Level := 30

/-- A failure. -/
def error : Level := 40

/-- A failure that cannot be survived. -/
def critical : Level := 50

/-- Name of a level. -/
def name (level : Level) : String :=
  if level = critical then "CRITICAL"
  else if level = error then "ERROR"
  else if level = warning then "WARNING"
  else if level = info then "INFO"
  else if level = debug then "DEBUG"
  else if level = 0 then "NOTSET"
  else "Level " ++ toString level

end Level

/-- Where a handler writes. -/
inductive Outlet
  | console
  | file (place : Location)
  deriving DecidableEq, Repr

/-- A place that records of some importance are written to. -/
structure Handler where
  /-- Where it writes. -/
  outlet : Outlet
  /-- Least level of the records it takes. -/
  level : Level
  /-- Format of a record. -/
  layout : String
  /-- Format of the moment of a record. -/
  dateLayout : String
  deriving DecidableEq, Repr

/-- A named logger. -/
structure Logger where
  /-- Its level; zero takes that of the next logger above. -/
  level : Level
  /-- Whether records go on to the loggers above. -/
  propagates : Bool
  /-- Its handlers. -/
  handlers : List Handler
  deriving DecidableEq, Repr

/-- The loggers that have been set up. -/
structure Journal where
  /-- Loggers by name, each name once. -/
  loggers : List (String × Logger)
  deriving DecidableEq, Repr

namespace Journal

/-- Name of the logger above all others. -/
def rootName : String := "root"

/-- Name under which a logger is kept. -/
def properName (name : String) : String :=
  if name = "" then rootName else name

/-- A logger as it is before it is set up. -/
def fresh (name : String) : Logger :=
  ⟨if name = rootName then Level.warning else 0, true, []⟩

/-- The logger of a name. -/
def logger (journal : Journal) (name : String) : Logger :=
  (journal.loggers.lookup name).getD (fresh name)

/-- Journal with one logger replaced or added. -/
def put (journal : Journal) (name : String) (logger : Logger) : Journal :=
  ⟨assign name logger journal.loggers⟩

/-- Beginnings of a name that end before a dot, longest first. -/
def dottedBeginnings (before : List Char) : List Char → List (List Char)
  | [] => []
  | c :: rest =>
    let later := dottedBeginnings (c :: before) rest
    if c == '.' && !before.isEmpty then later ++ [before.reverse] else later

/-- Names from a logger up to the root. -/
def chain (name : String) : List String :=
  if name = rootName then [rootName]
  else
    name :: ((dottedBeginnings [] name.toList).map String.ofList).filter (· ≠ rootName)
      ++ [rootName]

/-- Level a logger goes by: the first one set from it up to the root. -/
def effectiveLevel (journal : Journal) (name : String) : Level :=
  (((chain name).map fun name => (journal.logger name).level).find? (· ≠ 0)).getD 0

/-- Handlers a record reaches from loggers, nearest first. -/
def reachedFrom (journal : Journal) : List String → List Handler
  | [] => []
  | name :: above =>
    let logger := journal.logger name
    logger.handlers ++ if logger.propagates then reachedFrom journal above else []

/-- Handlers that write a record of a level sent to a logger. -/
def reached (journal : Journal) (name : String) (level : Level) : List Handler :=
  if 0 < level && journal.effectiveLevel name ≤ level then
    (journal.reachedFrom (chain name)).filter (·.level ≤ level)
  else []

end Journal

/-- What a record says: a template, and the values that belong into its places. -/
structure Message where
  /-- The template. -/
  template : Json
  /-- The values, in order. -/
  values : List Json
  deriving Repr

namespace Message

/-- A message without places. -/
def plain (text : String) : Message := ⟨.string text, []⟩

/-- Text of a message; none if its values do not fit. -/
def text? (message : Message) : Option String :=
  Format.fillMessage message.template.shown message.values

/-- The values of a message as its record keeps them: a single object that has members stands for
itself. -/
def kept (message : Message) : Format.Value :=
  match message.values with
  | [.object (member :: members)] => .data (.object (member :: members))
  | values => .sequence values

end Message

/-- A record on its way to the handlers. -/
structure Record where
  /-- Name of the logger it was sent to. -/
  logger : String
  /-- How important it is. -/
  level : Level
  /-- What it says. -/
  message : Message
  deriving Repr

namespace Handler

/-- Place that makes a format show the moment of a record. -/
def momentPlace : String := "%(asctime)"

/-- Whether a text contains another one. -/
def containsText (part : List Char) : List Char → Bool
  | [] => part.isEmpty
  | c :: rest => part.isPrefixOf (c :: rest) || containsText part rest

/-- Whether the format of a handler shows the moment of a record. -/
def showsMoment (handler : Handler) : Bool :=
  containsText momentPlace.toList handler.layout.toList

/-- The moment as a handler spells it; without a format it has thousandths of a second. -/
def moment (handler : Handler) (clock : Clock) : Option String :=
  let spelled (format : String) : Option String := (clock.spell format.toList).map String.ofList
  if handler.dateLayout = "" then (spelled "%Y-%m-%d %H:%M:%S").map (· ++ ",000")
  else spelled handler.dateLayout

/-- Fields of every record that its format may name. -/
def fields (record : Record) (text : String) : List (String × Format.Value) :=
  [("name", .data (.string record.logger)), ("msg", .data record.message.template),
    ("args", record.message.kept), ("levelname", .data (.string record.level.name)),
    ("levelno", .data (.integer record.level)), ("pathname", .data (.string "")),
    ("filename", .data (.string "")), ("module", .data (.string "")), ("exc_info", .data .null),
    ("exc_text", .data .null), ("stack_info", .data .null), ("lineno", .data (.integer 0)),
    ("funcName", .data (.string "")), ("created", .data (.float (.ofInt 0))),
    ("msecs", .data (.float (.ofInt 0))), ("relativeCreated", .data (.float (.ofInt 0))),
    ("thread", .data (.integer 0)), ("threadName", .data (.string "MainThread")),
    ("processName", .data (.string "MainProcess")), ("process", .data (.integer 0)),
    ("message", .data (.string text))]

/-- Line a handler writes for a record; none if the message or the format cannot be filled. -/
def line? (handler : Handler) (clock : Clock) (record : Record) : Option String := do
  let text ← record.message.text?
  let known := fields record text
  let known ←
    if handler.showsMoment then
      (handler.moment clock).map fun moment => known ++ [("asctime", .data (.string moment))]
    else some known
  let line ← Format.render handler.layout ⟨some known, [.data (.object [])]⟩
  return line ++ "\n"

end Handler

end RepoCatalog
