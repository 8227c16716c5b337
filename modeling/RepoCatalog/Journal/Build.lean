import RepoCatalog.File.Directories
import RepoCatalog.Text.Blank
import RepoCatalog.Text.Upper
import RepoCatalog.World
import RepoCatalog.UserHomes

/-!
# Setting up loggers

A logger is set up anew with a console handler and, if a file is named, a handler that appends to
that file.
-/

namespace RepoCatalog

open Effect

namespace Level

/-- Levels by name. -/
def named : List (String × Level) :=
  [("CRITICAL", critical), ("ERROR", error), ("WARN", warning), ("WARNING", warning),
    ("INFO", info), ("DEBUG", debug)]

/-- Level of a name in any case; an unknown name stands for the level of progress. -/
def ofName (name : String) : Level :=
  (named.lookup (Text.upper (Text.trim name))).getD info

/-- Level a value stands for; numbers stand for themselves. -/
def ofValue : Json → Except Failure Json
  | .null => .ok (.integer info)
  | .boolean value => .ok (.boolean value)
  | .integer value => .ok (.integer value)
  | .string name => .ok (.integer (ofName name))
  | _ => .error .missingAttribute

/-- Names that a level may be set by. -/
def settable : List (String × Level) :=
  [("CRITICAL", critical), ("FATAL", critical), ("ERROR", error), ("WARN", warning),
    ("WARNING", warning), ("INFO", info), ("DEBUG", debug), ("NOTSET", 0)]

/-- Level that a value sets: a number, or one of the names in exactly its spelling. -/
def ofSetting : Json → Except Failure Level
  | .integer level => .ok level
  | .boolean value => .ok (if value then 1 else 0)
  | .string name =>
    match settable.lookup name with
    | some level => .ok level
    | none => .error (.value ("Unknown level: " ++ Text.quoted name))
  | _ => .error .wrongType

end Level

/-- How a logger is set up. -/
structure LoggerOptions where
  /-- Its name. -/
  name : String
  /-- Its level, which is also that of its handlers. -/
  level : Level
  /-- File that records are appended to; the empty text and none for no file. -/
  file : Option String
  /-- Format of a record. -/
  layout : String
  /-- Format of the moment of a record. -/
  dateLayout : String
  deriving DecidableEq, Repr

namespace LoggerOptions

/-- Name of the logger of the program. -/
def mainName : String := "GitlabReindexLogger"

/-- Options that say nothing. -/
def standard : LoggerOptions :=
  { name := mainName, level := Level.info, file := none
    layout := "[%(asctime)s][%(levelname)s] %(message)s", dateLayout := "%d-%m-%Y %H:%M:%S" }

/-- A handler with these options. -/
def handler (options : LoggerOptions) (outlet : Outlet) : Handler :=
  ⟨outlet, options.level, if options.layout = "" then "%(message)s" else options.layout,
    options.dateLayout⟩

end LoggerOptions

namespace Journal

/-- Home directory of a user; without a name, that of the environment. -/
def homeOf (environment : Environment) (user : String) : Option String :=
  if user = "" then some ((environment.lookup "HOME").getD "/root") else userHomes.lookup user

/-- Path with a leading home directory spelled out. -/
def expandHome (environment : Environment) (path : FilePath) : Except Failure FilePath :=
  match path.root, path.names with
  | .working, name :: rest =>
    match name.toList with
    | '~' :: user =>
      if user.contains '\x00' then .error .embeddedNull
      else
        match homeOf environment (String.ofList user) with
        | none => .error .unknownHome
        | some home =>
          let home := Text.dropEndWhile (· == '/') home.toList
          if home.head? = some '~' then .error .unknownHome
          else
            let home := FilePath.ofString (if home.isEmpty then "/" else String.ofList home)
            .ok ⟨home.root, home.names ++ rest⟩
    | _ => .ok path
  | _, _ => .ok path

/-- Absolute path of a log file, all links expanded. -/
def settlePath (files : FileTree) (environment : Environment) (file : String) :
    Except Failure FilePath := do
  let path ← expandHome environment (FilePath.ofString file)
  if hasNull path.text then throw .embeddedNull
  let absolute := FileTree.absoluteText (files.settle path.text)
  match files.inspect absolute with
  | .error .tooManyLinks => throw (.linkLoop absolute)
  | _ => return FilePath.ofString absolute

/-- Opens a log file after making the directories on the way. -/
def openFile (file : String) : Effect Location := do
  let world ← get
  let path ← ofExcept (settlePath world.files world.environment file)
  let (files, problem) := world.files.ensureDirectory path.parent
  set { world with files := files }
  match problem with
  | some error => throw (.system error)
  | none =>
    match files.openFile false path.text with
    | .error fault => throw (.system (fault.about path.text))
    | .ok (files, place) =>
      set { world with files := files }
      return place

/-- Adds a handler to a logger. -/
def addHandler (name : String) (handler : Handler) : Effect Unit :=
  modify fun world =>
    let logger := world.journal.logger name
    { world with
      journal := world.journal.put name { logger with handlers := logger.handlers ++ [handler] } }

/-- Sets up a logger and gives its name. -/
def build (options : LoggerOptions) : Effect String := do
  let name := properName options.name
  modify fun world =>
    { world with journal := world.journal.put name ⟨options.level, false, []⟩ }
  if options.layout ≠ "" && !Format.hasNamedSlot options.layout.toList then
    throw (.badFormat options.layout)
  addHandler name (options.handler .console)
  match options.file with
  | none => return name
  | some file =>
    if file = "" then return name
    else
      let place ← openFile file
      addHandler name (options.handler (.file place))
      return name

/-- Journal with all handlers of a logger removed. -/
def detach (journal : Journal) (name : String) : Journal :=
  journal.put name { journal.logger name with handlers := [] }

end Journal

end RepoCatalog
