import RepoCatalog.CommandLine.Configuration

/-!
# Options

The options of the command line, how they are spelled and what they settle.
-/

namespace RepoCatalog.CommandLine

/-- Options that take a value. -/
inductive Setting
  | address
  | token
  | proxy
  | timeout
  | perPage
  | group
  | ignoreList
  | directory
  | indexPath
  | specificationPath
  | name
  | revision
  | urlPattern
  | httpUser
  | depth
  | codesearch
  | fetchReindex
  | workers
  | logLevel
  | logFile
  deriving DecidableEq, Repr

/-- Options that switch something on. -/
inductive Switch
  | insecure
  | http
  | skipMissing
  | noIndex
  deriving DecidableEq, Repr

/-- Options that turn something on, or off in their negative spelling. -/
inductive Toggle
  | forks
  | archived
  | revparse
  deriving DecidableEq, Repr

/-- Options of the command line. -/
inductive Choice
  | help
  | setting (setting : Setting)
  | switch (switch : Switch)
  | toggle (toggle : Toggle)
  deriving DecidableEq, Repr

/-- Options in the order in which they are explained. -/
def choices : List Choice :=
  [.help, .setting .address, .setting .token, .setting .proxy, .setting .timeout, .switch .insecure,
    .setting .perPage, .setting .group, .toggle .forks, .toggle .archived, .setting .ignoreList,
    .setting .directory, .setting .indexPath, .setting .specificationPath, .setting .name,
    .setting .revision, .setting .urlPattern, .switch .http, .setting .httpUser, .setting .depth,
    .setting .codesearch, .setting .fetchReindex, .setting .workers, .toggle .revparse,
    .switch .skipMissing, .switch .noIndex, .setting .logLevel, .setting .logFile]

namespace Setting

/-- Spellings of an option. -/
def spellings : Setting → List String
  | address => ["-u", "--url", "--api-base-url"]
  | token => ["-t", "--gitlab-token"]
  | proxy => ["-p", "--proxy"]
  | timeout => ["--timeout"]
  | perPage => ["--per-page"]
  | group => ["--group"]
  | ignoreList => ["--ignorelist"]
  | directory => ["--dir"]
  | indexPath => ["--out"]
  | specificationPath => ["--spec-file"]
  | name => ["--name"]
  | revision => ["--revision"]
  | urlPattern => ["--url-pattern"]
  | httpUser => ["--http-user"]
  | depth => ["--depth"]
  | codesearch => ["--codesearch"]
  | fetchReindex => ["--fetch-reindex"]
  | workers => ["--num-repo-update-workers"]
  | logLevel => ["--log-level"]
  | logFile => ["--log-file"]

end Setting

namespace Switch

/-- Spellings of an option. -/
def spellings : Switch → List String
  | insecure => ["--insecure"]
  | http => ["--http"]
  | skipMissing => ["--skip-missing"]
  | noIndex => ["--no-index"]

/-- Switches something on. -/
def apply (configuration : Configuration) : Switch → Configuration
  | insecure => { configuration with insecure := true }
  | http => { configuration with http := true }
  | skipMissing => { configuration with skipMissing := true }
  | noIndex => { configuration with noIndex := true }

end Switch

namespace Toggle

/-- Positive spelling of an option. -/
def positive : Toggle → String
  | forks => "--forks"
  | archived => "--archived"
  | revparse => "--revparse"

/-- Negative spelling of an option. -/
def negative : Toggle → String
  | forks => "--no-forks"
  | archived => "--no-archived"
  | revparse => "--no-revparse"

/-- Spellings of an option. -/
def spellings (toggle : Toggle) : List String :=
  [toggle.positive, toggle.negative]

/-- Turns something on or off. -/
def apply (configuration : Configuration) (value : Bool) : Toggle → Configuration
  | forks => { configuration with forks := value }
  | archived => { configuration with archived := value }
  | revparse => { configuration with revparse := value }

end Toggle

namespace Choice

/-- Spellings of an option. -/
def spellings : Choice → List String
  | help => ["-h", "--help"]
  | setting option => option.spellings
  | switch option => option.spellings
  | toggle option => option.spellings

/-- How messages name an option. -/
def title (choice : Choice) : String :=
  String.intercalate "/" choice.spellings

/-- Message about an option. -/
def complaint (choice : Choice) (text : String) : String :=
  "argument " ++ choice.title ++ ": " ++ text

end Choice

/-- Every spelling with its option, in the order of the options. -/
def spelledChoices : List (String × Choice) :=
  choices.flatMap fun choice => choice.spellings.map fun spelling => (spelling, choice)

/-- Levels that may be asked for. -/
def levelNames : List String := ["DEBUG", "INFO", "WARNING", "ERROR"]

/-- Number a value stands for, or what is wrong with it. -/
def readNumber (reader : String → Except Failure Nat) (kind text : String) : Except String Nat :=
  match reader text with
  | .ok value => .ok value
  | .error (.badArgument guidance) => .error guidance
  | .error _ => .error ("invalid " ++ kind ++ " value: " ++ Text.quoted text)

/-- Number a value stands for, which may not be zero. -/
def readPositiveNumber (text : String) : Except String Nat :=
  readNumber readPositive "positive_int" text

/-- Number a value stands for, which may be zero. -/
def readNonNegativeNumber (text : String) : Except String Nat :=
  readNumber readNonNegative "non_negative_int" text

/-- Level a value names, in upper case. -/
def readLevel (text : String) : Except String String :=
  let level := Text.upper text
  if levelNames.contains level then .ok level
  else
    .error ("invalid choice: " ++ Text.quoted level ++ " (choose from "
      ++ String.intercalate ", " (levelNames.map Text.quoted) ++ ")")

namespace Setting

/-- Settles the value of an option, or says what is wrong with it. -/
def apply (configuration : Configuration) (value : String) :
    Setting → Except String Configuration
  | address => .ok { configuration with address := value }
  | token => .ok { configuration with token := value }
  | proxy => .ok { configuration with proxy := some value }
  | timeout =>
    (readPositiveNumber value).map fun n => { configuration with timeout := some (n : Int) }
  | perPage => (readPositiveNumber value).map fun n => { configuration with perPage := (n : Int) }
  | group => .ok { configuration with groups := configuration.groups ++ [.value value] }
  | ignoreList => .ok { configuration with ignoreList := some value }
  | directory => .ok { configuration with directory := value }
  | indexPath => .ok { configuration with indexPath := value }
  | specificationPath => .ok { configuration with specificationPath := value }
  | name => .ok { configuration with name := value }
  | revision => .ok { configuration with revision := value }
  | urlPattern => .ok { configuration with urlPattern := value }
  | httpUser => .ok { configuration with httpUser := value }
  | depth => (readNonNegativeNumber value).map fun n => { configuration with depth := (n : Int) }
  | codesearch => .ok { configuration with codesearch := value }
  | fetchReindex => .ok { configuration with fetchReindex := some value }
  | workers => (readPositiveNumber value).map fun n => { configuration with workers := (n : Int) }
  | logLevel =>
    (readLevel value).map fun level => { configuration with logLevel := level }
  | logFile => .ok { configuration with logFile := some value }

/-- Settles that an option was given nothing, which no reader of values sees. For the paths of the
two files that is as good as an empty path. -/
def applyNothing (configuration : Configuration) : Setting → Configuration
  | address => { configuration with address := .nothing }
  | token => { configuration with token := .nothing }
  | proxy => { configuration with proxy := some .nothing }
  | timeout => { configuration with timeout := some .nothing }
  | perPage => { configuration with perPage := .nothing }
  | group => { configuration with groups := configuration.groups ++ [.nothing] }
  | ignoreList => { configuration with ignoreList := some .nothing }
  | directory => { configuration with directory := .nothing }
  | indexPath => { configuration with indexPath := "" }
  | specificationPath => { configuration with specificationPath := "" }
  | name => { configuration with name := .nothing }
  | revision => { configuration with revision := .nothing }
  | urlPattern => { configuration with urlPattern := .nothing }
  | httpUser => { configuration with httpUser := .nothing }
  | depth => { configuration with depth := .nothing }
  | codesearch => { configuration with codesearch := .nothing }
  | fetchReindex => { configuration with fetchReindex := some .nothing }
  | workers => { configuration with workers := .nothing }
  | logLevel => { configuration with logLevel := .nothing }
  | logFile => { configuration with logFile := some .nothing }

end Setting

end RepoCatalog.CommandLine
