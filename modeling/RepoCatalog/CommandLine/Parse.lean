import RepoCatalog.CommandLine.Options

/-!
# Parsing the command line

Every argument is first taken for an option or not; then options are applied in order. Long options
may be shortened as long as they stay unique.
-/

namespace RepoCatalog.CommandLine

/-- What an argument is taken for. -/
inductive Token
  | plain (text : String)
  | separator
  | option (choice : Choice) (spelling : String) (attached : Option String)
  | unknown (text : String)
  deriving DecidableEq, Repr

/-- What comes of a command line. -/
inductive Outcome
  | configured (configuration : Configuration)
  | help
  | misused (complaint : String)
  | failed (failure : Failure)
  deriving DecidableEq, Repr

/-- Text before and after the first equals sign; none without one. -/
def splitEquals (text : List Char) : Option (String × String) :=
  match text.span (· != '=') with
  | (before, _ :: after) => some (String.ofList before, String.ofList after)
  | (_, []) => none

/-- Whether a text looks like a negative number. -/
def isNegativeNumber (text : List Char) : Bool :=
  match text with
  | '-' :: digits =>
    let digits := if digits.getLast? == some '\n' then digits.dropLast else digits
    match digits.span Text.isDecimal with
    | (whole, []) => !whole.isEmpty
    | (_, '.' :: fractional) => !fractional.isEmpty && fractional.all Text.isDecimal
    | _ => false
  | _ => false

/-- Options that a text starting with two hyphens may stand for. -/
def longMatches (text : String) : List Token :=
  let (start, attached) :=
    match splitEquals text.toList with
    | some (start, value) => (start, some value)
    | none => (text, none)
  spelledChoices.filterMap fun (spelling, choice) =>
    if start.toList.isPrefixOf spelling.toList then some (.option choice spelling attached)
    else none

/-- Options that a text starting with one hyphen may stand for. -/
def shortMatches (text : String) : List Token :=
  let chars := text.toList
  spelledChoices.filterMap fun (spelling, choice) =>
    if spelling.toList = chars.take 2 then
      some (.option choice spelling (some (String.ofList (chars.drop 2))))
    else if chars.isPrefixOf spelling.toList then some (.option choice spelling none)
    else none

/-- Options that a text may stand for. -/
def optionMatches (text : String) : List Token :=
  match text.toList with
  | '-' :: '-' :: _ => longMatches text
  | _ => shortMatches text

/-- Spelling of the option a token stands for. -/
def Token.spelling? : Token → Option String
  | option _ spelling _ => some spelling
  | _ => none

/-- What an argument before any separator is taken for, or why that is undecided. -/
def classifyOne (text : String) : Except String Token :=
  match text.toList with
  | '-' :: second :: rest =>
    match spelledChoices.lookup text with
    | some choice => .ok (.option choice text none)
    | none =>
      match (splitEquals ('-' :: second :: rest)).bind fun (start, value) =>
          (spelledChoices.lookup start).map fun choice => (choice, start, value) with
      | some (choice, start, value) => .ok (.option choice start (some value))
      | none =>
        match optionMatches text with
        | [token] => .ok token
        | [] =>
          if isNegativeNumber text.toList || text.toList.contains ' ' then .ok (.plain text)
          else .ok (.unknown text)
        | tokens =>
          .error ("ambiguous option: " ++ text ++ " could match "
            ++ String.intercalate ", " (tokens.filterMap Token.spelling?))
  | _ => .ok (.plain text)

/-- What arguments are taken for; after a separator nothing is an option. -/
def classify : List String → Except String (List Token)
  | [] => .ok []
  | text :: rest =>
    if text = "--" then .ok (.separator :: rest.map .plain)
    else
      match classifyOne text with
      | .error complaint => .error complaint
      | .ok token => (classify rest).map (token :: ·)

/-- What follows a request for help in the same argument. -/
inductive HelpTail
  | complete
  | needsValue (setting : Setting)
  | senseless (rest : String)
  deriving DecidableEq, Repr

/-- The option with a one-letter spelling. -/
def letterChoice? (letter : Char) : Option Choice :=
  spelledChoices.lookup (String.ofList ['-', letter])

/-- Reads one-letter options after a request for help. -/
def helpTail : List Char → HelpTail
  | [] => .complete
  | letter :: rest =>
    match letterChoice? letter with
    | none => .senseless (String.ofList (letter :: rest))
    | some (.setting setting) => if rest.isEmpty then .needsValue setting else .complete
    | some _ => helpTail rest

/-- Message about a value that an option does not take. -/
def ignoredValue (choice : Choice) (value : String) : String :=
  choice.complaint ("ignored explicit argument " ++ Text.quoted value)

/-- Message about an option without its value. -/
def missingValue (setting : Setting) : String :=
  (Choice.setting setting).complaint "expected one argument"

/-- Whether the first token can be the value of an option. -/
def startsWithPlain : List Token → Bool
  | .plain _ :: _ => true
  | _ => false

/-- Outcome of a request for help with more letters attached to it. -/
def helpWith (attached : String) (rest : List Token) : Outcome :=
  match helpTail attached.toList with
  | .complete => if attached = "" then .misused (ignoredValue .help "") else .help
  | .senseless letters => .misused (ignoredValue .help letters)
  | .needsValue setting => if startsWithPlain rest then .help else .misused (missingValue setting)

/-- Applies a setting and goes on, or reports what is wrong with its value. -/
def settle (configuration : Configuration) (setting : Setting) (value : String)
    (next : Configuration → Outcome) : Outcome :=
  match setting.apply configuration value with
  | .ok configuration => next configuration
  | .error complaint => .misused ((Choice.setting setting).complaint complaint)

/-- Outcome of a configuration for which all options are read. -/
def configured (configuration : Configuration) : Outcome :=
  match configuration.settle with
  | .ok configuration => .configured configuration
  | .error failure => .failed failure

/-- Applies tokens in order; plain texts that no option takes are unrecognized. -/
def interpret : Configuration → List String → List Token → Outcome
  | configuration, [], [] => configured configuration
  | _, extra :: extras, [] =>
    .misused ("unrecognized arguments: " ++ String.intercalate " " (extra :: extras).reverse)
  | configuration, extras, .plain text :: rest => interpret configuration (text :: extras) rest
  | configuration, extras, .separator :: rest => interpret configuration ("--" :: extras) rest
  | configuration, extras, .unknown text :: rest => interpret configuration (text :: extras) rest
  | configuration, extras, .option (.setting setting) _ (some value) :: rest =>
    if value = "--" then interpret (setting.applyNothing configuration) extras rest
    else settle configuration setting value fun configuration => interpret configuration extras rest
  | configuration, extras, .option (.setting setting) _ none :: .plain value :: rest =>
    settle configuration setting value fun configuration => interpret configuration extras rest
  | _, _, .option (.setting setting) _ none :: _ => .misused (missingValue setting)
  | _, _, .option .help _ none :: _ => .help
  | _, _, .option .help spelling (some attached) :: rest =>
    if spelling = "-h" then helpWith attached rest else .misused (ignoredValue .help attached)
  | configuration, extras, .option (.switch switch) _ none :: rest =>
    interpret (switch.apply configuration) extras rest
  | _, _, .option (.switch switch) _ (some attached) :: _ =>
    .misused (ignoredValue (.switch switch) attached)
  | configuration, extras, .option (.toggle toggle) spelling none :: rest =>
    interpret (toggle.apply configuration (spelling ≠ toggle.negative)) extras rest
  | _, _, .option (.toggle toggle) _ (some attached) :: _ =>
    .misused (ignoredValue (.toggle toggle) attached)

/-- Parses a command line; the environment may hold the access token. -/
def parse (environment : Environment) (arguments : List String) : Outcome :=
  match classify arguments with
  | .error complaint => .misused complaint
  | .ok tokens =>
    interpret (Configuration.initial ((environment.lookup tokenVariable).getD "")) [] tokens

end RepoCatalog.CommandLine
