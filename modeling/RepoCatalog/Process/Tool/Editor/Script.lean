import RepoCatalog.Process.Regex
import RepoCatalog.Process.Escape

/-!
# Scripts of the line editor

What a script of the line editor consists of, and how it is read. A command may be for some lines
only, which addresses name.
-/

namespace RepoCatalog.Editor

/-- Names lines: one by its number, some at equal distances, the last one, or those that match an
expression, which is the one used before if none is written. -/
inductive Address
  | number (n : Nat)
  | every (first step : Nat)
  | finalLine
  | fits (expression : Option Regex) (folds : Bool)

/-- Where the lines for a command end: with a line that is named, after some further lines, or with
a line whose number is a multiple of another number. -/
inductive Bound
  | address (address : Address)
  | further (count : Nat)
  | multiple (factor : Nat)

/-- Part of what takes the place of a match. -/
inductive Part
  | text (text : Octets)
  | group (number : Nat)
  | shape (letter : Char)
  deriving DecidableEq, Repr

/-- How matches are replaced. -/
structure Substitution where
  /-- What is looked for. -/
  expression : Option Regex
  /-- Whether upper and lower case count as equal. -/
  folds : Bool
  /-- What takes its place. -/
  replacement : List Part
  /-- Number of the first match that is replaced. -/
  first : Nat
  /-- Whether all later matches are replaced, too. -/
  everywhere : Bool
  /-- Whether the result is written. -/
  prints : Bool
  /-- File that the result is written to. -/
  file : Option Octets

/-- What a command does. -/
inductive Edit
  | substitute (substitution : Substitution)
  | replaceEach (source target : Octets)
  | print (firstLine : Bool)
  | delete (firstLine : Bool)
  | next (appends : Bool)
  | quit (silently : Bool) (status : Nat)
  | lineNumber
  | fileName
  | append (text : Octets)
  | insert (text : Octets)
  | change (text : Octets)
  | readFile (path : Octets)
  | writeFile (path : Octets) (firstLine : Bool)
  | hold (appends : Bool)
  | recall (appends : Bool)
  | exchange
  | list (width : Option Nat)
  | clear
  | «open»
  | close
  | label (name : Octets)
  | jump (condition : Option Bool) (name : Octets)

/-- A command with the lines that it is for. -/
structure Command where
  /-- First line. -/
  first : Option Address
  /-- Last line. -/
  last : Option Bound
  /-- Whether it is for all other lines. -/
  negated : Bool
  /-- What is done. -/
  edit : Edit

/-! ## Reading scripts -/

/-- A reader of scripts: it fails with a message, perhaps with how much of the script was left. -/
abbrev Reader := StateT Octets (Except (Option Nat × Octets))

namespace Reader

/-- Stops with a message. -/
def refuse {α : Type} (message : Octets) : Reader α := do
  throw (some (← get).length, message)

/-- Takes a character, if there is one. -/
def take? : Reader (Option Char) := do
  match ← get with
  | [] => return none
  | c :: rest =>
    set rest
    return some c

/-- Takes characters as long as they satisfy a test. -/
def takeWhile (test : Char → Bool) : Reader Octets := do
  let (text, rest) := (← get).span test
  set rest
  return text

/-- Takes a number. -/
def takeNumber : Reader Nat := do
  let digits ← takeWhile Char.isDigit
  return digits.foldl (fun value c => 10 * value + (c.toNat - 48)) 0

/-- Takes a character if it is the one that is expected. -/
def skip? (expected : Char) : Reader Bool := do
  match ← get with
  | c :: rest =>
    if c == expected then
      set rest
      return true
    else return false
  | [] => return false

end Reader

/-- Whether a character is blank space. -/
def isSpace (c : Char) : Bool :=
  c == ' ' || ('\t' ≤ c && c ≤ '\r')

/-- Whether a character is blank space within a line. -/
def isBlank (c : Char) : Bool :=
  isSpace c && c != '\n'

/-- Whether a character of an expression stands within brackets. -/
inductive InSet
  | outside
  | opened
  | negated
  | inside
  deriving DecidableEq

/-- Whether the character after one stands within brackets. -/
def InSet.after (c : Char) : InSet → InSet
  | outside => if c == '[' then opened else outside
  | opened => if c == '^' then negated else inside
  | negated => inside
  | inside => if c == ']' then outside else inside

/-- Text up to a mark, and what follows it. An escaped mark stands for itself; so does a mark within
brackets of an expression. -/
def takeDelimited (mark : Char) (isExpression : Bool) : InSet → Octets → Option (Octets × Octets)
  | _, [] => none
  | inSet, '\\' :: c :: rest => do
    let (text, left) ← takeDelimited mark isExpression
      (if inSet = .outside then .outside else .inside) rest
    let kept : Octets :=
      if c == 'n' && isExpression && inSet = .outside then ['\n']
      else if c == '\n' then [c]
      else if c == mark && !(c == '&' && !isExpression) then [c]
      else ['\\', c]
    return (kept ++ text, left)
  | inSet, c :: rest =>
    if c == mark && inSet = .outside then some ([], rest)
    else if c == '\n' && isExpression then none
    else do
      let next := if isExpression then inSet.after c else .outside
      let (text, left) ← takeDelimited mark isExpression next rest
      return (c :: text, left)

/-- Takes text up to a mark. -/
def takeTo (mark : Char) (isExpression : Bool) (command : Octets) : Reader Octets := do
  match takeDelimited mark isExpression .outside (← get) with
  | some (text, rest) =>
    set rest
    return text
  | none =>
    set ([] : Octets)
    Reader.refuse ("unterminated " ++ command)

/-- Text in which numbers of characters are replaced by the characters. -/
def withCodes : Nat → Octets → Octets
  | 0, text => text
  | fuel + 1, text =>
    let digit? (base : Nat) (c : Char) : Option Nat :=
      let value := if c.isDigit then c.toNat - 48 else if 'a' ≤ c && c ≤ 'f' then c.toNat - 87
        else if 'A' ≤ c && c ≤ 'F' then c.toNat - 55 else 99
      if value < base then some value else none
    let code? (base size : Nat) (rest : Octets) : Option (Char × Octets) :=
      let digits := (rest.take size).takeWhile fun c => (digit? base c).isSome
      if digits.isEmpty then none
      else
        let value := digits.foldl (fun value c => base * value + ((digit? base c).getD 0)) 0
        some (Char.ofNat (value % 256), rest.drop digits.length)
    match text with
    | [] => []
    | '\\' :: kind :: rest =>
      let found := match kind with
        | 'x' => code? 16 2 rest
        | 'o' => code? 8 3 rest
        | 'd' => code? 10 3 rest
        | _ => none
      match found with
      | some (c, rest) => '\\' :: c :: withCodes fuel rest
      | none => '\\' :: kind :: withCodes fuel rest
    | c :: rest => c :: withCodes fuel rest

/-- The expression that a text writes; none for the one used before. -/
def expressionOf (extended : Bool) (text : Octets) : Reader (Option Regex) := do
  if text.isEmpty then return none
  else
    match Regex.ofText? extended (withCodes text.length text) with
    | some expression => return some expression
    | none => Reader.refuse (Regex.complaint extended text)

/-- Takes an address, if there is one. -/
def takeAddress (extended : Bool) : Reader (Option Address) := do
  let expression (mark : Char) : Reader (Option Address) := do
    let text ← takeTo mark true "address regex"
    let letters ← Reader.takeWhile ['I', 'M'].contains
    return some (.fits (← expressionOf extended text) (letters.contains 'I'))
  match ← get with
  | '$' :: rest =>
    set rest
    return some .finalLine
  | '/' :: rest =>
    set rest
    expression '/'
  | '\\' :: mark :: rest =>
    set rest
    expression mark
  | c :: _ =>
    if !c.isDigit then return none
    else
      let n ← Reader.takeNumber
      if ← Reader.skip? '~' then return some (.every n (← Reader.takeNumber))
      else return some (.number n)
  | [] => return none

/-- Takes where the lines for a command end. -/
def takeBound (extended : Bool) : Reader Bound := do
  let startsWithDigit (text : Octets) : Bool := text.head?.any Char.isDigit
  match ← get with
  | '+' :: rest =>
    if !startsWithDigit rest then Reader.refuse "unexpected `,'"
    set rest
    return .further (← Reader.takeNumber)
  | '~' :: rest =>
    if !startsWithDigit rest then Reader.refuse "unexpected `,'"
    set rest
    return .multiple (← Reader.takeNumber)
  | _ =>
    match ← takeAddress extended with
    | some address => return .address address
    | none =>
      let _ ← Reader.take?
      Reader.refuse "unexpected `,'"

/-- Makes sure that nothing else stands behind a command. -/
def endCommand : Reader Unit := do
  let _ ← Reader.takeWhile isBlank
  match ← get with
  | [] | '\x7d' :: _ | '#' :: _ => pure ()
  | ';' :: rest | '\n' :: rest => set rest
  | _ =>
    let _ ← Reader.take?
    Reader.refuse "extra characters after command"

/-- Takes the rest of a line. -/
def takeLine : Reader Octets := do
  let line ← Reader.takeWhile (· != '\n')
  let _ ← Reader.take?
  return line

/-- Takes the name of a file. -/
def takePath : Reader Octets := do
  let _ ← Reader.takeWhile isBlank
  match ← takeLine with
  | [] => Reader.refuse "missing filename in r/R/w/W commands"
  | path => return path

/-- Takes the name of a place in a script. -/
def takeLabel : Reader Octets := do
  let _ ← Reader.takeWhile isBlank
  let name ← Reader.takeWhile fun c => !isSpace c && c != ';' && c != '\x7d'
  endCommand
  return name

/-- Text that is added to lines, without its escapes, and what follows it. -/
def addedText : Octets → Octets × Octets
  | [] => (['\n'], [])
  | '\n' :: rest => (['\n'], rest)
  | '\\' :: [] => (['\n'], [])
  | '\\' :: c :: rest =>
    let (text, rest) := addedText rest
    let shown := match c with
      | 'a' => '\x07'
      | 'f' => '\x0c'
      | 'n' => '\n'
      | 'r' => '\r'
      | 't' => '\t'
      | 'v' => '\x0b'
      | c => c
    (shown :: text, rest)
  | c :: rest =>
    let (text, rest) := addedText rest
    (c :: text, rest)

/-- Takes text that is added to lines. -/
def takeText : Reader Octets := do
  let _ ← Reader.takeWhile isSpace
  match ← get with
  | [] => Reader.refuse "expected \\ after `a', `c' or `i'"
  | ['\\'] =>
    set ([] : Octets)
    return []
  | '\\' :: rest =>
    match rest.dropWhile isBlank with
    | '\n' :: rest =>
      let (text, rest) := addedText rest
      set rest
      return text
    | _ =>
      let (text, rest) := addedText rest
      set rest
      return text
  | text =>
    let (text, rest) := addedText text
    set rest
    return text

/-- One more character of a replacement. -/
def addToParts (c : Char) : List Part → List Part
  | .text text :: parts => .text (c :: text) :: parts
  | parts => .text [c] :: parts

/-- Parts of a replacement. -/
def partsOf : Octets → List Part
  | [] => []
  | '\\' :: c :: rest =>
    if c.isDigit then .group (c.toNat - 48) :: partsOf rest
    else
      match c with
      | 'U' | 'L' | 'E' | 'u' | 'l' => .shape c :: partsOf rest
      | 'a' => addToParts '\x07' (partsOf rest)
      | 'f' => addToParts '\x0c' (partsOf rest)
      | 'n' => addToParts '\n' (partsOf rest)
      | 'r' => addToParts '\r' (partsOf rest)
      | 't' => addToParts '\t' (partsOf rest)
      | 'v' => addToParts '\x0b' (partsOf rest)
      | c => addToParts c (partsOf rest)
  | '&' :: rest => .group 0 :: partsOf rest
  | c :: rest => addToParts c (partsOf rest)

/-- Number of groups in an expression. -/
def groupCount : Regex → Nat
  | .group number inner => max number (groupCount inner)
  | .sequence first second | .either first second => max (groupCount first) (groupCount second)
  | .repeated _ _ inner => groupCount inner
  | _ => 0

/-- Takes the options behind a substitution; fuel bounds their number. -/
def takeOptions : Nat → Substitution → Reader Substitution
  | 0, substitution => return substitution
  | fuel + 1, substitution => do
    match ← get with
    | [] | '\x7d' :: _ | '#' :: _ => return substitution
    | c :: rest =>
      if c.isDigit then
        let n ← Reader.takeNumber
        if n = 0 then Reader.refuse "number option to `s' command may not be zero"
        takeOptions fuel { substitution with first := n }
      else
        set rest
        match c with
        | ';' | '\n' => return substitution
        | ' ' | '\t' | '\r' => takeOptions fuel substitution
        | 'g' =>
          if substitution.everywhere then Reader.refuse "multiple `g' options to `s' command"
          takeOptions fuel { substitution with everywhere := true }
        | 'p' =>
          if substitution.prints then Reader.refuse "multiple `p' options to `s' command"
          takeOptions fuel { substitution with prints := true }
        | 'i' | 'I' => takeOptions fuel { substitution with folds := true }
        | 'm' | 'M' => takeOptions fuel substitution
        | 'w' => return { substitution with file := some (← takePath) }
        | _ => Reader.refuse "unknown option to `s'"

/-- Takes a substitution. -/
def takeSubstitution (extended : Bool) : Reader Substitution := do
  match ← Reader.take? with
  | none => Reader.refuse "unterminated `s' command"
  | some mark =>
    let expression ← takeTo mark true "`s' command"
    let replacement ← takeTo mark false "`s' command"
    let parts := partsOf (withCodes replacement.length replacement)
    let start : Substitution := ⟨none, false, parts, 1, false, false, none⟩
    let substitution ← takeOptions ((← get).length + 1) start
    let expression ← expressionOf extended expression
    let groups := (expression.map groupCount).getD 9
    parts.forM fun part => do
      match part with
      | .group number =>
        if groups < number then
          Reader.refuse ("invalid reference \\" ++ Octets.ofNat number ++ " on `s' command's RHS")
      | _ => pure ()
    return { substitution with expression := expression }

/-- Characters of a text whose escapes are replaced. -/
def readLetters : Octets → Octets
  | '\\' :: '\\' :: rest => '\\' :: readLetters rest
  | '\\' :: 'n' :: rest => '\n' :: readLetters rest
  | '\\' :: 't' :: rest => '\t' :: readLetters rest
  | c :: rest => c :: readLetters rest
  | [] => []

/-- Takes characters and those that they are replaced by. -/
def takeReplacements : Reader Edit := do
  match ← Reader.take? with
  | none => Reader.refuse "unterminated `y' command"
  | some mark =>
    let source := readLetters (← takeTo mark false "`y' command")
    let target := readLetters (← takeTo mark false "`y' command")
    if source.length ≠ target.length then
      Reader.refuse "strings for `y' command are different lengths"
    endCommand
    return .replaceEach source target

/-- Takes what a command does, after its letter. -/
def takeEdit (extended : Bool) (letter : Char) : Reader Edit := do
  let plain (edit : Edit) : Reader Edit := do
    endCommand
    return edit
  let number? : Reader (Option Nat) := do
    let _ ← Reader.takeWhile isBlank
    let isThere := (← get).head?.any Char.isDigit
    let n ← Reader.takeNumber
    endCommand
    return if isThere then some n else none
  match letter with
  | '\x7b' => return .open
  | '\x7d' => plain .close
  | '=' => plain .lineNumber
  | 'd' => plain (.delete false)
  | 'D' => plain (.delete true)
  | 'F' => plain .fileName
  | 'g' => plain (.recall false)
  | 'G' => plain (.recall true)
  | 'h' => plain (.hold false)
  | 'H' => plain (.hold true)
  | 'n' => plain (.next false)
  | 'N' => plain (.next true)
  | 'p' => plain (.print false)
  | 'P' => plain (.print true)
  | 'x' => plain .exchange
  | 'z' => plain .clear
  | 'a' => return .append (← takeText)
  | 'i' => return .insert (← takeText)
  | 'c' => return .change (← takeText)
  | ':' =>
    let _ ← Reader.takeWhile isBlank
    let name ← Reader.takeWhile fun c => c != ';' && c != '\n'
    if name.isEmpty then Reader.refuse "\":\" lacks a label"
    return .label name
  | 'b' => return .jump none (← takeLabel)
  | 't' => return .jump (some true) (← takeLabel)
  | 'T' => return .jump (some false) (← takeLabel)
  | 'v' =>
    let _ ← takeLabel
    return .label []
  | 'r' => return .readFile (← takePath)
  | 'w' => return .writeFile (← takePath) false
  | 'W' => return .writeFile (← takePath) true
  | 'q' => return .quit false ((← number?).getD 0)
  | 'Q' => return .quit true ((← number?).getD 0)
  | 'l' => return .list (← number?)
  | 's' => return .substitute (← takeSubstitution extended)
  | 'y' => takeReplacements
  | letter => Reader.refuse ("unknown command: `" ++ [letter, '\x27'])

/-- Takes commands, given how many blocks are open; fuel bounds their number. -/
def takeCommands (extended : Bool) : Nat → Nat → Reader (List Command)
  | 0, _ => return []
  | fuel + 1, depth => do
    let _ ← Reader.takeWhile fun c => isSpace c || c == ';'
    match ← get with
    | [] => if depth = 0 then return [] else throw (none, ("unmatched `\x7b'" : Octets))
    | '#' :: _ =>
      let _ ← takeLine
      takeCommands extended fuel depth
    | _ =>
      let first ← takeAddress extended
      let _ ← Reader.takeWhile isBlank
      let last ←
        if first.isSome && (← get).head? = some ',' then
          let _ ← Reader.take?
          let _ ← Reader.takeWhile isBlank
          some <$> takeBound extended
        else pure none
      let isMisused := match first, last with
        | some (.number 0), some (.address (.fits _ _)) => false
        | some (.number 0), _ => true
        | _, _ => false
      let _ ← Reader.takeWhile isBlank
      let negated := (← Reader.takeWhile fun c => c == '!' || isBlank c).contains '!'
      match ← Reader.take? with
      | none => Reader.refuse "missing command"
      | some letter =>
        if isMisused then Reader.refuse "invalid usage of line address 0"
        if letter == '\x7d' && depth = 0 then Reader.refuse "unexpected `\x7d'"
        if letter == ':' && first.isSome then Reader.refuse ": doesn't want any addresses"
        if letter == '#' && first.isSome then
          Reader.refuse "comments don't accept any addresses"
        if (letter == 'q' || letter == 'Q') && last.isSome then
          Reader.refuse "command only uses one address"
        let edit ← takeEdit extended letter
        let depth := match edit with
          | .open => depth + 1
          | .close => depth - 1
          | _ => depth
        return ⟨first, last, negated, edit⟩ :: (← takeCommands extended fuel depth)

/-- The commands of a script, or a message with how many characters were read. -/
def commandsOf (extended : Bool) (script : Octets) : Except (Nat × Octets) (List Command) :=
  match (takeCommands extended (script.length + 2) 0).run script with
  | .ok (commands, _) => .ok commands
  | .error (left, message) => .error ((left.map (script.length - ·)).getD 0, message)

end RepoCatalog.Editor
