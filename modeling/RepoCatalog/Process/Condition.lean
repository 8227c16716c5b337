import RepoCatalog.Process.Shell.Arithmetic
import RepoCatalog.Text.Blank

/-!
# Conditions

What the commands called `test` and `[` decide: conditions on texts, numbers and files, and their
combinations.
-/

namespace RepoCatalog.Condition

/-- Operators, with the number of their operands. -/
inductive Kind
  | unary
  | binary
  | connective
  deriving DecidableEq, Repr

/-- Operators on one operand. -/
def unaryOperators : List String :=
  ["-r", "-w", "-x", "-e", "-f", "-d", "-c", "-b", "-p", "-u", "-g", "-k", "-s", "-t", "-z", "-n",
    "-h", "-L", "-O", "-G", "-S"]

/-- Operators between two operands; programs and shells do not know the same ones. -/
def binaryOperators (isShell : Bool) : List String :=
  ["=", "!=", "-eq", "-ne", "-lt", "-le", "-gt", "-ge", "-nt", "-ot", "-ef"]
    ++ if isShell then ["<", ">"] else ["=="]

/-- Operators that combine conditions. -/
def connectives : List String :=
  ["!", "-a", "-o", "(", ")"]

/-- Kind of an operator. -/
def kind? (isShell : Bool) (text : Octets) : Option Kind :=
  let text := String.ofList text
  if unaryOperators.contains text then some .unary
  else if (binaryOperators isShell).contains text then some .binary
  else if connectives.contains text then some .connective
  else none

/-- A lexical unit at the beginning of arguments: an operator, an operand, or the end. -/
inductive Lexeme
  | finish
  | operator (kind : Kind) (text : String)
  | operand
  deriving DecidableEq, Repr

/-- Whether the word after an operator on one operand makes that operator an operand. -/
def isOperand (isShell : Bool) : List Octets → Bool
  | [] => true
  | [_] => false
  | next :: _ :: _ => kind? isShell next = some .binary

/-- Unit at the beginning of arguments. -/
def lexeme (isShell : Bool) : List Octets → Lexeme
  | [] => .finish
  | text :: rest =>
    match kind? isShell text with
    | none => .operand
    | some kind =>
      if kind = .unary && isOperand isShell rest then .operand
      else if text = ['('] && rest.isEmpty then .operand
      else .operator kind (String.ofList text)

/-- What a condition is decided by. -/
structure Setting where
  /-- Whether the shell asks. -/
  isShell : Bool
  /-- Files. -/
  files : FileTree

/-- Whether a file has a property. -/
def holdsOfFile (files : FileTree) (operator : String) (path : Octets) : Bool :=
  let path := Octets.toString path
  let entry? := (files.inspect path).toOption
  match operator with
  | "-h" | "-L" =>
    match files.resolve .keep path with
    | .ok (.present _ (.link _)) => true
    | _ => false
  | _ =>
    match entry? with
    | none => false
    | some entry =>
      match operator, entry with
      | "-e", _ | "-r", _ | "-w", _ | "-O", _ | "-G", _ => true
      | "-d", .directory | "-s", .directory | "-x", .directory => true
      | "-f", .file _ _ | "-f", .tool _ | "-x", .tool _ | "-s", .tool _ => true
      | "-x", .file _ executable => executable
      | "-s", .file content _ => !content.isEmpty
      | "-c", .device _ => true
      | _, _ => false

/-- Whether two paths lead to the same place. -/
def samePlace (files : FileTree) (first second : Octets) : Bool :=
  match files.resolve .follow (Octets.toString first),
      files.resolve .follow (Octets.toString second) with
  | .ok (.present first _), .ok (.present second _) => first = second
  | _, _ => false

/-- Number that an operand writes. -/
def number (setting : Setting) (text : Octets) : Except Octets Int :=
  let malformed : Octets :=
    if setting.isShell then "Illegal number: " ++ text else "invalid integer '" ++ text ++ "'"
  let space := Shell.Expression.isSpace
  let trimmed := Text.dropEndWhile space (text.dropWhile space)
  let (negative, digits) := match trimmed with
    | '-' :: digits => (true, digits)
    | '+' :: digits => (false, digits)
    | digits => (false, digits)
  if digits.isEmpty || !digits.all Char.isDigit then .error malformed
  else
    let value : Int := Shell.number digits
    let value := if negative then -value else value
    if setting.isShell && Shell.Expression.clamp value ≠ value then .error malformed else .ok value

/-- Whether an operator holds between two operands. -/
def holdsBetween (setting : Setting) (operator : String) (left right : Octets) :
    Except Octets Bool := do
  let compare (holds : Int → Int → Bool) : Except Octets Bool := do
    let left ← number setting left
    return holds left (← number setting right)
  match operator with
  | "=" | "==" => return left = right
  | "!=" => return left ≠ right
  | "<" => return Octets.isBefore left right
  | ">" => return Octets.isBefore right left
  | "-eq" => compare (· == ·)
  | "-ne" => compare (· != ·)
  | "-lt" => compare (· < ·)
  | "-le" => compare (· ≤ ·)
  | "-gt" => compare (· > ·)
  | "-ge" => compare (· ≥ ·)
  | "-ef" => return samePlace setting.files left right
  | _ => return false

mutual

/-- Decides conditions of which one has to hold; what is left begins with the last word used. -/
def either (setting : Setting) : Nat → Bool → List Octets → Except Octets (Bool × List Octets)
  | 0, _, _ => .error []
  | fuel + 1, holds, words => do
    let (this, rest) ← both setting fuel true words
    match lexeme setting.isShell (rest.drop 1) with
    | .operator _ "-o" => either setting fuel (holds || this) (rest.drop 2)
    | _ => return (holds || this, rest)

/-- Decides conditions all of which have to hold. -/
def both (setting : Setting) : Nat → Bool → List Octets → Except Octets (Bool × List Octets)
  | 0, _, _ => .error []
  | fuel + 1, holds, words => do
    let (this, rest) ← negated setting fuel words
    match lexeme setting.isShell (rest.drop 1) with
    | .operator _ "-a" => both setting fuel (holds && this) (rest.drop 2)
    | _ => return (holds && this, rest)

/-- Decides a condition that may be negated. -/
def negated (setting : Setting) : Nat → List Octets → Except Octets (Bool × List Octets)
  | 0, _ => .error []
  | fuel + 1, words => do
    match lexeme setting.isShell words with
    | .operator _ "!" =>
      let (holds, rest) ← negated setting fuel (words.drop 1)
      return (!holds, rest)
    | _ => primary setting fuel words

/-- Decides a condition in parentheses, or one on one or two operands. -/
def primary (setting : Setting) : Nat → List Octets → Except Octets (Bool × List Octets)
  | 0, _ => .error []
  | fuel + 1, words => do
    match lexeme setting.isShell words with
    | .finish => return (false, words)
    | .operator _ "(" =>
      match lexeme setting.isShell (words.drop 1) with
      | .operator _ ")" => return (false, words.drop 1)
      | _ =>
        let (holds, rest) ← either setting fuel false (words.drop 1)
        match lexeme setting.isShell (rest.drop 1) with
        | .operator _ ")" => return (holds, rest.drop 1)
        | _ => .error "closing paren expected"
    | .operator .unary operator =>
      match words.drop 1 with
      | [] => .error (Octets.ofString operator ++ ": argument expected")
      | operand :: _ =>
        match operator with
        | "-z" => return (operand.isEmpty, words.drop 1)
        | "-n" => return (!operand.isEmpty, words.drop 1)
        | "-t" =>
          let _ ← number setting operand
          return (false, words.drop 1)
        | _ => return (holdsOfFile setting.files operator operand, words.drop 1)
    | _ =>
      match lexeme setting.isShell (words.drop 1) with
      | .operator .binary operator =>
        match words with
        | left :: _ :: right :: _ =>
          return (← holdsBetween setting operator left right, words.drop 2)
        | _ => .error (Octets.ofString operator ++ ": argument expected")
      | _ => return (!((words.head?.getD []).isEmpty), words)

end

/-- Decides a condition, given whether it was negated so far; fuel bounds the negations. -/
def decideFrom (setting : Setting) : Nat → Bool → List Octets → Except Octets Bool
  | 0, _, _ => .error []
  | _ + 1, flipped, [] => .ok flipped
  | fuel + 1, flipped, words => do
    let evaluate (words : List Octets) : Except Octets Bool := do
      let (holds, rest) ← either setting (4 * words.length + 8) false words
      match rest with
      | word :: _ :: _ => .error (word ++ ": unexpected operator")
      | _ => return holds != flipped
    match words with
    | [left, operator, right] =>
      if kind? setting.isShell operator = some .binary then
        return (← holdsBetween setting (String.ofList operator) left right) != flipped
      else if left = ['('] && right = [')'] then evaluate [operator]
      else if left = ['!'] then decideFrom setting fuel (!flipped) [operator, right]
      else evaluate words
    | [first, second, third, fourth] =>
      if first = ['('] && fourth = [')'] then evaluate [second, third]
      else if first = ['!'] then decideFrom setting fuel (!flipped) [second, third, fourth]
      else evaluate words
    | words => evaluate words

/-- Decides a condition. -/
def decide (setting : Setting) (words : List Octets) : Except Octets Bool :=
  decideFrom setting (words.length + 1) false words

end RepoCatalog.Condition
