import RepoCatalog.Process.Shell.Variables

/-!
# Arithmetic of the shell

Expressions over whole numbers of 64 bits, which wrap around. Assignments and choices are evaluated
from left to right, and only as far as they are needed.
-/

namespace RepoCatalog.Shell

/-- Operators between two numbers. -/
inductive Operator
  | multiply
  | divide
  | remainder
  | add
  | subtract
  | shiftLeft
  | shiftRight
  | less
  | atMost
  | greater
  | atLeast
  | equal
  | unequal
  | bitAnd
  | bitXor
  | bitOr
  deriving DecidableEq, Repr

/-- Expressions; an assignment may combine the old value with the new one. -/
inductive Expression
  | number (value : Int)
  | named (name : Octets)
  | negate (operand : Expression)
  | complement (operand : Expression)
  | isZero (operand : Expression)
  | binary (operator : Operator) (left right : Expression)
  | both (left right : Expression)
  | either (left right : Expression)
  | choice (test yes no : Expression)
  | assign (name : Octets) (operator : Option Operator) (value : Expression)

namespace Expression

/-- A number brought into the range of 64 bits. -/
def wrap (n : Int) : Int :=
  Int.bmod n 18446744073709551616

/-- Largest number. -/
def largest : Int := 9223372036854775807

/-- Value of a digit in bases up to sixteen. -/
def digitValue (c : Char) : Nat :=
  if c.isDigit then c.toNat - 48
  else if 'a' ≤ c && c ≤ 'f' then c.toNat - 87
  else if 'A' ≤ c && c ≤ 'F' then c.toNat - 55
  else 16

/-- Number in a base at the beginning of a text, with what follows it; none without a digit. -/
def takeDigits? (base : Nat) (text : Octets) : Option (Nat × Octets) :=
  match text.span fun c => digitValue c < base with
  | ([], _) => none
  | (digits, rest) => some (digits.foldl (fun value c => base * value + digitValue c) 0, rest)

/-- Number at the beginning of a text, whose own beginning tells its base, with what follows it. -/
def takeNumber? (text : Octets) : Option (Nat × Octets) :=
  match text with
  | '0' :: x :: rest =>
    match if x == 'x' || x == 'X' then takeDigits? 16 rest else none with
    | some result => some result
    | none => takeDigits? 8 text
  | '0' :: _ => takeDigits? 8 text
  | _ => takeDigits? 10 text

/-- Whether a character is skipped in front of a number. -/
def isSpace (c : Char) : Bool :=
  c == ' ' || ('\t' ≤ c && c ≤ '\r')

/-- Number at the beginning of a text with its sign, with what follows it. -/
def takeSigned? (text : Octets) : Option (Int × Octets) :=
  match text.dropWhile isSpace with
  | '-' :: rest => (takeNumber? rest).map fun (value, rest) => (-(value : Int), rest)
  | '+' :: rest => (takeNumber? rest).map fun (value, rest) => ((value : Int), rest)
  | rest => (takeNumber? rest).map fun (value, rest) => ((value : Int), rest)

/-- Number brought to the nearest one within the range of 64 bits. -/
def clamp (n : Int) : Int :=
  max (-largest - 1) (min largest n)

/-- Lexical units; text that is none ends an expression. -/
inductive Lexeme
  | number (value : Int)
  | name (name : Octets)
  | sign (text : String)
  | senseless
  deriving DecidableEq, Repr

/-- Signs, longest first. -/
def signs : List String :=
  ["<<=", ">>=", "<<", ">>", "<=", ">=", "==", "!=", "&&", "||", "+=", "-=", "*=", "/=", "%=", "&=",
    "^=", "|=", "<", ">", "=", "!", "&", "|", "+", "-", "*", "/", "%", "^", "~", "?", ":", "(", ")"]

/-- Units of a text; fuel bounds its length. -/
def units : Nat → Octets → List Lexeme
  | 0, _ => []
  | _ + 1, [] => []
  | fuel + 1, c :: rest =>
    if c == ' ' || c == '\t' || c == '\n' then units fuel rest
    else if c.isDigit then
      match takeNumber? (c :: rest) with
      | some (value, rest) => .number (clamp value) :: units fuel rest
      | none => [.senseless]
    else if startsName c then
      let (name, rest) := (c :: rest).span inName
      .name name :: units fuel rest
    else
      match signs.find? fun sign => sign.toList.isPrefixOf (c :: rest) with
      | some sign => .sign sign :: units fuel ((c :: rest).drop sign.length)
      | none => [.senseless]

/-- Operators by their signs, with their rank; those of lower rank bind more tightly. -/
def operators : List (String × Nat × Operator) :=
  [("*", 0, .multiply), ("/", 0, .divide), ("%", 0, .remainder), ("+", 1, .add),
    ("-", 1, .subtract), ("<<", 2, .shiftLeft), (">>", 2, .shiftRight), ("<", 3, .less),
    ("<=", 3, .atMost), (">", 3, .greater), (">=", 3, .atLeast), ("==", 4, .equal),
    ("!=", 4, .unequal), ("&", 5, .bitAnd), ("^", 6, .bitXor), ("|", 7, .bitOr)]

/-- Rank of the operators that bind least. -/
def lastRank : Nat := 7

/-- Operator of a sign and a rank. -/
def operator? (rank : Nat) (sign : String) : Option Operator :=
  match operators.lookup sign with
  | some (found, operator) => if found = rank then some operator else none
  | none => none

/-- Operator that the sign of an assignment combines values with. -/
def assigned? (sign : String) : Option (Option Operator) :=
  if sign = "=" then some none
  else
    match sign.toList.getLast?, operators.lookup (String.ofList sign.toList.dropLast) with
    | some '=', some (rank, operator) =>
      if rank = 3 || rank = 4 then none else some (some operator)
    | _, _ => none

/-- An expression and the units behind it, or what was expected in place of those. -/
abbrev Result := Except String (Expression × List Lexeme)

mutual

/-- Reads an assignment or what it may assign. -/
def readAssignment : Nat → List Lexeme → Result
  | 0, _ => .error "expecting primary"
  | fuel + 1, units => do
    match units with
    | .name name :: .sign sign :: rest =>
      match assigned? sign with
      | some operator =>
        let (value, rest) ← readAssignment fuel rest
        return (.assign name operator value, rest)
      | none => readChoice fuel units
    | units => readChoice fuel units

/-- Reads a choice between two expressions. -/
def readChoice : Nat → List Lexeme → Result
  | 0, _ => .error "expecting primary"
  | fuel + 1, units => do
    match ← readEither fuel units with
    | (test, .sign "?" :: rest) =>
      match ← readAssignment fuel rest with
      | (yes, .sign ":" :: rest) =>
        let (no, rest) ← readChoice fuel rest
        return (.choice test yes no, rest)
      | _ => throw "expecting ':'"
    | other => return other

/-- Reads conditions of which one has to hold. -/
def readEither : Nat → List Lexeme → Result
  | 0, _ => .error "expecting primary"
  | fuel + 1, units => do
    match ← readBoth fuel units with
    | (left, .sign "||" :: rest) =>
      let (right, rest) ← readEither fuel rest
      return (.either left right, rest)
    | other => return other

/-- Reads conditions all of which have to hold. -/
def readBoth : Nat → List Lexeme → Result
  | 0, _ => .error "expecting primary"
  | fuel + 1, units => do
    match ← readBinary fuel lastRank units with
    | (left, .sign "&&" :: rest) =>
      let (right, rest) ← readBoth fuel rest
      return (.both left right, rest)
    | other => return other

/-- Reads operators of a rank. -/
def readBinary : Nat → Nat → List Lexeme → Result
  | 0, _, _ => .error "expecting primary"
  | fuel + 1, rank, units => do
    let (left, rest) ← readOperand fuel rank units
    readMore fuel rank left rest

/-- Reads an operand of operators of a rank. -/
def readOperand : Nat → Nat → List Lexeme → Result
  | 0, _, _ => .error "expecting primary"
  | fuel + 1, 0, units => readPrimary fuel units
  | fuel + 1, rank + 1, units => readBinary fuel rank units

/-- Reads more operators of a rank after an operand. -/
def readMore : Nat → Nat → Expression → List Lexeme → Result
  | 0, _, _, _ => .error "expecting primary"
  | fuel + 1, rank, left, units => do
    match units with
    | .sign sign :: rest =>
      match operator? rank sign with
      | some operator =>
        let (right, rest) ← readOperand fuel rank rest
        readMore fuel rank (.binary operator left right) rest
      | none => return (left, units)
    | units => return (left, units)

/-- Reads a number, a variable, a sign with its operand, or an expression in parentheses. -/
def readPrimary : Nat → List Lexeme → Result
  | 0, _ => .error "expecting primary"
  | fuel + 1, units => do
    let signed (make : Expression → Expression) (rest : List Lexeme) : Result := do
      let (operand, rest) ← readPrimary fuel rest
      return (make operand, rest)
    match units with
    | .number value :: rest => return (.number value, rest)
    | .name name :: rest => return (.named name, rest)
    | .sign "(" :: rest =>
      match ← readAssignment fuel rest with
      | (inner, .sign ")" :: rest) => return (inner, rest)
      | _ => throw "expecting ')'"
    | .sign "+" :: rest => signed id rest
    | .sign "-" :: rest => signed .negate rest
    | .sign "~" :: rest => signed .complement rest
    | .sign "!" :: rest => signed .isZero rest
    | _ => throw "expecting primary"

end

/-- Expression that a text writes, or what it lacks. -/
def ofText (text : Octets) : Except String Expression := do
  let units := units (text.length + 1) text
  match ← readAssignment (32 * (units.length + 2)) units with
  | (expression, []) => return expression
  | _ => throw "expecting EOF"

/-- Message about an expression. -/
def complaint (text : Octets) (message : String) : Octets :=
  "arithmetic expression: " ++ Octets.ofString message ++ ": \"" ++ text ++ ['"']

/-- One or zero. -/
def truth (holds : Bool) : Int :=
  if holds then 1 else 0

/-- Combination of the bits of two numbers. -/
def bits (combine : BitVec 64 → BitVec 64 → BitVec 64) (left right : Int) : Int :=
  (combine (BitVec.ofInt 64 left) (BitVec.ofInt 64 right)).toInt

end Expression

/-- Value of an operator in an expression of some text; division may fail or kill the shell. -/
def Operator.apply (text : Octets) (operator : Operator) (left right : Int) : Act Int := do
  let divided (value : Int) : Act Int := do
    if right = 0 then fail (Expression.complaint text "division by zero")
    else if left = -Expression.largest - 1 && right = -1 then
      throw (.killed (← Act.process).number 8)
    else return value
  let amount := (right % 64).toNat
  match operator with
  | .multiply => return Expression.wrap (left * right)
  | .divide => divided (Int.tdiv left right)
  | .remainder => divided (Int.tmod left right)
  | .add => return Expression.wrap (left + right)
  | .subtract => return Expression.wrap (left - right)
  | .shiftLeft => return Expression.wrap (left * Nat.pow 2 amount)
  | .shiftRight => return Int.fdiv left (Nat.pow 2 amount)
  | .less => return Expression.truth (left < right)
  | .atMost => return Expression.truth (left ≤ right)
  | .greater => return Expression.truth (left > right)
  | .atLeast => return Expression.truth (left ≥ right)
  | .equal => return Expression.truth (left = right)
  | .unequal => return Expression.truth (left ≠ right)
  | .bitAnd => return Expression.bits (· &&& ·) left right
  | .bitXor => return Expression.bits (· ^^^ ·) left right
  | .bitOr => return Expression.bits (· ||| ·) left right

namespace Expression

/-- Number that a variable holds. -/
def variableNumber (name : Octets) : Act Int := do
  match ← value? name with
  | none =>
    if (← Act.process).options.contains 'u' then fail (name ++ ": parameter not set")
    else return 0
  | some text =>
    if text.all isSpace then return 0
    else
      match takeSigned? text with
      | some (value, rest) =>
        if rest.all isSpace then return clamp value else fail ("Illegal number: " ++ text)
      | none => fail ("Illegal number: " ++ text)

/-- Value of an expression of some text. -/
def evaluate (text : Octets) : Expression → Act Int
  | number value => return value
  | named name => variableNumber name
  | negate operand => return wrap (-(← operand.evaluate text))
  | complement operand => return -(← operand.evaluate text) - 1
  | isZero operand => return truth ((← operand.evaluate text) = 0)
  | binary operator left right => do
    let left ← left.evaluate text
    operator.apply text left (← right.evaluate text)
  | both left right => do
    if (← left.evaluate text) = 0 then return 0 else return truth ((← right.evaluate text) ≠ 0)
  | either left right => do
    if (← left.evaluate text) ≠ 0 then return 1 else return truth ((← right.evaluate text) ≠ 0)
  | choice test yes no => do
    if (← test.evaluate text) ≠ 0 then yes.evaluate text else no.evaluate text
  | assign name operator value => do
    let value ← value.evaluate text
    let value ← match operator with
      | none => pure value
      | some operator => do operator.apply text (← variableNumber name) value
    setVariable name (Octets.ofInt value)
    return value

end Expression

end RepoCatalog.Shell
