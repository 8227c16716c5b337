import RepoCatalog.Failure
import RepoCatalog.Text.Blank

/-!
# Numerals

Reading whole numbers written with the decimal digits of any script.
-/

namespace RepoCatalog

/-- Digits of a numeral in which single underscores may stand between digits. -/
def numeralDigits? : List Char → Option (List Char)
  | [] => none
  | [c] => if Text.isDecimal c then some [c] else none
  | c :: '_' :: rest =>
    if Text.isDecimal c then (numeralDigits? rest).map (c :: ·) else none
  | c :: rest => if Text.isDecimal c then (numeralDigits? rest).map (c :: ·) else none

/-- Sign of a numeral and what follows it. -/
def splitSign : List Char → Bool × List Char
  | '-' :: rest => (true, rest)
  | '+' :: rest => (false, rest)
  | text => (false, text)

/-- Whether a character may stand around a numeral: the blanks beyond ASCII, and of ASCII those
that typewriters had. -/
def isMargin (c : Char) : Bool :=
  if c.toNat < 128 then c == ' ' || ('\t' ≤ c && c ≤ '\r') else Text.isBlank c

/-- Whole number a text writes, blanks around it aside. -/
def readInteger? (text : List Char) : Option Int :=
  let (negative, rest) := splitSign (Text.dropEndWhile isMargin (text.dropWhile isMargin))
  match numeralDigits? rest with
  | none => none
  | some digits =>
    if Failure.digitLimit < digits.length then none
    else
      let size : Int := Text.decimalNumber digits
      some (if negative then -size else size)

/-- Number written by a text that consists of digits of any kind. -/
def readDigits (digits : List Char) : Except Failure Nat :=
  let decimals := digits.takeWhile Text.isDecimal
  if Failure.digitLimit < decimals.length then .error (.numeralTooLong decimals.length)
  else if decimals.length < digits.length then .error (.notANumeral (String.ofList digits))
  else .ok (Text.decimalNumber digits)

end RepoCatalog
