import RepoCatalog.Text.CodeRun

/-!
# Digits

Decimal digits of every script come in runs of ten; other digits, such as superscripts, have no
place in a numeral.
-/

namespace RepoCatalog.Text

/-- Code points of the zeros of the decimal scripts. -/
def zeroCodes : List Nat := [
  48, 1632, 1776, 1984, 2406, 2534, 2662, 2790, 2918, 3046, 3174, 3302, 3430, 3558, 3664, 3792,
  3872, 4160, 4240, 6112, 6160, 6470, 6608, 6784, 6800, 6992, 7088, 7232, 7248, 42528, 43216,
  43264, 43472, 43504, 43600, 44016, 65296, 66720, 68912, 69734, 69872, 69942, 70096, 70384,
  70736, 70864, 71248, 71360, 71472, 71904, 72016, 72784, 73040, 73120, 92768, 92864, 93008,
  120782, 120792, 120802, 120812, 120822, 123200, 123632, 125264, 130032]

/-- Edges of the runs of digits that are not decimal. -/
def otherDigitEdges : List Nat := [
  178, 180, 185, 186, 4969, 4978, 6618, 6619, 8304, 8305, 8308, 8314, 8320, 8330, 9312, 9321,
  9332, 9341, 9352, 9361, 9450, 9451, 9461, 9470, 9471, 9472, 10102, 10111, 10112, 10121, 10122,
  10131, 68160, 68164, 69216, 69225, 69714, 69723, 127232, 127243]

/-- Value of a decimal digit of any script. -/
def decimalValue? (c : Char) : Option Nat :=
  (zeroCodes.find? fun first => first ≤ c.toNat && c.toNat < first + 10).map (c.toNat - ·)

/-- Whether a character is a decimal digit of some script. -/
def isDecimal (c : Char) : Bool :=
  (decimalValue? c).isSome

/-- Whether a character is a digit of any kind. -/
def isDigit (c : Char) : Bool :=
  isDecimal c || withinRuns otherDigitEdges c.toNat

/-- Number written by decimal digits, most significant first; other characters count as zero. -/
def decimalNumber (digits : List Char) : Nat :=
  digits.foldl (fun value c => 10 * value + (decimalValue? c).getD 0) 0

/-- Digits of a number in base ten, as text. -/
def naturalText (n : Nat) : List Char :=
  Nat.toDigits 10 n

end RepoCatalog.Text
