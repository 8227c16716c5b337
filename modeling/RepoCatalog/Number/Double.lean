import RepoCatalog.Text.Digit

/-!
# Double-precision numbers

Magnitudes are held exactly, as a significand of at most 53 bits and a power of two. Rounding is to
the nearest value, ties to the even significand.
-/

namespace RepoCatalog

/-- A double-precision number, or the mark that a number is undefined. -/
inductive Double
  | finite (negative : Bool) (significand : Nat) (exponent : Int)
  | infinite (negative : Bool)
  | undefined
  deriving DecidableEq, Repr

namespace Double

/-- Smallest exponent of a finite number. -/
def leastExponent : Int := -1074

/-- Largest exponent of a finite number. -/
def greatestExponent : Int := 971

/-- Quotient rounded to the nearest integer, ties to even. -/
def divideToEven (numerator denominator : Nat) : Nat :=
  let quotient := numerator / denominator
  let remainder := numerator % denominator
  if 2 * remainder < denominator then quotient
  else if denominator < 2 * remainder then quotient + 1
  else quotient + quotient % 2

/-- Number of bits of a number. -/
def bitLength (n : Nat) : Nat :=
  if n = 0 then 0 else Nat.log2 n + 1

/-- Fraction times a power of two, as numerator and denominator. -/
def scaled (numerator denominator : Nat) (exponent : Int) : Nat × Nat :=
  if 0 ≤ exponent then (numerator, denominator * Nat.pow 2 exponent.toNat)
  else (numerator * Nat.pow 2 (-exponent).toNat, denominator)

/-- Nearest double to a non-negative fraction. -/
def ofFraction (negative : Bool) (numerator denominator : Nat) : Double :=
  -- The bit lengths fix the leading bit up to one place: the whole part has 53 or 54 bits here.
  let guess : Int := (bitLength numerator : Int) - bitLength denominator - 53
  let wholePart (exponent : Int) : Nat :=
    let (n, d) := scaled numerator denominator exponent
    n / d
  let atExponent (exponent : Int) : Nat :=
    let (n, d) := scaled numerator denominator exponent
    divideToEven n d
  let exponent := max leastExponent
    (if wholePart guess < Nat.pow 2 53 then guess else guess + 1)
  let significand := atExponent exponent
  -- Rounding up can carry into a new leading bit.
  let (significand, exponent) :=
    if significand = Nat.pow 2 53 then (Nat.pow 2 52, exponent + 1) else (significand, exponent)
  if significand = 0 then .finite negative 0 0
  else if greatestExponent < exponent then .infinite negative
  else .finite negative significand exponent

/-- Nearest double to `digits * 10 ^ power`. -/
def ofDecimal (negative : Bool) (digits : Nat) (power : Int) : Double :=
  let size : Int := (Nat.toDigits 10 digits).length
  if digits = 0 || size + power < -400 then .finite negative 0 0
  else if 400 < size + power then .infinite negative
  else if 0 ≤ power then ofFraction negative (digits * Nat.pow 10 power.toNat) 1
  else ofFraction negative digits (Nat.pow 10 (-power).toNat)

/-- Nearest double to an integer. -/
def ofInt (n : Int) : Double :=
  if Nat.pow 2 1025 ≤ n.natAbs then .infinite (n < 0) else ofFraction (n < 0) n.natAbs 1

/-- Whether a number is zero. -/
def isZero : Double → Bool
  | finite _ significand _ => significand == 0
  | _ => false

/-- Magnitude of a finite number as a fraction. -/
def fraction (significand : Nat) (exponent : Int) : Nat × Nat :=
  if 0 ≤ exponent then (significand * Nat.pow 2 exponent.toNat, 1)
  else (significand, Nat.pow 2 (-exponent).toNat)

/-- Integer part of a product of finite numbers, rounded first; none for an infinite number. -/
def productFloor : Double → Double → Option Int
  | finite negative significand exponent, finite negative' significand' exponent' =>
    let (numerator, denominator) := fraction (significand * significand') (exponent + exponent')
    match ofFraction (negative != negative') numerator denominator with
    | finite sign significand exponent =>
      let (numerator, denominator) := fraction significand exponent
      let whole : Int := numerator / denominator
      some (if sign then -whole else whole)
    | _ => none
  | _, _ => none

/-- Integer part of a finite number. -/
def truncate? : Double → Option Int
  | finite negative significand exponent =>
    let (numerator, denominator) := fraction significand exponent
    let whole : Int := numerator / denominator
    some (if negative then -whole else whole)
  | _ => none

/-- Distance between two fractions times both denominators. -/
def crossDistance (left right : Nat × Nat) : Nat :=
  let a := left.1 * right.2
  let b := right.1 * left.2
  if a ≤ b then b - a else a - b

/-- Position of the decimal point of a positive fraction, from its first digit that is not zero. -/
def decimalPoint (numerator denominator : Nat) : Int :=
  if denominator ≤ numerator then (Nat.toDigits 10 (numerator / denominator)).length
  else
    let zeros : Int := (Nat.toDigits 10 (denominator / numerator)).length
    if denominator ≤ numerator * Nat.pow 10 (zeros - 1).toNat then 2 - zeros else 1 - zeros

/-- Candidate significands of `count` digits for a fraction whose decimal point is known. -/
def candidates (numerator denominator : Nat) (point : Int) (count : Nat) : List Nat :=
  let power := point - count
  let floor :=
    if 0 ≤ power then numerator / (denominator * Nat.pow 10 power.toNat)
    else numerator * Nat.pow 10 (-power).toNat / denominator
  [floor, floor + 1]

/-- Fraction written by digits and a power of ten. -/
def decimalFraction (digits : Nat) (power : Int) : Nat × Nat :=
  if 0 ≤ power then (digits * Nat.pow 10 power.toNat, 1) else (digits, Nat.pow 10 (-power).toNat)

/-- The candidate with `count` digits that reads back as the number, the closest one first. -/
def digitsOfLength? (significand : Nat) (exponent : Int) (point : Int) (count : Nat) : Option Nat :=
  let (numerator, denominator) := fraction significand exponent
  let power := point - count
  let fits := (candidates numerator denominator point count).filter fun digits =>
    ofDecimal false digits power == finite false significand exponent
  match fits with
  | [low, high] =>
    let lowGap := crossDistance (decimalFraction low power) (numerator, denominator)
    let highGap := crossDistance (decimalFraction high power) (numerator, denominator)
    some (if lowGap < highGap || (lowGap == highGap && low % 2 == 0) then low else high)
  | [only] => some only
  | _ => none

/-- Shortest digits that read back as a positive number, with the position of the decimal point. -/
def shortestDigits (significand : Nat) (exponent : Int) : List Char × Int :=
  let (numerator, denominator) := fraction significand exponent
  let point := decimalPoint numerator denominator
  match (List.range 17).findSome? fun n =>
      (digitsOfLength? significand exponent point (n + 1)).map fun digits => (digits, n + 1) with
  | some (digits, count) =>
    let text := Text.naturalText digits
    let point := point + ((text.length : Int) - count)
    ((text.reverse.dropWhile (· == '0')).reverse, point)
  | none => (['0'], 1)

/-- Digits with a decimal point, or with an exponent when the point is far away. -/
def layout (digits : List Char) (point : Int) : List Char :=
  if -4 < point && point ≤ 16 then
    if point ≤ 0 then
      '0' :: '.' :: List.replicate (-point).toNat '0' ++ digits
    else
      let whole := digits.take point.toNat
      let fractional := digits.drop point.toNat
      whole ++ List.replicate (point.toNat - whole.length) '0' ++
        '.' :: (if fractional.isEmpty then ['0'] else fractional)
  else
    let power := point - 1
    let powerDigits := Text.naturalText power.natAbs
    digits.take 1 ++ (if digits.length ≤ 1 then [] else '.' :: digits.drop 1) ++
      'e' :: (if power < 0 then '-' else '+') ::
        (if powerDigits.length < 2 then '0' :: powerDigits else powerDigits)

/-- Shortest text that reads back as the number. -/
def toText : Double → String
  | finite negative significand exponent =>
    let sign := if negative then "-" else ""
    if significand = 0 then sign ++ "0.0"
    else
      let (digits, point) := shortestDigits significand exponent
      sign ++ String.ofList (layout digits point)
  | infinite negative => if negative then "-inf" else "inf"
  | undefined => "nan"

end Double

end RepoCatalog
