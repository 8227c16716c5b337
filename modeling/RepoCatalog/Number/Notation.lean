import RepoCatalog.Number.Double
import RepoCatalog.Text.Blank

/-!
# Number notations

A number written with a given number of decimal places, in plain or scientific notation, or with a
given number of significant digits in whichever of the two suits it. Rounding is exact, ties to
even.
-/

namespace RepoCatalog.Notation

/-- Text with zeros in front up to a length. -/
def padZeros (width : Nat) (digits : List Char) : List Char :=
  List.replicate (width - digits.length) '0' ++ digits

/-- Fraction divided by a power of ten, rounded to the nearest integer. -/
def roundAt (numerator denominator : Nat) (power : Int) : Nat :=
  if 0 ≤ power then Double.divideToEven numerator (denominator * Nat.pow 10 power.toNat)
  else Double.divideToEven (numerator * Nat.pow 10 (-power).toNat) denominator

/-- More digits than the longest double has: behind as many, before or behind the point, only zeros
follow. -/
def digitLimit : Nat := 1100

/-- Digits of a fraction rounded to `count` digits, and the power of ten of the first one. -/
def significant (numerator denominator count : Nat) : List Char × Int :=
  if numerator = 0 then (List.replicate count '0', 0)
  else
    let exact := min count digitLimit
    let zeros := List.replicate (count - exact) '0'
    let point := Double.decimalPoint numerator denominator
    let rounded := roundAt numerator denominator (point - exact)
    if rounded = Nat.pow 10 exact then
      (Text.naturalText (Nat.pow 10 (exact - 1)) ++ zeros, point)
    else (padZeros exact (Text.naturalText rounded) ++ zeros, point - 1)

/-- Digits with a point before the last `places` of them; `keepPoint` writes it even before none. -/
def placePoint (keepPoint : Bool) (places : Nat) (digits : List Char) : List Char :=
  let whole := digits.length - places
  digits.take whole
    ++ if places = 0 && !keepPoint then [] else '.' :: digits.drop whole

/-- Digits after a point without the zeros at their end. -/
def dropZeros (digits : List Char) : List Char :=
  Text.dropEndWhile (· == '0') digits

/-- An exponent with its sign and at least two digits. -/
def exponentText (power : Int) : List Char :=
  'e' :: (if power < 0 then '-' else '+') :: padZeros 2 (Text.naturalText power.natAbs)

/-- A fraction with `places` decimal places. -/
def plain (keepPoint : Bool) (places numerator denominator : Nat) : List Char :=
  let exact := min places digitLimit
  let digits := padZeros (exact + 1) (Text.naturalText (roundAt numerator denominator (-exact)))
  placePoint keepPoint places (digits ++ List.replicate (places - exact) '0')

/-- A fraction in scientific notation with `places` decimal places. -/
def scientific (keepPoint : Bool) (places numerator denominator : Nat) : List Char :=
  let (digits, power) := significant numerator denominator (places + 1)
  placePoint keepPoint places digits ++ exponentText power

/-- A fraction with `count` significant digits; zeros at their end are written only on demand. -/
def general (keepZeros : Bool) (count numerator denominator : Nat) : List Char :=
  let count := max 1 count
  let (digits, power) := significant numerator denominator count
  if power < -4 || (count : Int) ≤ power then
    let digits := digits.take 1 ++ if keepZeros then digits.drop 1 else dropZeros (digits.drop 1)
    placePoint keepZeros (digits.length - 1) digits ++ exponentText power
  else
    let places := count - 1 - power
    let digits := padZeros (places.toNat + 1) digits
    let whole := digits.take (digits.length - places.toNat)
    let fractional := digits.drop (digits.length - places.toNat)
    let fractional := if keepZeros then fractional else dropZeros fractional
    placePoint keepZeros fractional.length (whole ++ fractional)

/-- How many digits a number is written with, and where. -/
inductive Style
  | plain
  | scientific
  | general
  deriving DecidableEq, Repr

/-- Magnitude of a number in a style; `full` keeps points and zeros that say nothing. -/
def magnitude (style : Style) (full : Bool) (precision : Nat) : Double → List Char
  | .finite _ significand exponent =>
    let (numerator, denominator) := Double.fraction significand exponent
    match style with
    | .plain => Notation.plain full precision numerator denominator
    | .scientific => Notation.scientific full precision numerator denominator
    | .general => Notation.general full precision numerator denominator
  | .infinite _ => ['i', 'n', 'f']
  | .undefined => ['n', 'a', 'n']

end RepoCatalog.Notation
