import RepoCatalog.Json.Value

/-!
# Order of JSON values

Numbers are ordered by size, truth values counting as zero and one; texts by code points; arrays by
the items in which they differ first, else by length. Other values have no order.
-/

namespace RepoCatalog.Json

/-- Size of a number: a fraction, whose denominator is zero for an infinite one, or undefined. -/
inductive Size
  | fraction (numerator : Int) (denominator : Nat)
  | undefined
  deriving DecidableEq, Repr

namespace Size

/-- Whether one size is less than another; an undefined one never is. -/
def isLess : Size → Size → Bool
  | fraction a 0, fraction b 0 => a < b
  | fraction a b, fraction c d => a * d < c * b
  | _, _ => false

/-- Whether two sizes are the same; undefined ones never are. -/
def isSame : Size → Size → Bool
  | undefined, _ => false
  | _, undefined => false
  | first, second => !first.isLess second && !second.isLess first

/-- Size of a double. -/
def ofDouble : Double → Size
  | .finite negative significand exponent =>
    let (numerator, denominator) := Double.fraction significand exponent
    fraction (if negative then -(numerator : Int) else numerator) denominator
  | .infinite negative => fraction (if negative then -1 else 1) 0
  | .undefined => undefined

end Size

/-- Size of a value that counts as a number. -/
def size? : Json → Option Size
  | boolean value => some (.fraction (if value then 1 else 0) 1)
  | integer value => some (.fraction value 1)
  | float value => some (.ofDouble value)
  | _ => none

mutual

/-- Whether two values are equal; the order of members does not matter. -/
def equals : Json → Json → Bool
  | null, null => true
  | string first, string second => first == second
  | array items, array others => equalsItems items others
  | object members, object others =>
    members.length == others.length && equalsMembers members others
  | first, second =>
    match first.size?, second.size? with
    | some first, some second => first.isSame second
    | _, _ => false

/-- Whether two lists have equal items. -/
def equalsItems : List Json → List Json → Bool
  | [], [] => true
  | item :: items, other :: others => equals item other && equalsItems items others
  | _, _ => false

/-- Whether members occur among others with equal values. -/
def equalsMembers : List (String × Json) → List (String × Json) → Bool
  | [], _ => true
  | (name, value) :: members, others =>
    (match others.lookup name with
      | some other => equals value other
      | none => false) && equalsMembers members others

end

mutual

/-- Whether one value comes before another; none if they have no order. -/
def less? : Json → Json → Option Bool
  | string first, string second => some (first < second)
  | array items, array others => lessItems? items others
  | first, second =>
    match first.size?, second.size? with
    | some first, some second => some (first.isLess second)
    | _, _ => none

/-- Whether one list comes before another; none if the items that differ first have no order. -/
def lessItems? : List Json → List Json → Option Bool
  | _, [] => some false
  | [], _ :: _ => some true
  | item :: items, other :: others =>
    if equals item other then lessItems? items others else less? item other

end

end RepoCatalog.Json
