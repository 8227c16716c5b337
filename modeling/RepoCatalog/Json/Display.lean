import RepoCatalog.Failure
import RepoCatalog.Json.Value

/-!
# Showing values in messages

Messages show a text as it is and every other value in a literal notation.
-/

namespace RepoCatalog.Json

mutual

/-- Literal notation of a value. -/
def literal : Json → String
  | null => "None"
  | boolean value => if value then "True" else "False"
  | integer value => toString value
  | float value => value.toText
  | string value => Text.quoted value
  | array items => "[" ++ String.intercalate ", " (literals items) ++ "]"
  | object members => "\x7b" ++ String.intercalate ", " (memberLiterals members) ++ "\x7d"

/-- Literal notations of items. -/
def literals : List Json → List String
  | [] => []
  | item :: items => literal item :: literals items

/-- Literal notations of members. -/
def memberLiterals : List (String × Json) → List String
  | [] => []
  | (name, value) :: members =>
    (Text.quoted name ++ ": " ++ literal value) :: memberLiterals members

end

/-- How a message shows a value. -/
def shown : Json → String
  | string value => value
  | value => literal value

mutual

/-- Whether a value contains a number with more digits than can be written. -/
def hasLongNumber : Json → Bool
  | integer value => Nat.pow 10 Failure.digitLimit ≤ value.natAbs
  | array items => anyLongNumber items
  | object members => anyLongMember members
  | _ => false

/-- Whether some item contains a number with too many digits. -/
def anyLongNumber : List Json → Bool
  | [] => false
  | item :: items => hasLongNumber item || anyLongNumber items

/-- Whether some member contains a number with too many digits. -/
def anyLongMember : List (String × Json) → Bool
  | [] => false
  | (_, value) :: members => hasLongNumber value || anyLongMember members

end

/-- The text that a value is turned into; its numbers have to be short enough to be written. -/
def toText (value : Json) : Except Failure String :=
  if value.hasLongNumber then .error .numberTooLong else .ok value.shown

end RepoCatalog.Json
