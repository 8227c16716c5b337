import RepoCatalog.Number.Double

/-!
# JSON values

Objects keep their members in order; whole numbers are exact.
-/

namespace RepoCatalog

/-- A JSON value. -/
inductive Json
  | null
  | boolean (value : Bool)
  | integer (value : Int)
  | float (value : Double)
  | string (value : String)
  | array (items : List Json)
  | object (members : List (String × Json))
  deriving Inhabited, Repr

namespace Json

/-- The value of a member. -/
def field? (name : String) : Json → Option Json
  | object members => members.lookup name
  | _ => none

/-- Whether a value counts as true: anything but null, false, zero and the empty values. -/
def isTruthy : Json → Bool
  | null => false
  | boolean value => value
  | integer value => value != 0
  | float value => !value.isZero
  | string value => value != ""
  | array items => !items.isEmpty
  | object members => !members.isEmpty

/-- A value, or the empty text in place of one that does not count as true. -/
def orEmpty (value : Json) : Json :=
  if value.isTruthy then value else string ""

/-- The string a text value holds. -/
def text? : Json → Option String
  | string value => some value
  | _ => none

/-- Whether a value is a text. -/
def isText (value : Json) : Bool :=
  value.text?.isSome

/-- Whether a value is an array or an object. -/
def isContainer : Json → Bool
  | array _ => true
  | object _ => true
  | _ => false

end Json

end RepoCatalog
