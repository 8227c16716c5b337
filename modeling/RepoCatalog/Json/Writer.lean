import RepoCatalog.Json.Value
import RepoCatalog.Text.Quoted

/-!
# Writing JSON

One line for each item and member, indented by two spaces for each level. Only what the grammar
forbids in a string is escaped. Numbers that the grammar has no form for are written as words.
-/

namespace RepoCatalog.Json

/-- One character inside a string. -/
def escapedChar (c : Char) : List Char :=
  if c == '\x22' then ['\\', '\x22']
  else if c == '\\' then ['\\', '\\']
  else if c == '\n' then ['\\', 'n']
  else if c == '\r' then ['\\', 'r']
  else if c == '\t' then ['\\', 't']
  else if c == '\x08' then ['\\', 'b']
  else if c == '\x0c' then ['\\', 'f']
  else if c.toNat < 0x20 then '\\' :: 'u' :: Text.hexadecimal 4 c.toNat
  else [c]

/-- A string. -/
def writeString (text : String) : List Char :=
  '\x22' :: text.toList.flatMap escapedChar ++ ['\x22']

/-- An integer. -/
def writeInteger (n : Int) : List Char :=
  match n with
  | .ofNat n => Text.naturalText n
  | .negSucc n => '-' :: Text.naturalText (n + 1)

/-- A double-precision number. -/
def writeDouble (value : Double) : List Char :=
  match value with
  | .finite .. => value.toText.toList
  | .infinite negative => (if negative then "-Infinity" else "Infinity").toList
  | .undefined => "NaN".toList

/-- A line break and the indentation of a level. -/
def newLine (level : Nat) : List Char :=
  '\n' :: List.replicate (2 * level) ' '

mutual

/-- A value at a level of nesting. -/
def write (level : Nat) : Json → List Char
  | null => "null".toList
  | boolean value => (if value then "true" else "false").toList
  | integer value => writeInteger value
  | float value => writeDouble value
  | string value => writeString value
  | array [] => ['[', ']']
  | array (item :: items) =>
    '[' :: newLine (level + 1) ++ write (level + 1) item ++ writeItems (level + 1) items
      ++ newLine level ++ [']']
  | object [] => ['\x7b', '\x7d']
  | object ((name, value) :: members) =>
    '\x7b' :: newLine (level + 1) ++ writeString name ++ [':', ' '] ++ write (level + 1) value
      ++ writeMembers (level + 1) members ++ newLine level ++ ['\x7d']

/-- The items after the first one, each after a comma. -/
def writeItems (level : Nat) : List Json → List Char
  | [] => []
  | item :: items => ',' :: newLine level ++ write level item ++ writeItems level items

/-- The members after the first one, each after a comma. -/
def writeMembers (level : Nat) : List (String × Json) → List Char
  | [] => []
  | (name, value) :: members =>
    ',' :: newLine level ++ writeString name ++ [':', ' '] ++ write level value
      ++ writeMembers level members

end

/-- Text of a value. -/
def pretty (value : Json) : String :=
  String.ofList (write 0 value)

end RepoCatalog.Json
