import RepoCatalog.Json.Value

/-!
# The JSON grammar

The grammar of RFC 8259, with what its texts mean. Strings mean characters, so half of a surrogate
pair has no place in them, and the names of an object differ, so its members have one meaning.
-/

namespace RepoCatalog.Json.Grammar

/-! ## Blanks, digits and numbers -/

/-- Whether a character may stand between the parts of a text. -/
def IsBlank (c : Char) : Prop :=
  c = ' ' ∨ c = '\t' ∨ c = '\n' ∨ c = '\r'

/-- Blanks and nothing else. -/
def Blanks (text : List Char) : Prop :=
  ∀ c ∈ text, IsBlank c

/-- Whether a character is a digit. -/
def IsDigit (c : Char) : Prop :=
  '0' ≤ c ∧ c ≤ '9'

instance (c : Char) : Decidable (IsBlank c) :=
  inferInstanceAs (Decidable (_ ∨ _))

instance (c : Char) : Decidable (IsDigit c) :=
  inferInstanceAs (Decidable (_ ∧ _))

/-- One digit or more. -/
def Digits (text : List Char) : Prop :=
  text ≠ [] ∧ ∀ c ∈ text, IsDigit c

/-- Number that digits write. -/
def numberOf (digits : List Char) : Nat :=
  digits.foldl (fun number c => 10 * number + (c.toNat - '0'.toNat)) 0

/-- Digits before the point: zero has no others after it. -/
def Whole (text : List Char) : Prop :=
  Digits text ∧ (text.head? = some '0' → text = ['0'])

/-- A sign that may be left out. -/
inductive Sign : List Char → Bool → Prop
  | none : Sign [] false
  | minus : Sign ['-'] true

/-- A point and digits, which are kept. -/
inductive Fraction : List Char → List Char → Prop
  | point {digits : List Char} (written : Digits digits) : Fraction ('.' :: digits) digits

/-- A mark and a power of ten. -/
inductive Exponent : List Char → Int → Prop
  | plain {mark : Char} {digits : List Char} (marks : mark = 'e' ∨ mark = 'E')
      (written : Digits digits) : Exponent (mark :: digits) (numberOf digits)
  | plus {mark : Char} {digits : List Char} (marks : mark = 'e' ∨ mark = 'E')
      (written : Digits digits) : Exponent (mark :: '+' :: digits) (numberOf digits)
  | minus {mark : Char} {digits : List Char} (marks : mark = 'e' ∨ mark = 'E')
      (written : Digits digits) : Exponent (mark :: '-' :: digits) (-(numberOf digits : Int))

/-- A number: whole without a fraction and an exponent, else the nearest double. -/
inductive Numeral : List Char → Json → Prop
  | whole {sign digits : List Char} {negative : Bool} (signed : Sign sign negative)
      (written : Whole digits) :
      Numeral (sign ++ digits)
        (integer (if negative then -(numberOf digits : Int) else numberOf digits))
  | fraction {sign digits point decimals : List Char} {negative : Bool}
      (signed : Sign sign negative) (written : Whole digits) (pointed : Fraction point decimals) :
      Numeral (sign ++ digits ++ point)
        (float (.ofDecimal negative (numberOf (digits ++ decimals)) (-decimals.length)))
  | power {sign digits mark : List Char} {negative : Bool} {power : Int}
      (signed : Sign sign negative) (written : Whole digits) (raised : Exponent mark power) :
      Numeral (sign ++ digits ++ mark) (float (.ofDecimal negative (numberOf digits) power))
  | scientific {sign digits point decimals mark : List Char} {negative : Bool} {power : Int}
      (signed : Sign sign negative) (written : Whole digits) (pointed : Fraction point decimals)
      (raised : Exponent mark power) :
      Numeral (sign ++ digits ++ point ++ mark)
        (float (.ofDecimal negative (numberOf (digits ++ decimals)) (power - decimals.length)))

/-! ## Strings -/

/-- The value of a hexadecimal digit. -/
inductive HexDigit : Char → Nat → Prop
  | decimal {c : Char} (least : '0' ≤ c) (greatest : c ≤ '9') : HexDigit c (c.toNat - '0'.toNat)
  | lower {c : Char} (least : 'a' ≤ c) (greatest : c ≤ 'f') :
      HexDigit c (c.toNat - 'a'.toNat + 10)
  | upper {c : Char} (least : 'A' ≤ c) (greatest : c ≤ 'F') :
      HexDigit c (c.toNat - 'A'.toNat + 10)

/-- The code unit that four hexadecimal digits write. -/
inductive CodeUnit : List Char → Nat → Prop
  | digits {a b c d : Char} {first second third fourth : Nat} (a_digit : HexDigit a first)
      (b_digit : HexDigit b second) (c_digit : HexDigit c third) (d_digit : HexDigit d fourth) :
      CodeUnit [a, b, c, d] (((first * 16 + second) * 16 + third) * 16 + fourth)

/-- Letters of the short escapes, each with the character it stands for. -/
def shortEscapes : List (Char × Char) :=
  [('\x22', '\x22'), ('\\', '\\'), ('/', '/'), ('b', '\x08'), ('f', '\x0c'), ('n', '\n'),
    ('r', '\r'), ('t', '\t')]

/-- What stands between the quotes of a string, and the characters it means. -/
inductive Characters : List Char → List Char → Prop
  | none : Characters [] []
  | plain {c : Char} {text meant : List Char} (printed : 0x20 ≤ c.toNat) (unquoted : c ≠ '\x22')
      (unescaped : c ≠ '\\') (rest : Characters text meant) : Characters (c :: text) (c :: meant)
  | short {letter c : Char} {text meant : List Char} (stands : (letter, c) ∈ shortEscapes)
      (rest : Characters text meant) : Characters ('\\' :: letter :: text) (c :: meant)
  | code {digits text meant : List Char} {unit : Nat} (written : CodeUnit digits unit)
      (scalar : unit < 0xD800 ∨ 0xE000 ≤ unit) (rest : Characters text meant) :
      Characters ('\\' :: 'u' :: digits ++ text) (Char.ofNat unit :: meant)
  | pair {highs lows text meant : List Char} {high low : Nat} (first : CodeUnit highs high)
      (isHigh : 0xD800 ≤ high ∧ high < 0xDC00) (second : CodeUnit lows low)
      (isLow : 0xDC00 ≤ low ∧ low < 0xE000) (rest : Characters text meant) :
      Characters ('\\' :: 'u' :: highs ++ '\\' :: 'u' :: lows ++ text)
        (Char.ofNat (0x10000 + (high - 0xD800) * 0x400 + (low - 0xDC00)) :: meant)

/-! ## Values -/

mutual

/-- A value, without blanks around it. -/
inductive Value : List Char → Json → Prop
  | null : Value ['n', 'u', 'l', 'l'] null
  | yes : Value ['t', 'r', 'u', 'e'] (boolean true)
  | no : Value ['f', 'a', 'l', 's', 'e'] (boolean false)
  | number {text : List Char} {value : Json} (written : Numeral text value) : Value text value
  | string {text meant : List Char} (written : Characters text meant) :
      Value ('\x22' :: text ++ ['\x22']) (string (String.ofList meant))
  | emptyArray {blanks : List Char} (inside : Blanks blanks) :
      Value ('[' :: blanks ++ [']']) (array [])
  | array {text : List Char} {items : List Json} (written : Items text items) :
      Value ('[' :: text ++ [']']) (array items)
  | emptyObject {blanks : List Char} (inside : Blanks blanks) :
      Value ('\x7b' :: blanks ++ ['\x7d']) (object [])
  | object {text : List Char} {members : List (String × Json)} (written : Members text members)
      (distinct : (members.map Prod.fst).Nodup) :
      Value ('\x7b' :: text ++ ['\x7d']) (object members)

/-- Values with commas between them. -/
inductive Items : List Char → List Json → Prop
  | last {before text after : List Char} {item : Json} (blanksBefore : Blanks before)
      (written : Value text item) (blanksAfter : Blanks after) :
      Items (before ++ text ++ after) [item]
  | next {before text after rest : List Char} {item : Json} {items : List Json}
      (blanksBefore : Blanks before) (written : Value text item) (blanksAfter : Blanks after)
      (others : Items rest items) :
      Items (before ++ text ++ after ++ ',' :: rest) (item :: items)

/-- Named values with commas between them. -/
inductive Members : List Char → List (String × Json) → Prop
  | last {before name meant between gap text after : List Char} {value : Json}
      (blanksBefore : Blanks before) (named : Characters name meant)
      (blanksBetween : Blanks between) (blanksGap : Blanks gap) (written : Value text value)
      (blanksAfter : Blanks after) :
      Members (before ++ '\x22' :: name ++ '\x22' :: between ++ ':' :: gap ++ text ++ after)
        [(String.ofList meant, value)]
  | next {before name meant between gap text after rest : List Char} {value : Json}
      {members : List (String × Json)} (blanksBefore : Blanks before)
      (named : Characters name meant) (blanksBetween : Blanks between) (blanksGap : Blanks gap)
      (written : Value text value) (blanksAfter : Blanks after) (others : Members rest members) :
      Members (before ++ '\x22' :: name ++ '\x22' :: between ++ ':' :: gap ++ text ++ after
        ++ ',' :: rest) ((String.ofList meant, value) :: members)

end

/-- A whole text: a value with blanks around it. -/
inductive Document : List Char → Json → Prop
  | value {before text after : List Char} {value : Json} (blanksBefore : Blanks before)
      (written : Value text value) (blanksAfter : Blanks after) :
      Document (before ++ text ++ after) value

end RepoCatalog.Json.Grammar
