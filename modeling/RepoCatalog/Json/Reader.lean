import RepoCatalog.Association
import RepoCatalog.Json.Value

/-!
# Reading JSON

A reader for the JSON grammar, extended by words for infinite and undefined numbers. When an object
repeats a name, the last value counts, in the place of the first. Fuel bounds the number of nested
calls; the length of the text suffices.
-/

namespace RepoCatalog.Json

/-- Text after its leading JSON blanks. -/
def skipBlanks (text : List Char) : List Char :=
  text.dropWhile fun c => c == ' ' || c == '\n' || c == '\r' || c == '\t'

/-- Value of a hexadecimal digit. -/
def hexValue? (c : Char) : Option Nat :=
  if '0' ≤ c && c ≤ '9' then some (c.toNat - 48)
  else if 'a' ≤ c && c ≤ 'f' then some (c.toNat - 87)
  else if 'A' ≤ c && c ≤ 'F' then some (c.toNat - 55)
  else none

/-- Value of four hexadecimal digits. -/
def hexQuad? (a b c d : Char) : Option Nat := do
  let a ← hexValue? a
  let b ← hexValue? b
  let c ← hexValue? c
  let d ← hexValue? d
  return ((a * 16 + b) * 16 + c) * 16 + d

/-- The character a one-letter escape stands for. -/
def shortEscape? (c : Char) : Option Char :=
  match c with
  | '\x22' => some '\x22'
  | '\\' => some '\\'
  | '/' => some '/'
  | 'b' => some '\x08'
  | 'f' => some '\x0c'
  | 'n' => some '\n'
  | 'r' => some '\r'
  | 't' => some '\t'
  | _ => none

/-- Whether a code unit is the first half of a surrogate pair. -/
def isHighSurrogate (unit : Nat) : Bool :=
  0xD800 ≤ unit && unit < 0xDC00

/-- Whether a code unit is the second half of a surrogate pair. -/
def isLowSurrogate (unit : Nat) : Bool :=
  0xDC00 ≤ unit && unit < 0xE000

/-- The character that a surrogate pair encodes. -/
def joinSurrogates (high low : Nat) : Char :=
  Char.ofNat (0x10000 + (high - 0xD800) * 0x400 + (low - 0xDC00))

/-- The rest of a string after its opening quote, with what follows the closing quote. -/
def readString (read : List Char) : List Char → Option (List Char × List Char)
  | '\x22' :: rest => some (read.reverse, rest)
  | '\\' :: 'u' :: a :: b :: c :: d :: rest =>
    match hexQuad? a b c d with
    | none => none
    | some unit =>
      if isHighSurrogate unit then
        match rest with
        | '\\' :: 'u' :: e :: f :: g :: h :: rest =>
          match hexQuad? e f g h with
          | some low =>
            if isLowSurrogate low then readString (joinSurrogates unit low :: read) rest else none
          | none => none
        | _ => none
      else if isLowSurrogate unit then none
      else readString (Char.ofNat unit :: read) rest
  | '\\' :: escape :: rest =>
    match shortEscape? escape with
    | some c => readString (c :: read) rest
    | none => none
  | c :: rest => if c.toNat < 0x20 || c == '\\' then none else readString (c :: read) rest
  | [] => none

/-- Whether a character is one of the ten digits of numbers. -/
def isNumberDigit (c : Char) : Bool :=
  '0' ≤ c && c ≤ '9'

/-- Leading digits and the text after them. -/
def spanDigits (text : List Char) : List Char × List Char :=
  text.span isNumberDigit

/-- A fraction part, if there is one; none for a point without digits. -/
def readFraction (text : List Char) : Option (List Char × List Char) :=
  match text with
  | '.' :: rest =>
    match spanDigits rest with
    | ([], _) => none
    | found => some found
  | _ => some ([], text)

/-- An exponent part, if there is one; none for a mark without digits. -/
def readExponent (text : List Char) : Option (Option Int × List Char) :=
  match text with
  | mark :: rest =>
    if mark == 'e' || mark == 'E' then
      let (negative, digits) :=
        match rest with
        | '-' :: digits => (true, digits)
        | '+' :: digits => (false, digits)
        | digits => (false, digits)
      match spanDigits digits with
      | ([], _) => none
      | (found, rest) =>
        let size : Int := Text.decimalNumber found
        some (some (if negative then -size else size), rest)
    else some (none, text)
  | [] => some (none, text)

/-- A number without its sign. -/
def readMagnitude (negative : Bool) (text : List Char) : Option (Json × List Char) :=
  match spanDigits text with
  | ([], _) => none
  | ('0' :: _ :: _, _) => none
  | (whole, rest) => do
    let (fractional, rest) ← readFraction rest
    let (power, rest) ← readExponent rest
    if fractional.isEmpty && power.isNone then
      let size : Int := Text.decimalNumber whole
      return (integer (if negative then -size else size), rest)
    else
      let digits := Text.decimalNumber (whole ++ fractional)
      return (float (Double.ofDecimal negative digits (power.getD 0 - fractional.length)), rest)

/-- Text after a word it starts with. -/
def afterWord? (word text : List Char) : Option (List Char) :=
  if word.isPrefixOf text then some (text.drop word.length) else none

/-- A number without its sign, or the word for an infinite one. -/
def readUnsigned (negative : Bool) (text : List Char) : Option (Json × List Char) :=
  match afterWord? "Infinity".toList text with
  | some rest => some (float (.infinite negative), rest)
  | none => readMagnitude negative text

/-- A number or a word for one. -/
def readNumber (text : List Char) : Option (Json × List Char) :=
  match text with
  | '-' :: rest => readUnsigned true rest
  | _ =>
    match afterWord? "NaN".toList text with
    | some rest => some (float .undefined, rest)
    | none => readUnsigned false text

/-- Members with repeated names merged. -/
def mergeMembers (members : List (String × Json)) : List (String × Json) :=
  members.foldl (fun merged member => assign member.1 member.2 merged) []

mutual

/-- A value and the text after it. -/
def readValue : Nat → List Char → Option (Json × List Char)
  | 0, _ => none
  | fuel + 1, text =>
    match skipBlanks text with
    | '\x7b' :: rest =>
      match skipBlanks rest with
      | '\x7d' :: rest => some (object [], rest)
      | rest =>
        (readMembers fuel rest).map fun (members, rest) => (object (mergeMembers members), rest)
    | '[' :: rest =>
      match skipBlanks rest with
      | ']' :: rest => some (array [], rest)
      | rest => (readItems fuel rest).map fun (items, rest) => (array items, rest)
    | '\x22' :: rest =>
      (readString [] rest).map fun (value, rest) => (string (String.ofList value), rest)
    | 't' :: 'r' :: 'u' :: 'e' :: rest => some (boolean true, rest)
    | 'f' :: 'a' :: 'l' :: 's' :: 'e' :: rest => some (boolean false, rest)
    | 'n' :: 'u' :: 'l' :: 'l' :: rest => some (null, rest)
    | rest => readNumber rest

/-- The items of a non-empty array and the text after its bracket. -/
def readItems : Nat → List Char → Option (List Json × List Char)
  | 0, _ => none
  | fuel + 1, text =>
    match readValue fuel text with
    | none => none
    | some (item, rest) =>
      match skipBlanks rest with
      | ',' :: rest => (readItems fuel rest).map fun (items, rest) => (item :: items, rest)
      | ']' :: rest => some ([item], rest)
      | _ => none

/-- The members of a non-empty object and the text after its brace. -/
def readMembers : Nat → List Char → Option (List (String × Json) × List Char)
  | 0, _ => none
  | fuel + 1, text =>
    match skipBlanks text with
    | '\x22' :: rest =>
      match readString [] rest with
      | none => none
      | some (name, rest) =>
        match skipBlanks rest with
        | ':' :: rest =>
          match readValue fuel rest with
          | none => none
          | some (value, rest) =>
            match skipBlanks rest with
            | ',' :: rest =>
              (readMembers fuel rest).map fun (members, rest) =>
                ((String.ofList name, value) :: members, rest)
            | '\x7d' :: rest => some ([(String.ofList name, value)], rest)
            | _ => none
        | _ => none
    | _ => none

end

/-- The value a whole text writes. -/
def read? (text : List Char) : Option Json :=
  match readValue (text.length + 1) text with
  | some (value, rest) => if (skipBlanks rest).isEmpty then some value else none
  | none => none

end RepoCatalog.Json
