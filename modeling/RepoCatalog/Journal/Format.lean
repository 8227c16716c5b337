import RepoCatalog.Json.Display
import RepoCatalog.Number.Notation

/-!
# Formats

Texts with places for values: a place is a percent sign, optionally a name in parentheses, flags, a
width, a precision, a size letter without meaning, and a letter saying how the value is shown. A
star in place of a width or a precision takes it from the values.
-/

namespace RepoCatalog.Format

/-- A width or a precision: a number, or the next value. -/
inductive Extent
  | fixed (size : Nat)
  | taken
  deriving DecidableEq, Repr

/-- What the flags of a place ask for. -/
structure Flags where
  /-- Whether short values are padded on the right. -/
  alignLeft : Bool
  /-- Whether short numbers are padded with zeros. -/
  zeros : Bool
  /-- Whether numbers that are not negative get a plus sign. -/
  plus : Bool
  /-- Whether numbers that are not negative get a space for a sign. -/
  space : Bool
  /-- Whether numbers show their base, or a point and zeros that say nothing. -/
  full : Bool
  deriving DecidableEq, Repr

/-- A place for a value. -/
structure Slot where
  /-- Name of the value; none takes the next one. -/
  name : Option String
  /-- Its flags. -/
  flags : Flags
  /-- Least number of characters, if one is asked for. -/
  width : Option Extent
  /-- Most characters of a text, or digits of a number, if a number of them is asked for. -/
  precision : Option Extent
  /-- How the value is shown. -/
  letter : Char
  deriving DecidableEq, Repr

/-- A value that can be shown: data, or the sequence of values a record was given. -/
inductive Value
  | data (value : Json)
  | sequence (values : List Json)
  deriving Repr

/-- Largest width or precision that can be met. -/
def extentLimit : Nat := 2147483644

/-- Name up to the parenthesis that closes it, and what follows; parentheses inside are balanced. -/
def spanName (name : List Char) : Nat → List Char → Option (List Char × List Char)
  | _, [] => none
  | depth, c :: rest =>
    if c == ')' then
      match depth with
      | 0 => some (name.reverse, rest)
      | depth + 1 => spanName (c :: name) depth rest
    else spanName (c :: name) (if c == '(' then depth + 1 else depth) rest

/-- Name of a place, if one is given; none for an open parenthesis that is not closed. -/
def readName (text : List Char) : Option (Option String × List Char) :=
  match text with
  | '(' :: rest => (spanName [] 0 rest).map fun (name, rest) => (some (String.ofList name), rest)
  | _ => some (none, text)

/-- Flags that characters stand for. -/
def flagsOf (characters : List Char) : Flags :=
  ⟨characters.contains '-', characters.contains '0', characters.contains '+',
    characters.contains ' ', characters.contains '#'⟩

/-- A width or precision, if one is given. -/
def readExtent (text : List Char) : Option Extent × List Char :=
  match text with
  | '*' :: rest => (some .taken, rest)
  | _ =>
    match text.span Char.isDigit with
    | ([], rest) => (none, rest)
    | (digits, rest) => (some (.fixed (Text.decimalNumber digits)), rest)

/-- Precision of a place, if one is given; a lone point asks for zero. -/
def readPrecision (text : List Char) : Option Extent × List Char :=
  match text with
  | '.' :: rest =>
    let (extent, rest) := readExtent rest
    (some (extent.getD (.fixed 0)), rest)
  | _ => (none, text)

/-- Text after a size letter, if there is one. -/
def skipSize (text : List Char) : List Char :=
  match text with
  | 'h' :: rest => rest
  | 'l' :: rest => rest
  | 'L' :: rest => rest
  | _ => text

/-- The place after a percent sign and the text behind it; none if the text ends too early. -/
def readSlot (text : List Char) : Option (Slot × List Char) :=
  match readName text with
  | none => none
  | some (name, rest) =>
    let (flags, rest) := rest.span (['#', '0', '-', ' ', '+'].contains ·)
    let (width, rest) := readExtent rest
    let (precision, rest) := readPrecision rest
    match skipSize rest with
    | [] => none
    | letter :: rest => some (⟨name, flagsOf flags, width, precision, letter⟩, rest)

/-- A place whose width and precision are settled. -/
structure Place where
  /-- Its flags. -/
  flags : Flags
  /-- Least number of characters. -/
  width : Nat
  /-- Most characters of a text, or digits of a number, if a number of them is asked for. -/
  precision : Option Nat

namespace Place

/-- Text padded with spaces to the width of a place. -/
def pad (place : Place) (text : List Char) : List Char :=
  let gap := List.replicate (place.width - text.length) ' '
  if place.flags.alignLeft then text ++ gap else gap ++ text

/-- Sign of a number. -/
def signOf (place : Place) (negative : Bool) : List Char :=
  if negative then ['-']
  else if place.flags.plus then ['+']
  else if place.flags.space then [' ']
  else []

/-- A number padded to the width of a place; zeros stand between its sign and its digits. -/
def padNumber (place : Place) (front digits : List Char) : List Char :=
  if place.flags.zeros && !place.flags.alignLeft then
    front ++ List.replicate (place.width - front.length - digits.length) '0' ++ digits
  else place.pad (front ++ digits)

/-- A text cut to the precision of a place. -/
def cut (place : Place) (text : String) : List Char :=
  match place.precision with
  | some most => text.toList.take most
  | none => text.toList

/-- A whole number in a base, with what shows the base. -/
def showWhole (place : Place) (base : Nat) (mark : List Char) (value : Int) : List Char :=
  let digits := Notation.padZeros (place.precision.getD 0) (Nat.toDigits base value.natAbs)
  place.padNumber (place.signOf (value < 0) ++ if place.flags.full then mark else []) digits

/-- A number in a style. -/
def showDouble (place : Place) (style : Notation.Style) (value : Double) : List Char :=
  let negative := match value with
    | .finite negative _ _ => negative
    | .infinite negative => negative
    | .undefined => false
  place.padNumber (place.signOf negative)
    (Notation.magnitude style place.flags.full (place.precision.getD 6) value)

end Place

/-- Whole number a value stands for: fractions are cut off. -/
def wholeNumber? : Json → Option Int
  | .integer value => some value
  | .boolean value => some (if value then 1 else 0)
  | .float value => value.truncate?
  | _ => none

/-- Whole number that a value is. -/
def exactNumber? : Json → Option Int
  | .integer value => some value
  | .boolean value => some (if value then 1 else 0)
  | _ => none

/-- Number a value stands for; none for whole numbers beyond double precision. -/
def doubleOf? : Json → Option Double
  | .integer value =>
    match Double.ofInt value with
    | .infinite _ => none
    | found => some found
  | .boolean value => some (.ofInt (if value then 1 else 0))
  | .float value => some value
  | _ => none

/-- Character a value stands for: a text of one character, or its number. -/
def character? : Json → Option Char
  | .string text =>
    match text.toList with
    | [c] => some c
    | _ => none
  | value =>
    match exactNumber? value with
    | some (.ofNat code) => if code.isValidChar then some (Char.ofNat code) else none
    | _ => none

/-- Text with ASCII letters in upper case. -/
def upperText (text : List Char) : List Char :=
  text.map Char.toUpper

/-- Whether a whole number can be written in base ten. -/
def isWritable (value : Int) : Bool :=
  value.natAbs < Nat.pow 10 4300

namespace Value

/-- Literal notation of a value. -/
def literal : Value → String
  | data value => value.literal
  | sequence [value] => "(" ++ value.literal ++ ",)"
  | sequence values => "(" ++ String.intercalate ", " (Json.literals values) ++ ")"

/-- How a message shows a value. -/
def shown : Value → String
  | data value => value.shown
  | sequence values => (sequence values).literal

/-- The data of a value. -/
def data? : Value → Option Json
  | data value => some value
  | sequence _ => none

end Value

/-- A value as a place shows it; none if it cannot. -/
def showValue (place : Place) (letter : Char) (value : Value) : Option (List Char) :=
  let whole (base : Nat) (mark : List Char) (number : Option Int) : Option (List Char) :=
    number.map (place.showWhole base mark)
  let double (style : Notation.Style) : Option (List Char) :=
    (value.data?.bind doubleOf?).map (place.showDouble style)
  let text (shown : String) : Option (List Char) :=
    match value with
    | .data (.integer number) =>
      if isWritable number then some (place.pad (place.cut shown)) else none
    | _ => some (place.pad (place.cut shown))
  match letter with
  | 's' => text value.shown
  | 'r' => text value.literal
  | 'a' => text (Text.escapeNonAscii value.literal)
  | 'd' | 'i' | 'u' => whole 10 [] ((value.data?.bind wholeNumber?).filter isWritable)
  | 'o' => whole 8 ['0', 'o'] (value.data?.bind exactNumber?)
  | 'x' => whole 16 ['0', 'x'] (value.data?.bind exactNumber?)
  | 'X' => (whole 16 ['0', 'x'] (value.data?.bind exactNumber?)).map upperText
  | 'f' => double .plain
  | 'F' => (double .plain).map upperText
  | 'e' => double .scientific
  | 'E' => (double .scientific).map upperText
  | 'g' => double .general
  | 'G' => (double .general).map upperText
  | 'c' => (value.data?.bind character?).map fun c => place.pad [c]
  | _ => none

/-- Values for the places of a format. -/
structure Supply where
  /-- Values by name, if places may name them. -/
  named : Option (List (String × Value))
  /-- Values that are taken in order. -/
  ordered : List Value

namespace Supply

/-- The next value and the supply after it. -/
def next? (supply : Supply) : Option (Value × Supply) :=
  match supply.ordered with
  | value :: rest => some (value, { supply with ordered := rest })
  | [] => none

/-- The supply for a place: the value of its name comes first. -/
def forName (supply : Supply) : Option String → Option Supply
  | none => some supply
  | some name =>
    (supply.named.bind (·.lookup name)).map fun value => { supply with ordered := [value] }

/-- Size that an extent stands for, with the supply after it. -/
def settle (supply : Supply) : Option Extent → Option (Option Int × Supply)
  | none => some (none, supply)
  | some (.fixed size) => some (some size, supply)
  | some .taken =>
    match supply.next? with
    | none => none
    | some (value, supply) =>
      ((value.data?.bind exactNumber?).map fun size => (some size, supply))

/-- Whether nothing is left that should have been used. -/
def isUsedUp (supply : Supply) : Bool :=
  supply.named.isSome || supply.ordered.isEmpty

end Supply

/-- The next value as a place shows it, and the supply after it. -/
def fillSlot (slot : Slot) (supply : Supply) : Option (List Char × Supply) := do
  let supply ← supply.forName slot.name
  let (width, supply) ← supply.settle slot.width
  let (precision, supply) ← supply.settle slot.precision
  let (value, supply) ← supply.next?
  let width := width.getD 0
  if extentLimit < width.natAbs || extentLimit < (precision.getD 0).natAbs then none
  else
    let flags := { slot.flags with alignLeft := slot.flags.alignLeft || width < 0 }
    let place : Place := ⟨flags, width.natAbs, precision.map Int.toNat⟩
    return (← showValue place slot.letter value, supply)

/-- Fills the places of a format; fuel bounds their number. -/
def fill : Nat → Supply → List Char → Option (List Char)
  | 0, _, _ => none
  | _ + 1, supply, [] => if supply.isUsedUp then some [] else none
  | fuel + 1, supply, '%' :: '%' :: rest => (fill fuel supply rest).map ('%' :: ·)
  | fuel + 1, supply, '%' :: rest =>
    match readSlot rest with
    | none => none
    | some (slot, rest) =>
      match fillSlot slot supply with
      | none => none
      | some (shown, supply) => (fill fuel supply rest).map (shown ++ ·)
  | fuel + 1, supply, c :: rest => (fill fuel supply rest).map (c :: ·)

/-- A format with its places filled. -/
def render (format : String) (supply : Supply) : Option String :=
  (fill (format.length + 1) supply format.toList).map String.ofList

/-- Supply of the values that a record was given: one object names its members. -/
def supplyOf : List Json → Supply
  | [.object (member :: members)] =>
    ⟨some ((member :: members).map fun (name, value) => (name, .data value)),
      [.data (.object (member :: members))]⟩
  | values => ⟨none, values.map .data⟩

/-- A message with its values filled in; without values it is taken as it is. -/
def fillMessage (message : String) (values : List Json) : Option String :=
  if values.isEmpty then some message else render message (supplyOf values)

/-- Letters of places, in either case. -/
def placeLetters : List Char :=
  "diouxefgcrsaDIOUXEFGCRSA%".toList
    -- These letters turn into `i` or `s` when case is ignored.
    ++ ['\u0130', '\u0131', '\u017f']

/-- Text after a width or precision, if one is given. -/
def skipExtent (text : List Char) : List Char :=
  match text with
  | '*' :: rest => rest
  | _ => text.dropWhile Text.isDecimal

/-- Text after a precision; none for a point that none follows. -/
def skipPrecision (text : List Char) : Option (List Char) :=
  match text with
  | '.' :: rest =>
    let after := skipExtent rest
    if after.length < rest.length then some after else none
  | _ => some text

/-- Whether a text starts with a place that names its value by word characters. -/
def startsNamedSlot (text : List Char) : Bool :=
  match text with
  | '%' :: '(' :: rest =>
    match rest.span Text.isWordChar with
    | (_ :: _, ')' :: rest) =>
      let rest := rest.dropWhile (['#', '0', '+', ' ', '-'].contains ·)
      match skipPrecision (skipExtent rest) with
      | some (letter :: _) => placeLetters.contains letter
      | _ => false
    | _ => false
  | _ => false

/-- Whether a text contains a place that names its value by word characters. -/
def hasNamedSlot : List Char → Bool
  | [] => false
  | c :: rest => startsNamedSlot (c :: rest) || hasNamedSlot rest

end RepoCatalog.Format
