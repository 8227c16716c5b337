import RepoCatalog.Text.Digit

/-!
# Clock

The moment at which records are written, and how it is spelled out: percent letters with flags and a
width stand for parts of the moment, anything else stands for itself.
-/

namespace RepoCatalog

/-- A moment in coordinated universal time and the time a discovery takes. -/
structure Clock where
  /-- Year. -/
  year : Nat
  /-- Month, from one. -/
  month : Nat
  /-- Day of the month. -/
  day : Nat
  /-- Hour. -/
  hour : Nat
  /-- Minute. -/
  minute : Nat
  /-- Second. -/
  second : Nat
  /-- Seconds a discovery takes, as text. -/
  elapsed : String
  deriving DecidableEq, Repr

namespace Clock

/-- Names of the days of the week, from Sunday. -/
def dayNames : List String :=
  ["Sunday", "Monday", "Tuesday", "Wednesday", "Thursday", "Friday", "Saturday"]

/-- Names of the months. -/
def monthNames : List String :=
  ["January", "February", "March", "April", "May", "June", "July", "August", "September", "October",
    "November", "December"]

/-- Whether a year has a leap day. -/
def isLeap (year : Nat) : Bool :=
  year % 4 == 0 && (year % 100 != 0 || year % 400 == 0)

/-- Days of each month. -/
def monthLengths (year : Nat) : List Nat :=
  [31, if isLeap year then 29 else 28, 31, 30, 31, 30, 31, 31, 30, 31, 30, 31]

/-- Days before the first of January of a year, counted from the year one. -/
def daysBefore (year : Nat) : Nat :=
  let past := year - 1
  365 * past + past / 4 - past / 100 + past / 400

/-- Day of the year, from zero. -/
def yearDay (clock : Clock) : Nat :=
  ((monthLengths clock.year).take (clock.month - 1)).foldl (· + ·) 0 + (clock.day - 1)

/-- Day of the week, from Sunday as zero. -/
def weekDay (clock : Clock) : Nat :=
  (daysBefore clock.year + clock.yearDay + 1) % 7

/-- Hour on a dial of twelve. -/
def dialHour (clock : Clock) : Nat :=
  if clock.hour % 12 = 0 then 12 else clock.hour % 12

/-- Seconds since the beginning of 1970. -/
def epochSeconds (clock : Clock) : Nat :=
  (daysBefore clock.year + clock.yearDay - daysBefore 1970) * 86400 + clock.hour * 3600
    + clock.minute * 60 + clock.second

/-- Weeks that begin on a day of the week and are complete or under way since the year began. -/
def weekOfYear (clock : Clock) (firstDay : Nat) : Nat :=
  (clock.yearDay + 7 - (clock.weekDay + 7 - firstDay) % 7) / 7

/-- Year and number of the week that counts for the year holding its Thursday. -/
def isoWeek (clock : Clock) : Nat × Nat :=
  let sinceMonday := (clock.weekDay + 6) % 7
  -- Day of the year of the Thursday of this week, shifted by seven to stay positive.
  let thursday := clock.yearDay + 10 - sinceMonday
  let length := if isLeap clock.year then 366 else 365
  if thursday < 7 then
    let before := clock.year - 1
    (before, (thursday + (if isLeap before then 366 else 365) - 7) / 7 + 1)
  else if length + 7 ≤ thursday then (clock.year + 1, 1)
  else (clock.year, (thursday - 7) / 7 + 1)

/-- What flags and width ask for. -/
structure Wish where
  /-- What numbers are padded with, if a flag says so. -/
  padding : Option Char
  /-- Whether text is written in upper case. -/
  upper : Bool
  /-- Whether the case of text is changed. -/
  swap : Bool
  /-- Least number of characters. -/
  width : Nat
  /-- The letter before the conversion that asks for an alternative form. -/
  variant : Option Char
  deriving DecidableEq, Repr

/-- Flags at the start of a text. -/
def readFlags (wish : Wish) : List Char → Wish × List Char
  | c :: rest =>
    if c == '_' || c == '-' || c == '0' then
      readFlags { wish with padding := some c } rest
    else if c == '^' then readFlags { wish with upper := true } rest
    else if c == '#' then readFlags { wish with swap := true } rest
    else (wish, c :: rest)
  | [] => (wish, [])

/-- Flags, width and variant at the start of a text. -/
def readWish (text : List Char) : Wish × List Char :=
  let (wish, rest) := readFlags ⟨none, false, false, 0, none⟩ text
  let (digits, rest) := rest.span Char.isDigit
  let wish := { wish with width := min (Text.decimalNumber digits) 2147483647 }
  match rest with
  | 'E' :: rest => ({ wish with variant := some 'E' }, rest)
  | 'O' :: rest => ({ wish with variant := some 'O' }, rest)
  | _ => (wish, rest)

/-- Text padded in front to the width asked for. -/
def placeText (wish : Wish) (text : List Char) : List Char :=
  let fill := if wish.padding = some '0' then '0' else ' '
  List.replicate (wish.width - text.length) fill ++ text

/-- Text in upper case if that is asked for. -/
def inCase (upper : Bool) (text : List Char) : List Char :=
  if upper then text.map Char.toUpper else text

/-- A name, in the case asked for. -/
def placeName (wish : Wish) (name : List Char) : List Char :=
  placeText wish (inCase (wish.upper || wish.swap) name)

/-- A number with at least `digits` digits, unless flags say otherwise. -/
def placeNumber (wish : Wish) (digits number : Nat) : List Char :=
  let text := Text.naturalText number
  let gap := max digits wish.width - text.length
  if wish.padding = some '-' then placeText wish text
  else if wish.padding = some '_' then List.replicate gap ' ' ++ text
  else List.replicate gap '0' ++ text

/-- A number padded with spaces, unless flags say otherwise. -/
def placeSpaced (wish : Wish) (digits number : Nat) : List Char :=
  let padding := match wish.padding with
    | some '0' => some '0'
    | some '-' => some '-'
    | _ => some '_'
  placeNumber { wish with padding := padding } digits number

/-- Half of the day. -/
def halfDay (clock : Clock) : String :=
  if clock.hour < 12 then "AM" else "PM"

/-- Letters that stand for several others. -/
def compound? (letter : Char) : Option String :=
  match letter with
  | 'c' => some "%a %b %e %H:%M:%S %Y"
  | 'D' => some "%m/%d/%y"
  | 'x' => some "%m/%d/%y"
  | 'F' => some "%Y-%m-%d"
  | 'R' => some "%H:%M"
  | 'r' => some "%I:%M:%S %p"
  | 'T' => some "%H:%M:%S"
  | 'X' => some "%H:%M:%S"
  | _ => none

/-- Whether a letter has the variant asked for. -/
def allows (variant : Option Char) (letter : Char) : Bool :=
  match variant with
  | none => true
  | some 'E' => !"%aAbBhdDeFgGHIjklmMSUVwW".toList.contains letter
  | some _ => !"%aAcDFxXY".toList.contains letter

/-- What a simple conversion stands for; none for an unknown one. -/
def convert? (clock : Clock) (wish : Wish) (letter : Char) : Option (List Char) :=
  let number (digits value : Nat) : Option (List Char) := some (placeNumber wish digits value)
  let name (words : List String) (position : Nat) : List Char :=
    ((words[position]?).getD "").toList
  match letter with
  | '%' => some (placeText wish ['%'])
  | 'n' => some (placeText wish ['\n'])
  | 't' => some (placeText wish ['\t'])
  | 'a' => some (placeName wish ((name dayNames clock.weekDay).take 3))
  | 'A' => some (placeName wish (name dayNames clock.weekDay))
  | 'b' => some (placeName wish ((name monthNames (clock.month - 1)).take 3))
  | 'h' => some (placeName wish ((name monthNames (clock.month - 1)).take 3))
  | 'B' => some (placeName wish (name monthNames (clock.month - 1)))
  | 'C' => number 2 (clock.year / 100)
  | 'd' => number 2 clock.day
  | 'e' => some (placeSpaced wish 2 clock.day)
  | 'g' => number 2 (clock.isoWeek.1 % 100)
  | 'G' => number 4 clock.isoWeek.1
  | 'H' => number 2 clock.hour
  | 'I' => number 2 clock.dialHour
  | 'j' => number 3 (clock.yearDay + 1)
  | 'k' => some (placeSpaced wish 2 clock.hour)
  | 'l' => some (placeSpaced wish 2 clock.dialHour)
  | 'm' => number 2 clock.month
  | 'M' => number 2 clock.minute
  | 'p' =>
    some (placeText wish
      (if wish.swap then clock.halfDay.toList.map Char.toLower else clock.halfDay.toList))
  | 'P' => some (placeText wish (clock.halfDay.toList.map Char.toLower))
  | 's' => some (placeText wish (Text.naturalText clock.epochSeconds))
  | 'S' => number 2 clock.second
  | 'u' => number 1 ((clock.weekDay + 6) % 7 + 1)
  | 'U' => number 2 (clock.weekOfYear 0)
  | 'V' => number 2 clock.isoWeek.2
  | 'w' => number 1 clock.weekDay
  | 'W' => number 2 (clock.weekOfYear 1)
  | 'y' => number 2 (clock.year % 100)
  | 'Y' => number 4 clock.year
  | 'z' => some (placeText wish ['+'] ++ placeNumber wish 4 0)
  | 'Z' => some (if wish.padding = some '-' then "UTC".toList else placeText wish "UTC".toList)
  | _ => none

/-- The moment spelled out by a format; fuel bounds its length and the nesting of letters. -/
def spellWith (clock : Clock) : Nat → List Char → List Char
  | 0, text => text
  | _ + 1, [] => []
  | fuel + 1, '%' :: rest =>
    let (wish, after) := readWish rest
    let verbatim (length : Nat) (upper : Bool) : List Char :=
      placeText wish (inCase upper ('%' :: rest.take length))
    match after with
    | [] => verbatim rest.length wish.upper
    | letter :: after =>
      let shown :=
        if !allows wish.variant letter then none
        else
          match compound? letter with
          | some parts =>
            some (placeText wish (inCase wish.upper (spellWith clock fuel parts.toList)))
          | none => convert? clock wish letter
      -- A percent sign that ends a place it does not suit stands alone.
      let length := if letter == '%' then 0 else rest.length - after.length
      let upper := wish.upper || (wish.swap && (letter == 'b' || letter == 'h'))
      shown.getD (verbatim length upper) ++ spellWith clock fuel after
  | fuel + 1, c :: rest => c :: spellWith clock fuel rest

/-- Largest number of characters that a format may spell out. -/
def spellLimit (format : List Char) : Nat :=
  let wanted := 256 * format.length
  if wanted ≤ 1024 then 1024 else 1024 * Nat.pow 2 (Nat.log2 ((wanted - 1) / 1024) + 1)

/-- The moment spelled out by a format; none if the format has a null character. A text that is too
long for its format is empty. -/
def spell (clock : Clock) (format : List Char) : Option (List Char) :=
  if format.contains '\x00' then none
  else
    let spelled := clock.spellWith (format.length + 32) format
    some (if spelled.length < spellLimit format then spelled else [])

end Clock

end RepoCatalog
