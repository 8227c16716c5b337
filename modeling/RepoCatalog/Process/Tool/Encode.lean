import RepoCatalog.Process.Escape
import RepoCatalog.Process.Tool.Digest

/-!
# Bytes in other notations

Programs that write bytes as letters, and that show them as numbers.
-/

namespace RepoCatalog.Tool

open Act

namespace Letters

/-- The letters that stand for six bits each. -/
def alphabet : Array Char :=
  "ABCDEFGHIJKLMNOPQRSTUVWXYZabcdefghijklmnopqrstuvwxyz0123456789+/".toList.toArray

/-- Letters for at most three bytes. -/
def ofThree (bytes : Octets) : Octets :=
  let value := (bytes ++ List.replicate (3 - bytes.length) '\x00').foldl
    (fun value c => 256 * value + c.toNat) 0
  let letters := [18, 12, 6, 0].map fun shift => alphabet[value / Nat.pow 2 shift % 64]?.getD 'A'
  letters.take (bytes.length + 1) ++ List.replicate (3 - bytes.length) '='

/-- Letters for bytes. -/
def encode (bytes : Octets) : Octets :=
  (Digest.groups 3 (bytes.length / 3 + 1) bytes).flatMap ofThree

/-- Bytes for letters; none if these are not complete. -/
def decode? (letters : Octets) : Option Octets :=
  let groups := Digest.groups 4 (letters.length / 4 + 1) letters
  (groups.mapM fun four =>
    let kept := four.takeWhile (· != '=')
    let isComplete := four.length = 4 && 2 ≤ kept.length && (four.drop kept.length).all (· == '=')
    if !isComplete then none
    else
      (kept.mapM fun c => alphabet.toList.findIdx? (· = c)).map fun values =>
        let value := (values ++ List.replicate (4 - values.length) 0).foldl
          (fun value digit => 64 * value + digit) 0
        ([16, 8, 0].map fun shift => Char.ofNat (value / Nat.pow 2 shift % 256)).take
          (kept.length - 1)).map List.flatten

end Letters

/-- Writes bytes as letters, or letters as bytes. -/
def base64 : Tool := fun _ name arguments => do
  let (flags, paths) ← sort ⟨['d', 'i'], ['w'],
    [("decode", 'd'), ("ignore-garbage", 'i'), ("wrap", 'w')], true⟩ name 1 arguments
  match paths with
  | _ :: second :: _ => extra name second 1
  | _ =>
    let (contents, complete) ← readInputs name paths
    let text := contents.flatMap (·.2)
    if !complete then return 1
    else if has flags 'd' then
      let isLetter (c : Char) : Bool := Letters.alphabet.contains c || c == '='
      let letters := text.filter fun c => if has flags 'i' then isLetter c else c != '\n'
      match Letters.decode? letters with
      | some bytes => write name bytes
      | none =>
        let start := Letters.decode? (letters.take (letters.length / 4 * 4))
        let _ ← write name (start.getD [])
        complain name "invalid input"
        return 1
    else
      let wanted := (argument? flags 'w').getD "76"
      match natural? wanted with
      | none =>
        complain name ("invalid wrap size: " ++ quoted wanted)
        return 1
      | some width =>
        let letters := Letters.encode text
        if width = 0 then write name letters
        else write name (Octets.unlines (Digest.groups width (letters.length + 1) letters))

namespace Dump

/-- How bytes are shown. -/
inductive Style
  | named
  | characters
  | number (base : Nat) (signed : Bool) (size : Nat)
  deriving DecidableEq, Repr

/-- A way to show bytes, perhaps with the text that they are at the end of lines. -/
structure Shape where
  /-- How bytes are shown. -/
  style : Style
  /-- Whether their text is shown too. -/
  showsText : Bool

/-- Number of bytes that are shown together. -/
def Style.size : Style → Nat
  | named | characters => 1
  | number _ _ size => size

/-- Number of characters that they take. -/
def Style.width : Style → Nat
  | named | characters => 3
  | number base signed size =>
    let widths : List Nat := match base, signed with
      | 8, _ => [3, 6, 11, 22]
      | 16, _ => [2, 4, 8, 16]
      | _, true => [4, 6, 11, 20]
      | _, false => [3, 5, 10, 20]
    widths[if size = 1 then 0 else if size = 2 then 1 else if size = 4 then 2 else 3]?.getD 20

/-- Names of bytes that cannot be seen. -/
def names : Array String := #[
  "nul", "soh", "stx", "etx", "eot", "enq", "ack", "bel", "bs", "ht", "nl", "vt", "ff", "cr", "so",
  "si", "dle", "dc1", "dc2", "dc3", "dc4", "nak", "syn", "etb", "can", "em", "sub", "esc", "fs",
  "gs", "rs", "us", "sp"]

/-- Number with zeros in front. -/
def zeroed (base width n : Nat) : Octets :=
  let digits := Nat.toDigits base n
  List.replicate (width - digits.length) '0' ++ digits

/-- Text of bytes that are shown together. -/
def Style.text (style : Style) (bytes : Octets) : Octets :=
  match style with
  | named =>
    let n := (bytes.head?.map Char.toNat).getD 0 % 128
    if n = 127 then "del"
    else
      match names[n]? with
      | some name => Octets.ofString name
      | none => [Char.ofNat n]
  | characters =>
    match bytes.head?.getD '\x00' with
    | '\x00' => ['\\', '0']
    | c =>
      if c ≠ '\\' && c ≠ '\x1b' then
        match "abtnvfr".toList.find? fun letter => Escape.letter? letter = some c with
        | some letter => ['\\', letter]
        | none => if ' ' ≤ c && c ≤ '~' then [c] else zeroed 8 3 c.toNat
      else if c == '\\' then ['\\'] else "033"
  | number base signed size =>
    let filled := bytes ++ List.replicate (size - bytes.length) '\x00'
    let value : Nat := filled.reverse.foldl (fun value c => 256 * value + c.toNat) 0
    if base ≠ 10 then zeroed base (Style.width (.number base signed size)) value
    else if signed && Nat.pow 256 size / 2 ≤ value then
      '-' :: Octets.ofNat (Nat.pow 256 size - value)
    else Octets.ofNat value

/-- Size that a letter or a number stands for, with what follows it. -/
def takeSize (text : Octets) : Nat × Octets :=
  match text with
  | 'C' :: rest => (1, rest)
  | 'S' :: rest => (2, rest)
  | 'I' :: rest => (4, rest)
  | 'L' :: rest => (8, rest)
  | text =>
    let digits := text.takeWhile Char.isDigit
    (if digits.isEmpty then 4 else Shell.number digits, text.drop digits.length)

/-- Ways to show bytes that a text lists; fuel bounds their number. -/
def shapes? : Nat → Octets → Option (List Shape)
  | 0, _ => none
  | _ + 1, [] => some []
  | fuel + 1, c :: rest =>
    let (style?, rest) : Option Style × Octets :=
      match c with
      | 'a' => (some .named, rest)
      | 'c' => (some .characters, rest)
      | 'd' => let (size, rest) := takeSize rest; (some (.number 10 true size), rest)
      | 'u' => let (size, rest) := takeSize rest; (some (.number 10 false size), rest)
      | 'o' => let (size, rest) := takeSize rest; (some (.number 8 false size), rest)
      | 'x' => let (size, rest) := takeSize rest; (some (.number 16 false size), rest)
      | _ => (none, rest)
    match style? with
    | none => none
    | some style =>
      if [1, 2, 4, 8].all (· ≠ style.size) then none
      else
        let (showsText, rest) := match rest with
          | 'z' :: rest => (true, rest)
          | rest => (false, rest)
        (shapes? fuel rest).map (⟨style, showsText⟩ :: ·)

/-- What the letter of an option stands for. -/
def shorthand (c : Char) : Octets :=
  match c with
  | 'a' => "a"
  | 'b' => "o1"
  | 'c' => "c"
  | 'd' => "u2"
  | 'i' => "dI"
  | 'l' => "dL"
  | 'o' => "o2"
  | 's' => "d2"
  | 'x' => "x2"
  | _ => []

/-- Line that shows bytes in one way; `full` is the number of bytes of a line, and `wide` the number
of characters that the widest way takes. -/
def line (shape : Shape) (full wide : Nat) (bytes : Octets) : Octets :=
  let size := shape.style.size
  let count := full / size
  let spare := wide - count * (shape.style.width + 1)
  let items := Digest.groups size (bytes.length + 1) bytes
  let shown := items.mapIdx fun i item =>
    let padding := spare * (count - i) / count - spare * (count - i - 1) / count
    Octets.padLeft (padding + shape.style.width + 1) (shape.style.text item)
  let text : Octets := if !shape.showsText then [] else
    let missing := wide - (shown.map List.length).foldl (· + ·) 0
    let seen := bytes.map fun c => if ' ' ≤ c && c ≤ '~' then c else '.'
    List.replicate missing ' ' ++ "  >" ++ seen ++ ['<']
  shown.flatten ++ text

end Dump

/-- Shows bytes as numbers or characters. -/
def od : Tool := fun _ name arguments => do
  let short := ['a', 'b', 'c', 'd', 'i', 'l', 'o', 's', 'x']
  let (flags, paths) ← sort ⟨'v' :: 'w' :: short, ['A', 't', 'N', 'j', 'w'],
    [("address-radix", 'A'), ("format", 't'), ("read-bytes", 'N'), ("skip-bytes", 'j'),
      ("output-duplicates", 'v'), ("width", 'w')], true⟩ name 1 arguments
  let wanted := flags.flatMap fun flag =>
    if flag.letter = 't' then flag.argument else Dump.shorthand flag.letter
  let wanted : Octets := if wanted.isEmpty then "o2" else wanted
  match Dump.shapes? (wanted.length + 1) wanted with
  | none =>
    complain name ("invalid type string " ++ quoted wanted)
    return 1
  | some shapes =>
    let (contents, complete) ← readInputs name paths
    let size (letter : Char) : Option Nat := (argument? flags letter).bind bytes?
    let skipped := (size 'j').getD 0
    let text := (contents.flatMap (·.2)).drop skipped
    let text := match size 'N' with
      | some most => text.take most
      | none => text
    let full := match argument? flags 'w' with
      | some digits => max 1 ((natural? digits).getD 32)
      | none => 16
    let wide := (shapes.map fun shape =>
      full / shape.style.size * (shape.style.width + 1)).foldl max 0
    let radix := (argument? flags 'A').getD ['o']
    let address (n : Nat) : Octets := match radix with
      | ['n'] => []
      | ['x'] => Dump.zeroed 16 6 n
      | ['d'] => Dump.zeroed 10 7 n
      | _ => Dump.zeroed 8 7 n
    let rows := Digest.groups full (text.length + 1) text
    let shown := (rows.mapIdx fun i bytes => (i, bytes)).foldl
      (fun (before, repeating, lines) (i, bytes) =>
        if before = some bytes && bytes.length = full && !has flags 'v' then
          (before, true, if repeating then lines else ("*" : Octets) :: lines)
        else
          let start := address (skipped + i * full)
          let own := shapes.mapIdx fun j shape =>
            (if j = 0 then start else List.replicate start.length ' ')
              ++ Dump.line shape full wide bytes
          (some bytes, false, own.reverse ++ lines))
      ((none : Option Octets), false, ([] : List Octets))
    let last := address (skipped + text.length)
    let lines := shown.2.2.reverse ++ if last.isEmpty then [] else [last]
    let status ← write name (Octets.unlines lines)
    return if complete then status else 1

end RepoCatalog.Tool
