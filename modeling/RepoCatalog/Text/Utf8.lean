import RepoCatalog.Text.Quoted

/-!
# UTF-8

Decoding reads byte by byte and stops at the first place where the bytes cannot be continued to
the encoding of a text.
-/

namespace RepoCatalog.Text

/-- What is wrong with bytes that are not UTF-8. -/
inductive Utf8Fault
  | startByte
  | continuationByte
  | truncated
  deriving DecidableEq, Repr

/-- The first place where bytes are not UTF-8. -/
structure Malformed where
  /-- Position of the first byte of the broken character. -/
  position : Nat
  /-- First byte of the broken character. -/
  lead : UInt8
  /-- Number of its bytes that were still in order. -/
  count : Nat
  /-- What is wrong. -/
  fault : Utf8Fault
  deriving DecidableEq, Repr

/-- A character of which some bytes are still missing. -/
structure Pending where
  /-- Position of its first byte. -/
  position : Nat
  /-- Its first byte. -/
  lead : UInt8
  /-- Number of bytes read. -/
  count : Nat
  /-- Number of bytes missing, less one. -/
  missing : Nat
  /-- Smallest next byte. -/
  low : UInt8
  /-- Largest next byte. -/
  high : UInt8
  /-- Bits read so far. -/
  bits : Nat
  deriving DecidableEq, Repr

/-- A character of several bytes after its first one, if that byte can start one. -/
def Pending.start? (position : Nat) (lead : UInt8) : Option Pending :=
  let code := lead.toNat
  if lead < 0xC2 then none
  else if lead < 0xE0 then some ⟨position, lead, 1, 0, 0x80, 0xBF, code - 0xC0⟩
  else if lead < 0xF0 then
    some ⟨position, lead, 1, 1, if lead == 0xE0 then 0xA0 else 0x80,
      if lead == 0xED then 0x9F else 0xBF, code - 0xE0⟩
  else if lead < 0xF5 then
    some ⟨position, lead, 1, 2, if lead == 0xF0 then 0x90 else 0x80,
      if lead == 0xF4 then 0x8F else 0xBF, code - 0xF0⟩
  else none

/-- The bits of a character after one more continuation byte. -/
def Pending.extend (pending : Pending) (byte : UInt8) : Nat :=
  pending.bits * 64 + (byte.toNat - 0x80)

/-- Decoding from a state: the character under way, the position and the text read, reversed. -/
def decodeFrom : Option Pending → Nat → List Char → List UInt8 → Except Malformed (List Char)
  | none, _, read, [] => .ok read.reverse
  | some pending, _, _, [] =>
    .error ⟨pending.position, pending.lead, pending.count, .truncated⟩
  | none, position, read, byte :: rest =>
    if byte < 0x80 then decodeFrom none (position + 1) (Char.ofNat byte.toNat :: read) rest
    else
      match Pending.start? position byte with
      | some pending => decodeFrom (some pending) (position + 1) read rest
      | none => .error ⟨position, byte, 1, .startByte⟩
  | some pending, position, read, byte :: rest =>
    if pending.low ≤ byte && byte ≤ pending.high then
      match pending.missing with
      | 0 => decodeFrom none (position + 1) (Char.ofNat (pending.extend byte) :: read) rest
      | missing + 1 =>
        decodeFrom
          (some ⟨pending.position, pending.lead, pending.count + 1, missing, 0x80, 0xBF,
            pending.extend byte⟩)
          (position + 1) read rest
    else .error ⟨pending.position, pending.lead, pending.count, .continuationByte⟩

/-- The text that bytes encode. -/
def decodeUtf8 (bytes : List UInt8) : Except Malformed (List Char) :=
  decodeFrom none 0 [] bytes

/-- The bytes that encode a text. -/
def encodeUtf8 (text : List Char) : List UInt8 :=
  text.flatMap String.utf8EncodeChar

/-- Bytes as text, with every byte that is not part of a character spelled out; fuel bounds the
number of broken characters. -/
def spellBytes : Nat → List UInt8 → List Char
  | 0, _ => []
  | fuel + 1, bytes =>
    match decodeUtf8 bytes with
    | .ok text => text
    | .error malformed =>
      let (sound, rest) := bytes.splitAt malformed.position
      let (broken, rest) := rest.splitAt malformed.count
      ((decodeUtf8 sound).toOption.getD [])
        ++ broken.flatMap (fun byte => '\\' :: 'x' :: hexadecimal 2 byte.toNat)
        ++ spellBytes fuel rest

/-- Bytes as text, with every byte that is not part of a character spelled out. -/
def readable (bytes : List UInt8) : String :=
  String.ofList (spellBytes (bytes.length + 1) bytes)

/-- Words for a fault. -/
def Utf8Fault.description : Utf8Fault → String
  | .startByte => "invalid start byte"
  | .continuationByte => "invalid continuation byte"
  | .truncated => "unexpected end of data"

/-- Sentence reporting malformed bytes. -/
def Malformed.message (malformed : Malformed) : String :=
  let place :=
    if malformed.count == 1 then
      "byte 0x" ++ String.ofList (hexadecimal 2 malformed.lead.toNat) ++ " in position "
        ++ toString malformed.position
    else
      "bytes in position " ++ toString malformed.position ++ "-"
        ++ toString (malformed.position + malformed.count - 1)
  "'utf-8' codec can't decode " ++ place ++ ": " ++ malformed.fault.description

/-- The first surrogates in a text, which have no encoding. -/
structure Stray where
  /-- Position of the first of them. -/
  position : Nat
  /-- The first of them. -/
  code : Nat
  /-- Number of surrogates in a row. -/
  count : Nat
  deriving DecidableEq, Repr

/-- Sentence reporting surrogates. -/
def Stray.message (stray : Stray) : String :=
  let place :=
    if stray.count == 1 then
      "character '\\u" ++ String.ofList (hexadecimal 4 stray.code) ++ "' in position "
        ++ toString stray.position
    else
      "characters in position " ++ toString stray.position ++ "-"
        ++ toString (stray.position + stray.count - 1)
  "'utf-8' codec can't encode " ++ place ++ ": surrogates not allowed"

end RepoCatalog.Text
