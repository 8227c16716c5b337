import RepoCatalog.Text.Split
import RepoCatalog.Text.Utf8

/-!
# Octets

Text as the programs of a machine see it: each character stands for one byte.
-/

namespace RepoCatalog

/-- Bytes, each written as the character of its number. -/
abbrev Octets := List Char

namespace Octets

/-- Octets with given values. -/
def ofBytes (bytes : List UInt8) : Octets :=
  bytes.map fun byte => Char.ofNat byte.toNat

/-- Values of octets. -/
def toBytes (octets : Octets) : List UInt8 :=
  octets.map fun c => UInt8.ofNat c.toNat

/-- Octets that encode a string. -/
def ofString (text : String) : Octets :=
  ofBytes (Text.encodeUtf8 text.toList)

instance : Coe String Octets := ⟨ofString⟩

/-- The string that octets encode, as far as they encode one. -/
def toString (octets : Octets) : String :=
  Text.readable (toBytes octets)

/-- Pieces of a text, without the mark that ends each of them; the last one may lack it. -/
def pieces (mark : Char) (octets : Octets) : List Octets :=
  let parts := Text.split mark octets
  if parts.getLast? = some [] then parts.dropLast else parts

/-- Lines of a text, without the line breaks that end them. -/
def lines (octets : Octets) : List Octets :=
  pieces '\n' octets

/-- Lines, each ended by a line break. -/
def unlines (lines : List Octets) : Octets :=
  lines.flatMap fun line => line ++ ['\n']

/-- Whether one text comes before another, byte by byte. -/
def isBefore : Octets → Octets → Bool
  | _, [] => false
  | [], _ :: _ => true
  | a :: first, b :: second => a < b || (a == b && isBefore first second)

/-- Texts in the order of their bytes; equal ones keep their order. -/
def sort (texts : List Octets) : List Octets :=
  texts.mergeSort fun first second => !isBefore second first

/-- A decimal number. -/
def ofNat (n : Nat) : Octets :=
  Nat.toDigits 10 n

/-- A decimal number, perhaps with a sign. -/
def ofInt (n : Int) : Octets :=
  if n < 0 then '-' :: ofNat n.natAbs else ofNat n.natAbs

/-- Texts one after the other with a separator between them. -/
def join (separator : Octets) (texts : List Octets) : Octets :=
  separator.intercalate texts

/-- Text padded in front to a width. -/
def padLeft (width : Nat) (octets : Octets) : Octets :=
  List.replicate (width - octets.length) ' ' ++ octets

end Octets

end RepoCatalog
