import RepoCatalog.Failure

/-!
# Texts that have no encoding

A text may hold surrogates that stand alone, which UTF-8 has no bytes for: an escape in JSON can
name one, and bytes of an argument that are no UTF-8 are kept as such. Here private-use characters
stand for them, each for the surrogate 2048 places before it. That keeps their order among all other
characters but these.
-/

namespace RepoCatalog

/-- How texts are written out. -/
structure Encoding where
  /-- Whether a character stands for a surrogate. -/
  isLone : Char → Bool
  /-- Only private-use characters do. -/
  lone_private : ∀ c, isLone c = true → 0xE000 ≤ c.toNat ∧ c.toNat < 0xE800
  /-- Whether the console takes a line. -/
  prints : String → Bool

namespace Encoding

/-- An encoding for texts without surrogates, with a console that takes every line. -/
def plain : Encoding :=
  ⟨fun _ => false, nofun, fun _ => true⟩

/-- The first surrogates in a text, if there are any. -/
def stray? (encoding : Encoding) (text : List Char) : Option Text.Stray :=
  match text.dropWhile (!encoding.isLone ·) with
  | [] => none
  | c :: rest =>
    some ⟨(text.takeWhile (!encoding.isLone ·)).length, c.toNat - 0x800,
      (rest.takeWhile encoding.isLone).length + 1⟩

/-- The bytes that encode a text; one with surrogates has none. -/
def encode (encoding : Encoding) (text : String) : Except Failure (List UInt8) :=
  match encoding.stray? text.toList with
  | some stray => .error (.notEncodable stray)
  | none => .ok (Text.encodeUtf8 text.toList)

end Encoding

end RepoCatalog
