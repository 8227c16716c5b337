import RepoCatalog.Text.CharClass

/-!
# Quoted text

How messages show a text: between quotes, with everything that cannot be printed escaped.
-/

namespace RepoCatalog.Text

/-- One lower-case hexadecimal digit. -/
def hexDigit (n : Nat) : Char :=
  if n < 10 then Char.ofNat (48 + n) else Char.ofNat (87 + n)

/-- The last `width` hexadecimal digits of a number. -/
def hexadecimal : Nat → Nat → List Char
  | 0, _ => []
  | width + 1, n => hexadecimal width (n / 16) ++ [hexDigit (n % 16)]

/-- The mark around a quoted text: an apostrophe, unless only that one occurs inside. -/
def quoteMark (text : List Char) : Char :=
  if text.contains '\x27' && !text.contains '\x22' then '\x22' else '\x27'

/-- One character as it appears between quote marks. -/
def quotedChar (mark c : Char) : List Char :=
  if c == mark || c == '\\' then ['\\', c]
  else if c == '\t' then ['\\', 't']
  else if c == '\n' then ['\\', 'n']
  else if c == '\r' then ['\\', 'r']
  else if isPrintable c then [c]
  else if c.toNat < 0x100 then '\\' :: 'x' :: hexadecimal 2 c.toNat
  else if c.toNat < 0x10000 then '\\' :: 'u' :: hexadecimal 4 c.toNat
  else '\\' :: 'U' :: hexadecimal 8 c.toNat

/-- Text between quote marks. -/
def quotedChars (text : List Char) : List Char :=
  let mark := quoteMark text
  mark :: text.flatMap (quotedChar mark) ++ [mark]

/-- A string between quote marks. -/
def quoted (text : String) : String :=
  String.ofList (quotedChars text.toList)

/-- A character in a text that may hold ASCII characters only. -/
def asciiChar (c : Char) : List Char :=
  if c.toNat < 0x80 then [c]
  else if c.toNat < 0x100 then '\\' :: 'x' :: hexadecimal 2 c.toNat
  else if c.toNat < 0x10000 then '\\' :: 'u' :: hexadecimal 4 c.toNat
  else '\\' :: 'U' :: hexadecimal 8 c.toNat

/-- A string with every character outside ASCII escaped. -/
def escapeNonAscii (text : String) : String :=
  String.ofList (text.toList.flatMap asciiChar)

end RepoCatalog.Text
