import RepoCatalog.Process.Octets

/-!
# Escapes

Characters written with a backslash, as the commands that write text know them.
-/

namespace RepoCatalog.Escape

/-- The character that a letter stands for behind a backslash. -/
def letter? (c : Char) : Option Char :=
  match c with
  | '\\' => some '\\'
  | 'a' => some '\x07'
  | 'b' => some '\x08'
  | 'e' => some '\x1b'
  | 'f' => some '\x0c'
  | 'n' => some '\n'
  | 'r' => some '\r'
  | 't' => some '\t'
  | 'v' => some '\x0b'
  | _ => none

/-- Value of a hexadecimal digit. -/
def hexValue? (c : Char) : Option Nat :=
  if c.isDigit then some (c.toNat - 48)
  else if 'a' ≤ c && c ≤ 'f' then some (c.toNat - 87)
  else if 'A' ≤ c && c ≤ 'F' then some (c.toNat - 55)
  else none

/-- At most `most` digits of a base, as the character of their number, and what follows them. -/
def takeCode (base most : Nat) (text : Octets) : Char × Octets :=
  let isDigit (c : Char) : Bool := (hexValue? c).any (· < base)
  let digits := (text.take most).takeWhile isDigit
  let value := digits.foldl (fun value c => base * value + (hexValue? c).getD 0) 0
  (Char.ofNat (value % 256), text.drop digits.length)

/-- Whether text begins with a digit of a base. -/
def startsCode (base : Nat) (text : Octets) : Bool :=
  (text.head?.bind hexValue?).any (· < base)

/-- Which escapes are known besides the usual ones. -/
structure Style where
  /-- Whether octal numbers begin with a zero that does not count as a digit. -/
  zeroFirst : Bool
  /-- Whether there are hexadecimal numbers. -/
  hexadecimal : Bool
  /-- Whether double quotes may be escaped. -/
  quotes : Bool
  /-- Whether an escape ends all output. -/
  stops : Bool
  deriving DecidableEq, Repr

/-- What stands behind a backslash: a text with what follows it, or the end of all output. -/
def take (style : Style) (text : Octets) : Option (Octets × Octets) :=
  match text with
  | [] => some (['\\'], [])
  | c :: rest =>
    if style.stops && c == 'c' then none
    else if style.quotes && c == '"' then some (['"'], rest)
    else if style.hexadecimal && c == 'x' && startsCode 16 rest then
      let (c, rest) := takeCode 16 2 rest
      some ([c], rest)
    else if startsCode 8 text then
      let (c, rest) := takeCode 8 3 (if style.zeroFirst && c == '0' then rest else text)
      some ([c], rest)
    else
      match letter? c with
      | some shown => some ([shown], rest)
      | none => some (['\\'], text)

/-- Text with its escapes replaced, and whether output ends with it; fuel bounds its length. -/
def replace (style : Style) : Nat → Octets → Octets × Bool
  | 0, _ => ([], false)
  | _ + 1, [] => ([], false)
  | fuel + 1, '\\' :: rest =>
    match take style rest with
    | none => ([], true)
    | some (shown, rest) =>
      let (text, ends) := replace style fuel rest
      (shown ++ text, ends)
  | fuel + 1, c :: rest =>
    let (text, ends) := replace style fuel rest
    (c :: text, ends)

/-- Text with all its escapes replaced, and whether output ends with it. -/
def unescape (style : Style) (text : Octets) : Octets × Bool :=
  replace style (text.length + 1) text

end RepoCatalog.Escape
