import RepoCatalog.Text.Digit
import RepoCatalog.Text.Split

/-!
# Host literals

Numeric addresses of hosts: four decimal octets with points, or eight hexadecimal groups with
colons, of which one run of zeros may be left out; the last two groups may be written as four
octets.
-/

namespace RepoCatalog.HostLiteral

/-- What a text is as the numeric address of a host. -/
inductive Kind
  | octets
  | groups
  deriving DecidableEq, Repr

/-- Whether a character is an ASCII digit of base sixteen. -/
def isHexDigit (c : Char) : Bool :=
  c.isDigit || ('a' ≤ c && c ≤ 'f') || ('A' ≤ c && c ≤ 'F')

/-- Whether a text is a number up to 255 without leading zeros. -/
def isOctet (text : List Char) : Bool :=
  !text.isEmpty && text.all Char.isDigit && text.length ≤ 3
    && (text == ['0'] || text.head? != some '0') && Text.decimalNumber text ≤ 255

/-- Whether a text consists of four octets with points between them. -/
def isOctets (text : List Char) : Bool :=
  let parts := Text.split '.' text
  parts.length == 4 && parts.all isOctet

/-- Whether a text is a group of one to four hexadecimal digits. -/
def isGroup (text : List Char) : Bool :=
  !text.isEmpty && text.length ≤ 4 && text.all isHexDigit

/-- Most parts that colons may cut an address into. -/
def partLimit : Nat := 9

/-- Parts in which octets at the end are replaced by two groups; none if they are no octets. -/
def withoutOctets (parts : List (List Char)) : Option (List (List Char)) :=
  match parts.getLast? with
  | some last =>
    if last.contains '.' then
      if isOctets last then some (parts.dropLast ++ [['0'], ['0']]) else none
    else some parts
  | none => none

/-- Whether the parts between colons are the groups of an address. An empty part inside stands for
the groups left out; at either end it has to stand beside that one. -/
def areGroups (parts : List (List Char)) : Bool :=
  let inner := (parts.drop 1).dropLast
  match inner.findIdx? List.isEmpty with
  | none => parts.length == 8 && parts.all isGroup
  | some gap =>
    let before := parts.take (gap + 1)
    let after := parts.drop (gap + 2)
    let before := if before == [[]] then [] else before
    let after := if after == [[]] then [] else after
    (inner.filter List.isEmpty).length == 1 && before.all isGroup && after.all isGroup
      && before.length + after.length < 8

/-- Address without the zone after a percent sign; none if the zone is empty or has such a sign. -/
def withoutZone (text : List Char) : Option (List Char) :=
  match text.span (· != '%') with
  | (address, []) => some address
  | (address, _ :: zone) => if zone.isEmpty || zone.contains '%' then none else some address

/-- Whether a text is an address of eight groups, with or without a zone. -/
def isGroups (text : List Char) : Bool :=
  match withoutZone text with
  | none => false
  | some address =>
    let parts := Text.split ':' address
    if parts.length < 3 then false
    else
      match withoutOctets parts with
      | none => false
      | some parts => parts.length ≤ partLimit && areGroups parts

/-- What a text is as the numeric address of a host, if it is one. -/
def kind? (text : List Char) : Option Kind :=
  if isOctets text then some .octets else if isGroups text then some .groups else none

/-- Whether a text announces the version of a form of address that is not known. -/
def isFuture (text : List Char) : Bool :=
  match text with
  | 'v' :: rest =>
    match rest.span isHexDigit with
    | (_ :: _, '.' :: address) => !address.isEmpty && !address.contains '\n'
    | _ => false
  | _ => false

end RepoCatalog.HostLiteral
