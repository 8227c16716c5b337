import RepoCatalog.Process.Printf
import RepoCatalog.Process.Tool.Files

/-!
# Rows of numbers

A row goes from a first number to a last one by equal steps. Numbers are decimal fractions, and are
written with as many places as the first number and the step have.
-/

namespace RepoCatalog.Tool

open Act

namespace Sequence

/-- A decimal fraction as it was written. -/
structure Term where
  /-- Its digits as a whole number. -/
  digits : Int
  /-- How many of them are places. -/
  places : Nat
  /-- Number of characters that it was written with. -/
  width : Nat
  deriving DecidableEq, Repr

/-- The decimal fraction that a text writes, perhaps with a power of ten. -/
def term? (text : Octets) : Option Term :=
  let text := text.dropWhile Shell.Expression.isSpace
  let text := if text.head? = some '+' then text.drop 1 else text
  let (negative, body) := match text with
    | '-' :: body => (true, body)
    | body => (false, body)
  let (whole, rest) := body.span Char.isDigit
  let (part, rest) := match rest with
    | '.' :: rest => rest.span Char.isDigit
    | rest => ([], rest)
  let power? : Option Int := match rest with
    | [] => some 0
    | e :: '-' :: digits =>
      if e == 'e' || e == 'E' then (natural? digits).map fun n => -(n : Int) else none
    | e :: digits =>
      let digits := if digits.head? = some '+' then digits.drop 1 else digits
      if e == 'e' || e == 'E' then (natural? digits).map fun n => (n : Int) else none
  if whole.isEmpty && part.isEmpty then none
  else
    power?.bind fun power =>
      if 300 < power.natAbs then none
      else
        let value : Int := Shell.number (whole ++ part)
        let value := if negative then -value else value
        let places : Int := part.length - power
        let width := text.length - rest.length
        if 0 ≤ places then some ⟨value, places.toNat, width⟩
        else some ⟨value * Nat.pow 10 places.natAbs, 0, width + places.natAbs⟩

/-- Digits of a fraction with a number of places, as a whole number. -/
def Term.scaled (term : Term) (places : Nat) : Int :=
  term.digits * Nat.pow 10 (places - term.places)

/-- Text of a fraction whose digits are given as a whole number. -/
def textOf (places : Nat) (digits : Int) : Octets :=
  let size := digits.natAbs
  let whole := Octets.ofNat (size / Nat.pow 10 places)
  let part := Octets.ofNat (size % Nat.pow 10 places)
  let text := if places = 0 then whole else
    whole ++ '.' :: List.replicate (places - part.length) '0' ++ part
  if digits < 0 then '-' :: text else text

/-- Text with zeros behind its sign, up to a width. -/
def padZeros (width : Nat) (text : Octets) : Octets :=
  let zeros := List.replicate (width - text.length) '0'
  match text with
  | '-' :: digits => '-' :: zeros ++ digits
  | digits => zeros ++ digits

/-- Numbers from one to another; fuel bounds how many. -/
def numbers (step last : Int) : Nat → Int → List Int
  | 0, _ => []
  | fuel + 1, n =>
    if (0 < step && last < n) || (step < 0 && n < last) then []
    else n :: numbers step last fuel (n + step)

/-- How many numbers a row has at most. -/
def limit : Nat := 1000000

/-- Options of `seq`, with the arguments behind them; negative numbers are no options. -/
def options : Nat → List Octets → Sorted
  | 0, arguments => .ok ([], arguments)
  | fuel + 1, arguments =>
    let known : Known := ⟨['w'], ['s', 'f'],
      [("equal-width", 'w'), ("separator", 's'), ("format", 'f')], false⟩
    match arguments with
    | ['-', '-'] :: rest => .ok ([], rest)
    | ('-' :: c :: text) :: rest =>
      if c.isDigit || c == '.' then .ok ([], arguments)
      else if c == '-' then sortLong known (options fuel) rest text
      else sortLetters known (options fuel) rest (c :: text)
    | arguments => .ok ([], arguments)

end Sequence

/-- Writes numbers in a row. -/
def seq : Tool := fun _ name arguments => do
  let (flags, operands) ← match Sequence.options (arguments.length + 1) arguments with
    | .ok sorted => pure sorted
    | .error message => misuse name 1 message
  match operands with
  | [] => return ← missing name 1
  | _ :: _ :: _ :: fourth :: _ => return ← extra name fourth 1
  | _ => pure ()
  let terms ← operands.mapM fun text =>
    match Sequence.term? text with
    | some term => return term
    | none => misuse name 1 ("invalid floating point argument: " ++ quoted text)
  let one : Sequence.Term := ⟨1, 0, 1⟩
  let (first, step, last) := match terms with
    | [last] => (one, one, last)
    | [first, last] => (first, one, last)
    | first :: step :: last :: _ => (first, step, last)
    | [] => (one, one, one)
  if step.digits = 0 then
    misuse name 1 ("invalid Zero increment value: " ++ quoted ((operands.drop 1).head?.getD []))
  let shown := max first.places step.places
  let places := max shown last.places
  let row := Sequence.numbers (step.scaled places) (last.scaled places) Sequence.limit
    (first.scaled places)
  let texts := row.map fun n => Sequence.textOf shown (n / Nat.pow 10 (places - shown))
  let width (term : Sequence.Term) : Nat :=
    let whole := term.width - (if term.places = 0 then 0 else term.places + 1)
    whole + if shown = 0 then 0 else shown + 1
  let texts := match argument? flags 'f' with
    | some format => texts.map fun text => (Printf.print .program format [text]).text
    | none =>
      if has flags 'w' then texts.map (Sequence.padZeros (max (width first) (width last)))
      else texts
  if texts.isEmpty then return 0
  else write name (Octets.join ((argument? flags 's').getD ['\n']) texts ++ ['\n'])

end RepoCatalog.Tool
