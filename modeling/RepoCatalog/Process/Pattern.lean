import RepoCatalog.Process.Octets

/-!
# Patterns

Patterns for names and texts: one character, any number of them, or one out of a set. Quoted
characters of a pattern stand for themselves.
-/

namespace RepoCatalog

/-- A character, and whether it was quoted. -/
structure Cell where
  /-- The character. -/
  char : Char
  /-- Whether it was quoted. -/
  quoted : Bool
  deriving DecidableEq, Repr

/-- Named classes of characters. -/
def characterClass? (name : String) : Option (Char → Bool) :=
  let visible (c : Char) : Bool := '!' ≤ c && c ≤ '~'
  match name with
  | "alnum" => some Char.isAlphanum
  | "alpha" => some Char.isAlpha
  | "blank" => some fun c => c == ' ' || c == '\t'
  | "cntrl" => some fun c => c < ' ' || c == '\x7f'
  | "digit" => some Char.isDigit
  | "graph" => some visible
  | "lower" => some Char.isLower
  | "print" => some fun c => c == ' ' || visible c
  | "punct" => some fun c => visible c && !c.isAlphanum
  | "space" => some fun c => c == ' ' || ('\t' ≤ c && c ≤ '\r')
  | "upper" => some Char.isUpper
  | "xdigit" => some fun c => c.isDigit || ('a' ≤ c && c ≤ 'f') || ('A' ≤ c && c ≤ 'F')
  | _ => none

/-- Part of a set of characters. -/
inductive Span
  | range (first last : Char)
  | named (name : String)
  deriving DecidableEq, Repr

/-- Whether a character belongs to a part of a set. -/
def Span.contains (c : Char) : Span → Bool
  | range first last => first ≤ c && c ≤ last
  | named name => ((characterClass? name).map (· c)).getD false

/-- Name of a class that a text begins with, after its bracket and colon, and what follows it. -/
def takeClass? (text : List Char) : Option (String × List Char) :=
  match text.span Char.isAlpha with
  | (name, ':' :: ']' :: rest) =>
    let name := String.ofList name
    if (characterClass? name).isSome then some (name, rest) else none
  | _ => none

/-- Part of a pattern. -/
inductive PatternPart
  | exactly (c : Char)
  | any
  | many
  | oneOf (negated : Bool) (spans : List Span)
  deriving DecidableEq, Repr

/-- A pattern. -/
abbrev Pattern := List PatternPart

namespace Pattern

/-- Cells in which every character that follows a bare backslash is quoted. -/
def resolveEscapes : List Cell → List Cell
  | ⟨'\\', false⟩ :: cell :: rest => ⟨cell.char, true⟩ :: resolveEscapes rest
  | ⟨'\\', false⟩ :: [] => [⟨'\\', true⟩]
  | cell :: rest => cell :: resolveEscapes rest
  | [] => []

/-- Whether cells begin with a class, and what follows it. -/
def classAhead? (cells : List Cell) : Option (String × List Cell) :=
  match cells with
  | ⟨':', false⟩ :: rest =>
    (takeClass? (rest.map (·.char))).map fun (name, behind) =>
      (name, rest.drop (rest.length - behind.length))
  | _ => none

/-- A set up to its closing bracket, with what follows it; fuel bounds its length. -/
def takeSpans : Nat → Bool → List Span → List Cell → Option (List Span × List Cell)
  | 0, _, _, _ => none
  | _ + 1, _, _, [] => none
  | fuel + 1, isFirst, spans, cell :: rest =>
    if cell = ⟨']', false⟩ && !isFirst then some (spans.reverse, rest)
    else
      match if cell = ⟨'[', false⟩ then classAhead? rest else none with
      | some (name, rest) => takeSpans fuel false (.named name :: spans) rest
      | none =>
        match rest with
        | ⟨'-', false⟩ :: last :: behind =>
          if last = ⟨']', false⟩ then
            takeSpans fuel false (.range cell.char cell.char :: spans) rest
          else takeSpans fuel false (.range cell.char last.char :: spans) behind
        | rest => takeSpans fuel false (.range cell.char cell.char :: spans) rest

/-- Parts of a pattern; fuel bounds their number. -/
def parts : Nat → List Cell → Pattern
  | 0, _ => []
  | _ + 1, [] => []
  | fuel + 1, ⟨c, true⟩ :: rest => .exactly c :: parts fuel rest
  | fuel + 1, ⟨'?', false⟩ :: rest => .any :: parts fuel rest
  | fuel + 1, ⟨'*', false⟩ :: rest => .many :: parts fuel rest
  | fuel + 1, ⟨'[', false⟩ :: rest =>
    let (negated, inner) := match rest with
      | ⟨'!', false⟩ :: inner => (true, inner)
      | inner => (false, inner)
    match takeSpans (inner.length + 1) true [] inner with
    | some (spans, rest) => .oneOf negated spans :: parts fuel rest
    | none => .exactly '[' :: parts fuel rest
  | fuel + 1, cell :: rest => .exactly cell.char :: parts fuel rest

/-- The pattern that cells write. -/
def ofCells (cells : List Cell) : Pattern :=
  parts (cells.length + 1) (resolveEscapes cells)

/-- The pattern that a text writes. -/
def ofText (text : List Char) : Pattern :=
  ofCells (text.map (⟨·, false⟩))

/-- Whether a pattern fits a whole text. -/
def fits : Pattern → List Char → Bool
  | [], text => text.isEmpty
  | .many :: pattern, [] => fits pattern []
  | .many :: pattern, c :: text => fits pattern (c :: text) || fits (.many :: pattern) text
  | _ :: _, [] => false
  | .any :: pattern, _ :: text => fits pattern text
  | .exactly expected :: pattern, c :: text => expected == c && fits pattern text
  | .oneOf negated spans :: pattern, c :: text =>
    (spans.any (·.contains c) != negated) && fits pattern text
  termination_by pattern text => pattern.length + text.length

/-- Whether a pattern leaves a choice. -/
def isOpen (pattern : Pattern) : Bool :=
  pattern.any fun
    | .exactly _ => false
    | _ => true

/-- What is left of a text after the shortest or longest part that fits a pattern is taken away at
its beginning or end. -/
def cut (pattern : Pattern) (atEnd longest : Bool) (text : List Char) : List Char :=
  let sizes := List.range (text.length + 1)
  let fitsAt (kept : Nat) : Bool :=
    if atEnd then fits pattern (text.drop kept) else fits pattern (text.take kept)
  let candidates := if atEnd = longest then sizes else sizes.reverse
  match candidates.find? fitsAt with
  | some size => if atEnd then text.take size else text.drop size
  | none => text

end Pattern

end RepoCatalog
