import RepoCatalog.Process.Pattern

/-!
# Regular expressions

Basic and extended regular expressions. Of all matches that begin first, the longest counts; among
equally long ones, earlier repetitions and alternatives take as much as they can.
-/

namespace RepoCatalog

/-- Places that match without a character. -/
inductive Anchor
  | lineStart
  | lineEnd
  | wordStart
  | wordEnd
  | wordEdge
  | noWordEdge
  | freeBefore
  | freeBehind
  deriving DecidableEq, Repr

/-- A regular expression. -/
inductive Regex
  | nothing
  | one (accepts : Bool) (spans : List Span)
  | anchor (anchor : Anchor)
  | group (number : Nat) (inner : Regex)
  | again (number : Nat)
  | sequence (first second : Regex)
  | either (first second : Regex)
  | repeated (least : Nat) (most : Option Nat) (inner : Regex)

namespace Regex

/-- An expression for one character. -/
def exactly (c : Char) : Regex :=
  .one true [.range c c]

/-- An expression for any character. -/
def any : Regex :=
  .one false []

/-- Whether a character belongs to a word. -/
def inWord (c : Char) : Bool :=
  c.isAlphanum || c == '_'

/-- Characters of words, as a set. -/
def wordSpans : List Span :=
  [.named "alnum", .range '_' '_']

/-! ## Reading -/

/-- What is still to be read, and how many groups were opened. -/
structure Reading where
  /-- Text that was not read. -/
  rest : Octets
  /-- Number of groups so far. -/
  groups : Nat

/-- A set up to its closing bracket, with what follows it; fuel bounds its length. -/
def takeSpans : Nat → Bool → List Span → Octets → Option (List Span × Octets)
  | 0, _, _, _ => none
  | _ + 1, _, _, [] => none
  | fuel + 1, isFirst, spans, c :: rest =>
    if c == ']' && !isFirst then some (spans.reverse, rest)
    else
      match c, rest with
      | '[', ':' :: inner =>
        match takeClass? inner with
        | some (name, rest) => takeSpans fuel false (.named name :: spans) rest
        | none => none
      | c, '-' :: last :: behind =>
        if last == ']' then takeSpans fuel false (.range c c :: spans) rest
        else takeSpans fuel false (.range c last :: spans) behind
      | c, rest => takeSpans fuel false (.range c c :: spans) rest

/-- A set after its opening bracket, with what follows it. -/
def takeSet (text : Octets) : Option (Regex × Octets) :=
  let (accepts, inner) := match text with
    | '^' :: inner => (false, inner)
    | inner => (true, inner)
  (takeSpans (inner.length + 1) true [] inner).map fun (spans, rest) => (.one accepts spans, rest)

/-- Bounds of a repetition after the opening brace, with what follows the closing one. -/
def takeBounds (extended : Bool) (text : Octets) : Option ((Nat × Option Nat) × Octets) :=
  let value (digits : Octets) : Nat :=
    digits.foldl (fun value c => 10 * value + (c.toNat - 48)) 0
  let close (bounds : Nat × Option Nat) (rest : Octets) : Option ((Nat × Option Nat) × Octets) :=
    match extended, rest with
    | true, '\x7d' :: rest => some (bounds, rest)
    | false, '\\' :: '\x7d' :: rest => some (bounds, rest)
    | _, _ => none
  let (least, rest) := text.span Char.isDigit
  match rest with
  | ',' :: rest =>
    let (most, rest) := rest.span Char.isDigit
    close (value least, if most.isEmpty then none else some (value most)) rest
  | rest => if least.isEmpty then none else close (value least, some (value least)) rest

/-- Bounds of a repetition at the beginning of a text, with what follows it. -/
def takeRepetition (extended : Bool) (text : Octets) : Option ((Nat × Option Nat) × Octets) :=
  match extended, text with
  | _, '*' :: rest => some ((0, none), rest)
  | true, '+' :: rest => some ((1, none), rest)
  | true, '?' :: rest => some ((0, some 1), rest)
  | true, '\x7b' :: rest => takeBounds true rest
  | false, '\\' :: '+' :: rest => some ((1, none), rest)
  | false, '\\' :: '?' :: rest => some ((0, some 1), rest)
  | false, '\\' :: '\x7b' :: rest => takeBounds false rest
  | _, _ => none

/-- An expression with the repetitions behind it; fuel bounds their number. -/
def takeRepetitions (extended : Bool) : Nat → Regex → Octets → Regex × Octets
  | 0, inner, text => (inner, text)
  | fuel + 1, inner, text =>
    match takeRepetition extended text with
    | some ((least, most), rest) => takeRepetitions extended fuel (.repeated least most inner) rest
    | none => (inner, text)

/-- Text behind an operator that divides alternatives. -/
def afterBar? (extended : Bool) (text : Octets) : Option Octets :=
  match extended, text with
  | true, '|' :: rest => some rest
  | false, '\\' :: '|' :: rest => some rest
  | _, _ => none

/-- Text behind a mark that ends a group. -/
def afterGroup? (extended : Bool) (text : Octets) : Option Octets :=
  match extended, text with
  | true, ')' :: rest => some rest
  | false, '\\' :: ')' :: rest => some rest
  | _, _ => none

/-- Text behind a mark that begins a group. -/
def beforeGroup? (extended : Bool) (text : Octets) : Option Octets :=
  match extended, text with
  | true, '(' :: rest => some rest
  | false, '\\' :: '(' :: rest => some rest
  | _, _ => none

/-- What a character behind a backslash stands for. -/
def escaped (c : Char) : Regex :=
  match c with
  | 'w' => .one true wordSpans
  | 'W' => .one false wordSpans
  | 's' => .one true [.named "space"]
  | 'S' => .one false [.named "space"]
  | 'b' => .anchor .wordEdge
  | 'B' => .anchor .noWordEdge
  | '<' => .anchor .wordStart
  | '>' => .anchor .wordEnd
  | 'n' => exactly '\n'
  | 't' => exactly '\t'
  | c => if '1' ≤ c && c ≤ '9' then .again (c.toNat - 48) else exactly c

mutual

/-- Reads alternatives. -/
def readEither (extended : Bool) : Nat → Bool → Reading → Option (Regex × Reading)
  | 0, _, _ => none
  | fuel + 1, inGroup, reading => do
    let (first, reading) ← readSequence extended fuel inGroup true .nothing reading
    match afterBar? extended reading.rest with
    | some rest =>
      let (second, reading) ← readEither extended fuel inGroup { reading with rest := rest }
      return (.either first second, reading)
    | none => return (first, reading)

/-- Reads expressions one after the other, after those that were read. -/
def readSequence (extended : Bool) :
    Nat → Bool → Bool → Regex → Reading → Option (Regex × Reading)
  | 0, _, _, _, _ => none
  | fuel + 1, inGroup, isFirst, before, reading => do
    let text := reading.rest
    if text.isEmpty || (afterBar? extended text).isSome
        || (inGroup && (afterGroup? extended text).isSome) then
      return (before, reading)
    else
      let (inner, reading) ← readOne extended fuel inGroup isFirst reading
      let isAnchor := match inner with
        | .anchor .lineStart => true
        | _ => false
      let (inner, rest) :=
        if isAnchor && !extended then (inner, reading.rest)
        else takeRepetitions extended (reading.rest.length + 1) inner reading.rest
      readSequence extended fuel inGroup (isFirst && isAnchor && !extended) (.sequence before inner)
        { reading with rest := rest }

/-- Reads an expression for one character, a place or a group. -/
def readOne (extended : Bool) : Nat → Bool → Bool → Reading → Option (Regex × Reading)
  | 0, _, _, _ => none
  | fuel + 1, inGroup, isFirst, reading => do
    match beforeGroup? extended reading.rest with
    | some rest =>
      let number := reading.groups + 1
      let (inner, reading) ← readEither extended fuel true ⟨rest, number⟩
      let rest ← afterGroup? extended reading.rest
      return (.group number inner, { reading with rest := rest })
    | none =>
      let goOn (inner : Regex) (rest : Octets) : Option (Regex × Reading) :=
        some (inner, { reading with rest := rest })
      match reading.rest with
      | [] => none
      | '[' :: rest => do
        let (set, rest) ← takeSet rest
        goOn set rest
      | '.' :: rest => goOn any rest
      | '^' :: rest =>
        if extended || isFirst then goOn (.anchor .lineStart) rest else goOn (exactly '^') rest
      | '$' :: rest =>
        let ends := rest.isEmpty || (afterBar? extended rest).isSome
          || (inGroup && (afterGroup? extended rest).isSome)
        if extended || ends then goOn (.anchor .lineEnd) rest else goOn (exactly '$') rest
      | '\\' :: c :: rest => if !extended && c == ')' then none else goOn (escaped c) rest
      | '\\' :: [] => none
      | c :: rest => if extended && c == ')' then none else goOn (exactly c) rest

end

/-- The expression that a text writes, basic or extended. -/
def ofText? (extended : Bool) (text : Octets) : Option Regex :=
  match readEither extended (8 * (text.length + 2)) false ⟨text, 0⟩ with
  | some (expression, ⟨[], _⟩) => some expression
  | _ => none

/-- Words on what is wrong with a text that writes no expression. -/
def complaint (extended : Bool) (text : Octets) : Octets :=
  -- How many groups are open, or none behind one that was not.
  let rec depth : Nat → Octets → Option Nat
    | begun, [] => some begun
    | begun, '\\' :: c :: rest =>
      if extended then depth begun rest
      else if c == '(' then depth (begun + 1) rest
      else if c == ')' then (if begun = 0 then none else depth (begun - 1) rest)
      else depth begun rest
    | begun, c :: rest =>
      if extended && c == '(' then depth (begun + 1) rest
      else if extended && c == ')' then (if begun = 0 then none else depth (begun - 1) rest)
      else depth begun rest
  let backslashes := (text.reverse.takeWhile (· == '\\')).length
  if backslashes % 2 = 1 then "Trailing backslash"
  else
    match depth 0 text with
    | none => "Unmatched ) or \\)"
    | some 0 =>
      if text.contains '[' then "Unmatched [, [^, [:, [., or [="
      else "Invalid preceding regular expression"
    | some _ => "Unmatched ( or \\("

/-! ## Matching -/

/-- A place in a text, with the groups that were matched. -/
structure Place where
  /-- Character before the place. -/
  before : Option Char
  /-- Number of characters taken. -/
  taken : Nat
  /-- Text behind the place. -/
  rest : Octets
  /-- Texts of groups. -/
  groups : List (Nat × Octets)
  deriving DecidableEq, Repr

/-- Whether an anchor holds at a place. -/
def holds (place : Place) (anchor : Anchor) : Bool :=
  let before := place.before.any inWord
  let behind := place.rest.head?.any inWord
  match anchor with
  | .lineStart => place.before.isNone
  | .lineEnd => place.rest.isEmpty
  | .wordStart => !before && behind
  | .wordEnd => before && !behind
  | .wordEdge => before != behind
  | .noWordEdge => before == behind
  | .freeBefore => !before
  | .freeBehind => !behind

/-- Place after some characters. -/
def Place.advance (place : Place) (count : Nat) : Place :=
  if count = 0 then place
  else
    { place with
      before := place.rest[count - 1]?, taken := place.taken + count
      rest := place.rest.drop count }

/-- Repeats a step, as often as possible first; fuel bounds the number of repetitions. -/
def repeatStep (step : Place → List Place) (least : Nat) (most : Option Nat) :
    Nat → Nat → Place → List Place
  | 0, _, place => [place]
  | fuel + 1, count, place =>
    let more :=
      if most.all (count < ·) then
        (step place).flatMap fun next =>
          if next.taken = place.taken && least ≤ count then []
          else repeatStep step least most fuel (count + 1) next
      else []
    more ++ if least ≤ count then [place] else []

/-- Places at which a match may end, in order of preference; `folds` says that upper and lower case
count as equal. -/
def ends (folds : Bool) : Regex → Place → List Place
  | .nothing, place => [place]
  | .one accepts spans, place =>
    match place.rest with
    | [] => []
    | c :: _ =>
      let contains (c : Char) : Bool := spans.any (·.contains c)
      let found := contains c || (folds && (contains c.toLower || contains c.toUpper))
      if found == accepts then [place.advance 1] else []
  | .anchor wanted, place => if holds place wanted then [place] else []
  | .group number inner, place =>
    (ends folds inner place).map fun next =>
      let text := place.rest.take (next.taken - place.taken)
      { next with groups := (number, text) :: next.groups.filter (·.1 ≠ number) }
  | .again number, place =>
    match place.groups.lookup number with
    | some text => if text.isPrefixOf place.rest then [place.advance text.length] else []
    | none => []
  | .sequence first second, place => (ends folds first place).flatMap (ends folds second)
  | .either first second, place => ends folds first place ++ ends folds second place
  | .repeated least most inner, place =>
    repeatStep (ends folds inner) least most (place.rest.length + least + 1) 0 place

/-- Longest of several ends, the first of equally long ones. -/
def longest (places : List Place) : Option Place :=
  places.foldl (fun best place =>
    match best with
    | none => some place
    | some found => if found.taken < place.taken then some place else some found) none

/-- The match that begins at a place. -/
def matchAt? (folds : Bool) (expression : Regex) (place : Place) : Option Place :=
  longest (ends folds expression place)

/-- A match within a text. -/
structure Match where
  /-- Text before it. -/
  before : Octets
  /-- Its text. -/
  text : Octets
  /-- Text behind it. -/
  behind : Octets
  /-- Texts of groups. -/
  groups : List (Nat × Octets)
  deriving DecidableEq, Repr

/-- First match at or after a place, given the text passed over, reversed; fuel bounds the text. -/
def search (folds : Bool) (expression : Regex) : Nat → Octets → Option Char → Octets → Option Match
  | 0, _, _, _ => none
  | fuel + 1, passed, before, text =>
    match matchAt? folds expression ⟨before, 0, text, []⟩ with
    | some found =>
      some ⟨passed.reverse, text.take found.taken, text.drop found.taken, found.groups⟩
    | none =>
      match text with
      | [] => none
      | c :: rest => search folds expression fuel (c :: passed) (some c) rest

/-- First match within a text. -/
def find? (folds : Bool) (expression : Regex) (text : Octets) : Option Match :=
  search folds expression (text.length + 1) [] none text

/-- An expression for a fixed text. -/
def ofFixed (text : Octets) : Regex :=
  text.foldl (fun before c => .sequence before (exactly c)) .nothing

end Regex

end RepoCatalog
