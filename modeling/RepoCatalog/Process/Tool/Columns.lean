import RepoCatalog.Process.Pattern
import RepoCatalog.Process.Tool.Text

/-!
# Characters and columns

Programs that replace characters, take columns out of lines, put them side by side, or change their
widths.
-/

namespace RepoCatalog.Tool

open Act

/-! ## Replacing characters -/

/-- An element of a set of characters. -/
inductive SetItem
  | characters (chars : Octets)
  | class (name : String) (chars : Octets)
  | filling (c : Char) (count : Nat)
  deriving DecidableEq, Repr

/-- Characters of all numbers. -/
def allBytes : Octets :=
  (List.range 256).map Char.ofNat

/-- A single character of a set, which may be escaped, with what follows it. -/
def takeSetChar : Octets → Option (Char × Octets)
  | [] => none
  | ['\\'] => some ('\\', [])
  | '\\' :: c :: rest =>
    if Escape.startsCode 8 (c :: rest) then some (Escape.takeCode 8 3 (c :: rest))
    else if c == 'e' then some (c, rest)
    else some ((Escape.letter? c).getD c, rest)
  | c :: rest => some (c, rest)

/-- Number of times that a character is repeated behind a star, with what follows the bracket. -/
def takeFilling? (text : Octets) : Option (Nat × Octets) :=
  let (digits, rest) := text.span Char.isDigit
  match rest with
  | ']' :: rest =>
    let base := if digits.head? = some '0' then 8 else 10
    some (digits.foldl (fun value c => base * value + (c.toNat - 48)) 0, rest)
  | _ => none

/-- Elements of a set, or why there is none; fuel bounds its length. -/
def setItems : Nat → Octets → Except Octets (List SetItem)
  | 0, _ => .ok []
  | _ + 1, [] => .ok []
  | fuel + 1, '[' :: ':' :: rest =>
    let name := rest.takeWhile (· != ':')
    match rest.drop name.length with
    | ':' :: ']' :: rest =>
      match characterClass? (String.ofList name) with
      | some test => do
        return .class (String.ofList name) (allBytes.filter test) :: (← setItems fuel rest)
      | none => .error ("invalid character class " ++ quoted name)
    | _ => do return .characters ['['] :: (← setItems fuel (':' :: rest))
  | fuel + 1, '[' :: '=' :: c :: '=' :: ']' :: rest => do
    return .characters [c] :: (← setItems fuel rest)
  | fuel + 1, '[' :: text =>
    let filling? := do
      let (c, rest) ← takeSetChar text
      let rest ← match rest with
        | '*' :: rest => some rest
        | _ => none
      let (count, rest) ← takeFilling? rest
      return (c, count, rest)
    match filling? with
    | some (c, count, rest) => do return .filling c count :: (← setItems fuel rest)
    | none => single fuel ('[' :: text)
  | fuel + 1, text => single fuel text
where
  /-- A single character or a range, with the elements behind it. -/
  single (fuel : Nat) (text : Octets) : Except Octets (List SetItem) :=
    match takeSetChar text with
    | none => .ok []
    | some (first, rest) =>
      match rest with
      | '-' :: after =>
        match takeSetChar after with
        | none => do return .characters [first] :: (← setItems fuel rest)
        | some (last, behind) =>
          if last < first then
            .error ("range-endpoints of " ++ quoted [first, '-', last]
              ++ " are in reverse collating sequence order")
          else do
            let codes := (List.range (last.toNat - first.toNat + 1)).map fun i =>
              Char.ofNat (first.toNat + i)
            return .characters codes :: (← setItems fuel behind)
      | rest => do return .characters [first] :: (← setItems fuel rest)

/-- Characters of a set; those without a number are repeated until it has a given size. -/
def setChars (size : Nat) (items : List SetItem) : Octets :=
  let fixed := (items.map fun
    | .characters chars | .class _ chars => chars.length
    | .filling _ count => count).foldl (· + ·) 0
  items.flatMap fun
    | .characters chars | .class _ chars => chars
    | .filling c count => List.replicate (if count = 0 then size - fixed else count) c

/-- Text in which characters that satisfy a test do not repeat. -/
def squeeze (test : Char → Bool) (text : Octets) : Octets :=
  (text.foldl (fun (kept : Octets) c =>
    if kept.head? = some c && test c then kept else c :: kept) []).reverse

/-- Replaces or takes away characters. -/
def tr : Tool := fun _ name arguments => do
  let (flags, sets) ← sort ⟨['d', 's', 'c', 'C', 't'], [],
    [("delete", 'd'), ("squeeze-repeats", 's'), ("complement", 'c'), ("truncate-set1", 't')], false⟩
    name 1 arguments
  let deletes := has flags 'd'
  let squeezes := has flags 's'
  let complement := has flags 'c' || has flags 'C'
  let exchanges := 2 ≤ sets.length && !deletes
  match sets with
  | [] => return ← missing name 1
  | [only] =>
    if deletes == squeezes then
      complain name ("missing operand after " ++ quoted only)
      say (if deletes then
        "Two strings must be given when both deleting and squeezing repeats." else
        "Two strings must be given when translating.")
      pointToHelp name
      return 1
    else pure ()
  | _ :: second :: rest =>
    match rest, deletes && !squeezes with
    | [], false => pure ()
    | third :: _, false => return ← extra name third 1
    | _, true =>
      complain name ("extra operand " ++ quoted second)
      say "Only one string may be given when deleting without squeezing repeats."
      pointToHelp name
      return 1
  let read (text : Octets) : Act (List SetItem) :=
    match setItems (text.length + 1) text with
    | .ok items => return items
    | .error message => do
      complain name message
      finish 1
  let first ← read (sets.head?.getD [])
  let given := setChars 0 first
  let chosen := if complement then allBytes.filter (!given.contains ·) else given
  let secondItems ← read ((sets.drop 1).head?.getD [])
  let second := setChars chosen.length secondItems
  if exchanges then
    if second.isEmpty && !has flags 't' && !chosen.isEmpty then
      complain name "when not truncating set1, string2 must be non-empty"
      finish 1
    let isOther : SetItem → Bool
      | .class name _ => name ≠ "upper" && name ≠ "lower"
      | _ => false
    if secondItems.any isOther then
      complain name
        ("when translating, the only character classes that may appear in\n"
          ++ "string2 are 'upper' and 'lower'")
      finish 1
  match ← readAll 0 with
  | .error fault =>
    complain name ("read error: " ++ Octets.ofString fault.reason)
    return 1
  | .ok text =>
    if deletes then
      let kept := text.filter fun c => !chosen.contains c
      write name (if squeezes then squeeze second.contains kept else kept)
    else if !exchanges then write name (squeeze chosen.contains text)
    else
      let sources := if has flags 't' then chosen.take second.length else chosen
      let last := second.getLast?.getD ' '
      let table := allBytes.map fun c =>
        match sources.reverse.findIdx? (· = c) with
        | some position => second[sources.length - 1 - position]?.getD last
        | none => c
      let replaced := text.map fun c => table[c.toNat]?.getD c
      write name (if squeezes then squeeze second.contains replaced else replaced)

/-! ## Taking columns -/

/-- Positions from a first to a last one; an open range has no last one. -/
structure Range where
  /-- First position. -/
  first : Nat
  /-- Last position, if there is one. -/
  last : Option Nat
  deriving DecidableEq, Repr

namespace Range

/-- Whether a position is in a range. -/
def contains (range : Range) (n : Nat) : Bool :=
  range.first ≤ n && range.last.all (n ≤ ·)

/-- The range that a text writes, or why there is none. -/
def ofText (fields : Bool) (text : Octets) : Except Octets Range :=
  let isNumber (text : Octets) : Bool := text.all Char.isDigit
  let what : Octets := if fields then "fields" else "byte/character positions"
  let bad : Except Octets Range :=
    .error (if fields then "invalid field value " ++ quoted text
      else "invalid byte/character position " ++ quoted text)
  match text.span (· != '-') with
  | (first, _ :: last) =>
    if !isNumber first then bad
    else if !isNumber last then .error (if fields then "invalid field range" else
      "invalid byte or character range")
    else if first.isEmpty && last.isEmpty then .error "invalid range with no endpoint: -"
    else
      let start := if first.isEmpty then 1 else Shell.number first
      if start = 0 then .error (what ++ " are numbered from 1")
      else if last.isEmpty then .ok ⟨start, none⟩
      else if Shell.number last < start then .error "invalid decreasing range"
      else .ok ⟨start, some (Shell.number last)⟩
  | (only, []) =>
    if only.isEmpty || Shell.number only = 0 && isNumber only then
      .error (what ++ " are numbered from 1")
    else if !isNumber only then bad
    else .ok ⟨Shell.number only, some (Shell.number only)⟩

/-- Ranges in order, those that overlap as one. -/
def merge (ranges : List Range) : List Range :=
  let sorted := ranges.mergeSort fun a b => a.first ≤ b.first
  (sorted.foldl (fun (merged : List Range) range =>
    match merged with
    | [] => [range]
    | before :: others =>
      if before.last.all (range.first ≤ ·) then
        let last := match before.last, range.last with
          | some a, some b => some (max a b)
          | _, _ => none
        ⟨before.first, last⟩ :: others
      else range :: merged) []).reverse

/-- Ranges between those of a list in order, from a position on. -/
def complement (start : Nat) : List Range → List Range
  | [] => [⟨start, none⟩]
  | range :: rest =>
    let before := if start < range.first then [⟨start, some (range.first - 1)⟩] else []
    match range.last with
    | none => before
    | some last => before ++ complement (last + 1) rest

end Range

/-- Takes parts of lines. -/
def cut : Tool := fun _ name arguments => do
  let (flags, paths) ← sort ⟨['s', 'n', 'z', 'C'], ['d', 'f', 'c', 'b', 'o'],
    [("delimiter", 'd'), ("fields", 'f'), ("characters", 'c'), ("bytes", 'b'),
      ("only-delimited", 's'), ("output-delimiter", 'o'), ("complement", 'C'),
      ("zero-terminated", 'z')], true⟩ name 1 arguments
  let lists := flags.filter fun flag => ['f', 'c', 'b'].contains flag.letter
  match lists with
  | [] => misuse name 1 "you must specify a list of bytes, characters, or fields"
  | _ :: _ :: _ => misuse name 1 "only one list may be specified"
  | [list] =>
    let fields := list.letter = 'f'
    let parts := (Text.split ',' list.argument).flatMap (Text.split ' ')
    let ranges ← match parts.mapM (Range.ofText fields) with
      | .ok ranges => pure ranges
      | .error message => misuse name 1 message
    if !fields && has flags 'd' then
      misuse name 1 "an input delimiter may be specified only when operating on fields"
    if !fields && has flags 's' then
      misuse name 1
        "suppressing non-delimited lines makes sense\n\tonly when operating on fields"
    let delimiter := argument? flags 'd'
    if delimiter.any (1 < ·.length) then
      misuse name 1 "the delimiter must be a single character"
    let merged := Range.merge ranges
    let wanted := if has flags 'C' then Range.complement 1 merged else merged
    let (contents, complete) ← readInputs name paths
    let ending := if has flags 'z' then '\x00' else '\n'
    let lines := contents.flatMap fun (_, text) =>
      (piecesAt ending text).map fun piece =>
        if piece.getLast? = some ending then piece.dropLast else piece
    let mark := match delimiter with
      | some [c] => c
      | some _ => '\x00'
      | none => '\t'
    let taken {α : Type} (parts : List α) (range : Range) : List α :=
      let behind := parts.drop (range.first - 1)
      match range.last with
      | none => behind
      | some last => behind.take (last + 1 - range.first)
    let shown := lines.filterMap fun line =>
      if !fields then
        some (Octets.join ((argument? flags 'o').getD [])
          ((wanted.map (taken line)).filter (!·.isEmpty)))
      else if line.contains mark then
        let parts := Text.split mark line
        some (Octets.join ((argument? flags 'o').getD [mark]) (wanted.flatMap (taken parts)))
      else if has flags 's' then none
      else some line
    let status ← write name (shown.flatMap fun line => line ++ [ending])
    return if complete then status else 1

/-! ## Side by side -/

/-- Marks that a list of delimiters writes; a mark may be nothing. -/
def pasteMarks : Octets → List Octets
  | '\\' :: c :: rest =>
    (match c with
      | '0' => []
      | c => [(Escape.letter? c).getD c]) :: pasteMarks rest
  | c :: rest => [c] :: pasteMarks rest
  | [] => []

/-- Texts one after the other with marks between them, which are used in turn. -/
def joinInTurn (marks : List Octets) (texts : List Octets) : Octets :=
  (texts.mapIdx fun i text =>
    (if i = 0 then [] else marks[(i - 1) % marks.length]?.getD []) ++ text).flatten

/-- Lines of several inputs side by side; fuel bounds their number. -/
def sideBySide (marks : List Octets) : Nat → List (List Octets) → List Octets
  | 0, _ => []
  | fuel + 1, columns =>
    if columns.all List.isEmpty then []
    else
      joinInTurn marks (columns.map fun lines => lines.head?.getD [])
        :: sideBySide marks fuel (columns.map (List.drop 1))

/-- Writes the lines of several inputs side by side, or all lines of an input in one. -/
def paste : Tool := fun _ name arguments => do
  let (flags, paths) ← sort ⟨['s', 'z'], ['d'],
    [("delimiters", 'd'), ("serial", 's'), ("zero-terminated", 'z')], true⟩ name 1 arguments
  let given := if paths.isEmpty then [['-']] else paths
  let marks := match pasteMarks ((argument? flags 'd').getD ['\t']) with
    | [] => [[]]
    | marks => marks
  let dashes := given.count ['-']
  let standard ← if dashes = 0 then pure [] else
    (return Octets.lines ((← readAll 0).toOption.getD []))
  -- Inputs that are read from the same place take turns.
  let mut columns := []
  let mut turn := 0
  for path in given do
    if path = ['-'] then
      let lines := if has flags 's' then (if turn = 0 then standard else []) else
        (standard.mapIdx fun i line => (i, line)).filterMap fun (i, line) =>
          if i % dashes = turn then some line else none
      columns := columns ++ [lines]
      turn := turn + 1
    else
      match ← readFile path with
      | .ok text => columns := columns ++ [Octets.lines text]
      | .error fault =>
        complain name (path ++ ": " ++ Octets.ofString fault.reason)
        finish 1
  if has flags 's' then
    write name (Octets.unlines (columns.map (joinInTurn marks)))
  else
    let most := (columns.map List.length).foldl max 0
    write name (Octets.unlines (sideBySide marks (most + 1) columns))

/-! ## Widths -/

/-- Column behind a character. -/
def columnBehind (bytes : Bool) (column : Nat) (c : Char) : Nat :=
  if bytes then column + 1
  else if c == '\t' then column + 8 - column % 8
  else if c == '\x08' then column - 1
  else if c == '\r' then 0
  else column + 1

/-- Lines of at most a width; with `atBlanks` they are broken behind blanks if possible. Fuel bounds
the number of breaks and characters. -/
def foldLine (bytes atBlanks : Bool) (width : Nat) : Nat → Octets → Nat → Octets → List Octets
  | 0, line, _, rest => [line.reverse ++ rest]
  | _ + 1, line, _, [] => [line.reverse]
  | fuel + 1, line, column, c :: rest =>
    let next := columnBehind bytes column c
    if next ≤ width || line.isEmpty then foldLine bytes atBlanks width fuel (c :: line) next rest
    else
      let isBlank (c : Char) : Bool := c == ' ' || c == '\t'
      let tail := line.takeWhile (!isBlank ·)
      if atBlanks && line.any isBlank then
        let kept := line.drop tail.length
        kept.reverse :: foldLine bytes atBlanks width fuel [] 0 (tail.reverse ++ c :: rest)
      else line.reverse :: foldLine bytes atBlanks width fuel [] 0 (c :: rest)

/-- Breaks long lines. -/
def fold : Tool := fun _ name arguments => do
  let arguments := arguments.map fun text => match text with
    | '-' :: c :: digits =>
      if (c :: digits).all Char.isDigit then '-' :: 'w' :: c :: digits else text
    | text => text
  let (flags, paths) ← sort ⟨['b', 's'], ['w'], [("bytes", 'b'), ("spaces", 's'), ("width", 'w')],
    true⟩ name 1 arguments
  let wanted := (argument? flags 'w').getD "80"
  match natural? wanted with
  | none | some 0 =>
    complain name ("invalid number of columns: " ++ quoted wanted)
    return 1
  | some width =>
    let (contents, complete) ← readInputs name paths
    let status ← write name (contents.flatMap fun (_, text) =>
      (markedLines text).flatMap fun line =>
        let ended := line.getLast? = some '\n'
        let body := if ended then line.dropLast else line
        let folded := foldLine (has flags 'b') (has flags 's') width
          (body.length * (body.length + 2) + 2) [] 0 body
        Octets.join ['\n'] folded ++ if ended then ['\n'] else [])
    return if complete then status else 1

/-- Next stop behind a column. -/
def nextStop (stops : List Nat) (column : Nat) : Nat :=
  match stops with
  | [] => column + 8 - column % 8
  | [size] => if size = 0 then column + 1 else column + size - column % size
  | stops => (stops.find? (column < ·)).getD (column + 1)

/-- Stops that a list writes. -/
def tabStops (flags : List Flag) : List Nat :=
  match argument? flags 't' with
  | none => []
  | some text => ((Text.split ',' text).flatMap (Text.split ' ')).filterMap natural?

/-- Writes tabs as blanks. -/
def expand : Tool := fun _ name arguments => do
  let (flags, paths) ← sort ⟨['i'], ['t'], [("initial", 'i'), ("tabs", 't')], true⟩ name 1 arguments
  let stops := tabStops flags
  let (contents, complete) ← readInputs name paths
  let expanded (text : Octets) : Octets :=
    let start : Octets × Nat × Bool := ([], 0, false)
    let (shown, _) := text.foldl (fun (shown, column, inside) c =>
      if c == '\t' && !(inside && has flags 'i') then
        let next := nextStop stops column
        (List.replicate (next - column) ' ' ++ shown, next, inside)
      else if c == '\n' then (c :: shown, 0, false)
      else if c == '\x08' then (c :: shown, column - 1, inside || c ≠ ' ')
      else (c :: shown, column + 1, inside || (c ≠ ' ' && c ≠ '\t'))) start
    shown.reverse
  let status ← write name (contents.flatMap fun (_, text) => expanded text)
  return if complete then status else 1

/-- Blanks from one column to another as tabs and what is left of them; a single blank before a stop
stays what it is. Fuel bounds their number. -/
def tabsBetween (stops : List Nat) (start target : Nat) : Nat → Nat → Octets
  | 0, _ => []
  | fuel + 1, column =>
    let next := nextStop stops column
    if target < next then List.replicate (target - column) ' '
    else if next = column + 1 && column = start && next = target then [' ']
    else '\t' :: tabsBetween stops start target fuel next

/-- A line in which blanks are written as tabs; fuel bounds the number of runs of blanks. -/
def shortenBlanks (stops : List Nat) (everywhere : Bool) : Nat → Nat → Octets → Octets
  | 0, _, line => line
  | _ + 1, _, [] => []
  | fuel + 1, start, line =>
    let isBlank (c : Char) : Bool := c == ' ' || c == '\t'
    let (blanks, rest) := line.span isBlank
    let column := blanks.foldl (fun column c =>
      if c == '\t' then nextStop stops column else column + 1) start
    let (text, behind) := rest.span (!isBlank ·)
    let shown := if blanks.isEmpty then [] else
      tabsBetween stops start column (column + 1) start
    shown ++ text ++ if everywhere then
      shortenBlanks stops everywhere fuel (column + text.length) behind else behind

/-- Writes blanks as tabs where that is possible. -/
def unexpand : Tool := fun _ name arguments => do
  let (flags, paths) ← sort ⟨['a', 'f'], ['t'],
    [("all", 'a'), ("tabs", 't'), ("first-only", 'f')], true⟩ name 1 arguments
  let stops := tabStops flags
  let everywhere := (has flags 'a' || has flags 't') && !has flags 'f'
  let (contents, complete) ← readInputs name paths
  let shorten (text : Octets) : Octets :=
    (markedLines text).flatMap fun line =>
      let body := Text.dropEndWhile (· == '\n') line
      shortenBlanks stops everywhere (body.length + 1) 0 body ++ line.drop body.length
  let status ← write name (contents.flatMap fun (_, text) => shorten text)
  return if complete then status else 1

end RepoCatalog.Tool
