import RepoCatalog.Process.Tool.Basic

/-!
# Tools for lines in order

Programs that bring lines into an order, or that rely on one: lines are compared by keys, each with
a way of its own, and as a whole if all keys are equal.
-/

namespace RepoCatalog.Tool

open Act

/-! ## Comparing texts -/

/-- A number that a text begins with: its sign, its digits, and how many of them are places. -/
structure Decimal where
  /-- Whether it is below zero. -/
  isNegative : Bool
  /-- Its digits as a whole number. -/
  digits : Nat
  /-- How many digits stand behind the point. -/
  places : Nat

/-- A number that a text begins with, and what follows it. -/
def takeDecimal (text : Octets) : Decimal × Octets :=
  let (isNegative, rest) := match text with
    | '-' :: rest => (true, rest)
    | rest => (false, rest)
  let (whole, rest) := rest.span Char.isDigit
  let (part, rest) := match rest with
    | '.' :: rest => rest.span Char.isDigit
    | rest => ([], rest)
  (⟨isNegative, Shell.number (whole ++ part), part.length⟩, rest)

/-- Compares sizes of numbers. -/
def Decimal.compareSizes (first second : Decimal) : Ordering :=
  compare (first.digits * Nat.pow 10 second.places) (second.digits * Nat.pow 10 first.places)

/-- Compares numbers. -/
def Decimal.compare (first second : Decimal) : Ordering :=
  let isBelow (number : Decimal) : Bool := number.isNegative && number.digits ≠ 0
  match isBelow first, isBelow second with
  | true, false => .lt
  | false, true => .gt
  | true, true => second.compareSizes first
  | false, false => first.compareSizes second

/-- Compares texts byte by byte. -/
def compareBytes (first second : Octets) : Ordering :=
  if first = second then .eq else if Octets.isBefore first second then .lt else .gt

/-- Whether a character is blank. -/
def isBlank (c : Char) : Bool :=
  c == ' ' || c == '\t' || c == '\n'

/-- Compares texts by the numbers that they begin with. -/
def compareNumbers (first second : Octets) : Ordering :=
  let number (text : Octets) : Decimal := (takeDecimal (text.dropWhile isBlank)).1
  (number first).compare (number second)

/-- Compares texts by the numbers with units of size that they begin with. -/
def compareSizes (first second : Octets) : Ordering :=
  let units : List Char := ['K', 'M', 'G', 'T', 'P', 'E', 'Z', 'Y']
  let parse (text : Octets) : Decimal × Nat :=
    let (number, rest) := takeDecimal (text.dropWhile isBlank)
    let unit := rest.head?.bind fun c => if c == 'k' then some 0 else units.findIdx? (· = c)
    (number, (unit.map (· + 1)).getD 0)
  let (a, unit) := parse first
  let (b, other) := parse second
  let rank (number : Decimal) (unit : Nat) : Int :=
    if number.digits = 0 then 0 else if number.isNegative then -(unit + 1) else unit + 1
  (Ord.compare (rank a unit) (rank b other)).then (a.compare b)

/-- Compares texts by the numbers that they begin with, perhaps with powers of ten; texts without
numbers come first. -/
def compareGeneral (first second : Octets) : Ordering :=
  let parse (text : Octets) : Option Decimal :=
    let text := text.dropWhile isBlank
    let text := if text.head? = some '+' then text.drop 1 else text
    let (number, rest) := takeDecimal text
    if !text.any Char.isDigit || !((text.head?.any Char.isDigit) || text.head? = some '-'
        || text.head? = some '.') then none
    else
      let power : Int := match rest with
        | e :: '-' :: digits =>
          if e == 'e' || e == 'E' then -(Shell.number (digits.takeWhile Char.isDigit) : Int) else 0
        | e :: '+' :: digits =>
          if e == 'e' || e == 'E' then (Shell.number (digits.takeWhile Char.isDigit) : Int) else 0
        | e :: digits =>
          if e == 'e' || e == 'E' then (Shell.number (digits.takeWhile Char.isDigit) : Int) else 0
        | [] => 0
      let power := if power < -400 then -400 else if 400 < power then 400 else power
      some (if power < 0 then { number with places := number.places + power.natAbs }
        else { number with digits := number.digits * Nat.pow 10 power.natAbs })
  match parse first, parse second with
  | none, none => .eq
  | none, some _ => .lt
  | some _, none => .gt
  | some a, some b => a.compare b

/-- Number of a month by its first letters. -/
def monthOf (text : Octets) : Nat :=
  let months : List String := ["JAN", "FEB", "MAR", "APR", "MAY", "JUN", "JUL", "AUG", "SEP", "OCT",
    "NOV", "DEC"]
  let name := ((text.dropWhile isBlank).take 3).map Char.toUpper
  ((months.findIdx? fun month => month.toList == name).map (· + 1)).getD 0

/-- Rank of a character among those that are no digits, in the names of versions. -/
def versionRank (c : Char) : Int :=
  if c == '~' then -1 else if c.isAlpha then c.toNat else c.toNat + 256

/-- Compares names of versions, in which numbers count as numbers; fuel bounds how many. -/
def compareParts : Nat → Octets → Octets → Ordering
  | 0, _, _ => .eq
  | fuel + 1, first, second =>
    let isText (c : Char) : Bool := !c.isDigit
    let (a, restA) := first.span isText
    let (b, restB) := second.span isText
    let rank (text : Octets) (i : Nat) : Int := (text[i]?.map versionRank).getD 0
    let positions := List.range (max a.length b.length)
    let texts := positions.foldl (fun order i => order.then (Ord.compare (rank a i) (rank b i)))
      Ordering.eq
    let (m, restA) := restA.span Char.isDigit
    let (n, restB) := restB.span Char.isDigit
    let order := texts.then (Ord.compare (Shell.number m) (Shell.number n))
    if restA.isEmpty && restB.isEmpty then order else order.then (compareParts fuel restA restB)

/-- Name of a version without what marks a kind of file at its end. -/
def withoutEnding (text : Octets) : Octets :=
  let parts := Text.split '.' text
  let isEnding (part : Octets) : Bool :=
    part.head?.any (fun c => c.isAlpha || c == '~') && part.all fun c => c.isAlphanum || c == '~'
  let endings := (parts.drop 1).reverse.takeWhile isEnding
  Octets.join ['.'] (parts.take (parts.length - endings.length))

/-- Compares names of versions. -/
def compareVersions (first second : Octets) : Ordering :=
  let size := first.length + second.length + 1
  if first = second then .eq
  else
    (Ord.compare (!first.isEmpty) (!second.isEmpty)).then
      ((Ord.compare (first.head? != some '.') (second.head? != some '.')).then
        ((compareParts size (withoutEnding first) (withoutEnding second)).then
          (compareParts size first second)))

/-! ## Keys -/

/-- Place in a line: number of a field, and of a character within it. -/
structure FieldPlace where
  /-- Number of the field. -/
  field : Nat
  /-- Number of the character; zero stands for the end of the field. -/
  character : Nat
  /-- Letters that tell how the key is compared. -/
  letters : Octets

/-- Part of lines that they are compared by. -/
structure Key where
  /-- Where it begins. -/
  first : FieldPlace
  /-- Where it ends; none for the end of the line. -/
  last : Option FieldPlace

/-- Place that a text names. -/
def fieldPlace? (standard : Nat) (text : Octets) : Option FieldPlace :=
  let (field, rest) := text.span Char.isDigit
  let (character, rest) := match rest with
    | '.' :: rest => rest.span Char.isDigit
    | rest => ([], rest)
  let known := ['b', 'd', 'f', 'g', 'h', 'i', 'M', 'n', 'R', 'r', 'V']
  if field.isEmpty || Shell.number field = 0 || !rest.all known.contains then none
  else some ⟨Shell.number field,
    if character.isEmpty then standard else Shell.number character, rest⟩

/-- Key that a text names. -/
def key? (text : Octets) : Option Key :=
  match text.span (· != ',') with
  | (first, _ :: last) => do return ⟨← fieldPlace? 1 first, some (← fieldPlace? 0 last)⟩
  | (first, []) => do return ⟨← fieldPlace? 1 first, none⟩

/-- Lengths of the fields of a line. Without a separator, blanks in front of a field belong to
it. -/
def fieldLengths (separator : Option Char) (line : Octets) : List Nat :=
  match separator with
  | some c => (Text.split c line).map List.length
  | none => go (line.length + 1) line
where
  go : Nat → Octets → List Nat
    | 0, _ => []
    | fuel + 1, line =>
      let blanks := line.takeWhile isBlank
      let word := (line.drop blanks.length).takeWhile (!isBlank ·)
      let size := blanks.length + word.length
      if size = 0 then [] else size :: go fuel (line.drop size)

/-- Position in a line where a field begins. -/
def fieldStart (separator : Option Char) (lengths : List Nat) (field : Nat) (line : Octets) : Nat :=
  let gap := if separator.isSome then 1 else 0
  min line.length ((lengths.take (field - 1)).foldl (· + ·) 0 + gap * (field - 1))

/-- Number of blanks at a position of a line. -/
def blanksAt (line : Octets) (position : Nat) : Nat :=
  ((line.drop position).takeWhile isBlank).length

/-- Text of a key. -/
def Key.text (separator : Option Char) (skipsFirst skipsLast : Bool) (key : Key) (line : Octets) :
    Octets :=
  let lengths := fieldLengths separator line
  let start := fieldStart separator lengths key.first.field line
  let start := if skipsFirst then start + blanksAt line start else start
  let start := min line.length (start + (key.first.character - 1))
  let stop := match key.last with
    | none => line.length
    | some last =>
      if last.character = 0 then
        let next := fieldStart separator lengths (last.field + 1) line
        if separator.isSome && last.field < lengths.length then next - 1 else next
      else
        let start := fieldStart separator lengths last.field line
        let start := if skipsLast then start + blanksAt line start else start
        min line.length (start + last.character)
  (line.take stop).drop start

/-- Compares texts in the way that letters tell. -/
def compareBy (letters : Octets) (first second : Octets) : Ordering :=
  let has (letter : Char) : Bool := letters.contains letter
  let order :=
    if has 'n' then compareNumbers first second
    else if has 'g' then compareGeneral first second
    else if has 'h' then compareSizes first second
    else if has 'M' then Ord.compare (monthOf first) (monthOf second)
    else
      let kept (text : Octets) : Octets :=
        let text := if has 'd' then text.filter fun c => c.isAlphanum || isBlank c else text
        let text := if has 'i' then text.filter fun c => ' ' ≤ c && c ≤ '~' else text
        if has 'f' then text.map Char.toUpper else text
      if has 'V' then compareVersions (kept first) (kept second)
      else compareBytes (kept first) (kept second)
  if has 'r' then order.swap else order

/-- Compares lines by their keys. Letters given for all keys hold for those that have none. -/
def compareKeys (separator : Option Char) (letters : Octets) (keys : List Key)
    (first second : Octets) : Ordering :=
  if keys.isEmpty then
    let kept (line : Octets) : Octets :=
      if letters.contains 'b' then line.dropWhile isBlank else line
    compareBy letters (kept first) (kept second)
  else
    keys.foldl (fun order key =>
      let own := key.first.letters ++ (key.last.map (·.letters)).getD []
      let letters := if own.isEmpty then letters else own
      let skipsFirst := key.first.letters.contains 'b' || (own.isEmpty && letters.contains 'b')
      let skipsLast := (key.last.any (·.letters.contains 'b'))
        || (own.isEmpty && letters.contains 'b')
      let text := key.text separator skipsFirst skipsLast
      order.then (compareBy letters (text first) (text second))) Ordering.eq

/-! ## Sorting -/

/-- Sorts lines. -/
def sortLines : Tool := fun _ name arguments => do
  let (flags, paths) ← sort
    ⟨['r', 'n', 'u', 'f', 'b', 'd', 's', 'c', 'C', 'g', 'V', 'h', 'z', 'i', 'M', 'm', 'R'],
    ['k', 't', 'o', 'S', 'T'],
    [("reverse", 'r'), ("numeric-sort", 'n'), ("unique", 'u'), ("key", 'k'), ("output", 'o'),
      ("field-separator", 't'), ("ignore-case", 'f'), ("ignore-leading-blanks", 'b'),
      ("dictionary-order", 'd'), ("general-numeric-sort", 'g'), ("human-numeric-sort", 'h'),
      ("ignore-nonprinting", 'i'), ("month-sort", 'M'), ("version-sort", 'V'), ("check", 'c'),
      ("merge", 'm'), ("stable", 's'), ("zero-terminated", 'z')], true⟩ name 2 arguments
  let texts := (flags.filter (·.letter = 'k')).map (·.argument)
  let keys ← texts.mapM fun text => do
    match key? text with
    | some key => pure key
    | none =>
      complain name ("invalid field specification '" ++ text ++ "'")
      finish 2
  let separator ← match argument? flags 't' with
    | none => pure none
    | some [c] => pure (some c)
    | some ['\\', '0'] => pure (some '\x00')
    | some [] => do
      complain name "empty tab"
      finish 2
    | some text => do
      complain name ("multi-character tab '" ++ text ++ "'")
      finish 2
  let paths := if paths.isEmpty then [['-']] else paths
  let contents ← paths.mapM fun path => do
    match ← readInput path with
    | .ok text => pure text
    | .error fault =>
      let what : Octets := if fault = .isDirectory then "read failed: " else "cannot read: "
      complain name (what ++ path ++ ": " ++ Octets.ofString fault.reason)
      finish 2
  let mark := if has flags 'z' then '\x00' else '\n'
  let lines := contents.flatMap (Octets.pieces mark)
  let letters := (flags.map (·.letter)).filter
    ['b', 'd', 'f', 'g', 'h', 'i', 'M', 'n', 'r', 'V'].contains
  let byKeys := compareKeys separator letters keys
  let isLoose := has flags 's' || has flags 'u'
  let order (first second : Octets) : Ordering :=
    let whole := compareBytes first second
    (byKeys first second).then
      (if isLoose then .eq else if has flags 'r' then whole.swap else whole)
  if has flags 'c' || has flags 'C' then
    let isDisorder (first second : Octets) : Bool :=
      order first second = .gt || (has flags 'u' && order first second = .eq)
    let pairs := (lines.zip (lines.drop 1)).mapIdx fun i pair => (i, pair)
    match pairs.find? fun (_, first, second) => isDisorder first second with
    | none => return 0
    | some (i, _, second) =>
      if has flags 'c' then
        let path := paths.head?.getD []
        complain name (path ++ ":" ++ Octets.ofNat (i + 2) ++ ": disorder: " ++ second)
      return 1
  else
    let sorted := lines.mergeSort fun first second => (order first second).isLE
    let kept := if !has flags 'u' then sorted else
      (sorted.foldl (fun (kept : List Octets) line =>
        match kept with
        | previous :: _ => if order previous line = .eq then kept else line :: kept
        | [] => [line]) []).reverse
    let output := kept.flatMap (· ++ [mark])
    match argument? flags 'o' with
    | none =>
      let status ← write name output
      return if status = 0 then 0 else 2
    | some path =>
      match ← openStream .write false path with
      | .error fault =>
        complain name ("open failed: " ++ path ++ ": " ++ Octets.ofString fault.reason)
        return 2
      | .ok stream =>
        let _ ← writeStream stream output
        return 0

/-! ## Lines that follow each other -/

/-- Runs of lines that count as equal, each at least one line. -/
def runs (same : Octets → Octets → Bool) (lines : List Octets) : List (List Octets) :=
  (lines.foldl (fun (found : List (List Octets)) line =>
    match found with
    | (previous :: run) :: others =>
      if same previous line then (line :: previous :: run) :: others else [line] :: found
    | _ => [line] :: found) []).reverse.map List.reverse

/-- Leaves out lines that repeat the one before. -/
def uniq : Tool := fun _ name arguments => do
  let (flags, paths) ← sort ⟨['c', 'd', 'u', 'i', 'D', 'z'], ['f', 's', 'w'],
    [("count", 'c'), ("repeated", 'd'), ("unique", 'u'), ("ignore-case", 'i'), ("skip-fields", 'f'),
      ("skip-chars", 's'), ("check-chars", 'w'), ("zero-terminated", 'z')], true⟩ name 1 arguments
  match paths with
  | _ :: _ :: third :: _ => return ← extra name third 1
  | _ => pure ()
  let size (letter : Char) (what : Octets) : Act (Option Nat) := do
    match argument? flags letter with
    | none => return none
    | some text =>
      match natural? text with
      | some n => return some n
      | none =>
        complain name (text ++ ": invalid number of " ++ what)
        finish 1
  let fields := (← size 'f' "fields to skip").getD 0
  let characters := (← size 's' "bytes to skip").getD 0
  let width ← size 'w' "bytes to compare"
  let (contents, complete) ← readInputs name (paths.take 1)
  let rec skipFields : Nat → Octets → Octets
    | 0, line => line
    | n + 1, line => skipFields n ((line.dropWhile isBlank).dropWhile (!isBlank ·))
  let compared (line : Octets) : Octets :=
    let line := (skipFields fields line).drop characters
    let line := match width with
      | some width => line.take width
      | none => line
    if has flags 'i' then line.map Char.toLower else line
  let mark := if has flags 'z' then '\x00' else '\n'
  let found := runs (fun first second => compared first = compared second)
    (contents.flatMap fun (_, text) => Octets.pieces mark text)
  let kept := found.filter fun run =>
    (!(has flags 'd' || has flags 'D') || 1 < run.length) && (!has flags 'u' || run.length = 1)
  let shown := kept.flatMap fun run =>
    if has flags 'D' then run
    else
      let line := run.head?.getD []
      if has flags 'c' then [Octets.padLeft 7 (Octets.ofNat run.length) ++ ' ' :: line] else [line]
  let output := shown.flatMap (· ++ [mark])
  match paths.drop 1 with
  | path :: _ =>
    match ← openStream .write false path with
    | .ok stream =>
      let _ ← writeStream stream output
      return if complete then 0 else 1
    | .error fault =>
      complain name (path ++ ": " ++ Octets.ofString fault.reason)
      return 1
  | [] =>
    let status ← write name output
    return if complete then status else 1

/-- Two files that have to be given, and their lines. -/
def twoInputs (name : Octets) (paths : List Octets) : Act (List Octets × List Octets) := do
  match paths with
  | [] => misuse name 1 "missing operand"
  | [only] => misuse name 1 ("missing operand after '" ++ only ++ "'")
  | first :: second :: rest =>
    match rest with
    | third :: _ => misuse name 1 ("extra operand '" ++ third ++ "'")
    | [] =>
      let read (path : Octets) : Act (List Octets) := do
        match ← readInput path with
        | .ok text => return Octets.lines text
        | .error fault =>
          complain name (path ++ ": " ++ Octets.ofString fault.reason)
          finish 1
      let lines ← read first
      return (lines, ← read second)

/-- Which of two files lines are in: the first, the second, or both. -/
inductive Origin
  | first
  | second
  | both
  deriving DecidableEq

/-- Lines of two files in order, with their origins; fuel bounds their number. -/
def merged : Nat → List Octets → List Octets → List (Origin × Octets)
  | 0, _, _ => []
  | _ + 1, [], [] => []
  | fuel + 1, line :: lines, [] => (.first, line) :: merged fuel lines []
  | fuel + 1, [], line :: lines => (.second, line) :: merged fuel [] lines
  | fuel + 1, a :: as, b :: bs =>
    match compareBytes a b with
    | .lt => (.first, a) :: merged fuel as (b :: bs)
    | .gt => (.second, b) :: merged fuel (a :: as) bs
    | .eq => (.both, a) :: merged fuel as bs

/-- Whether lines are in order. -/
def areOrdered : List Octets → Bool
  | first :: second :: rest => !Octets.isBefore second first && areOrdered (second :: rest)
  | _ => true

/-- Tells which lines two files have in common; files that are not in order are complained about if
there are lines that they do not have in common. -/
def comm : Tool := fun _ name arguments => do
  let (flags, paths) ← sort ⟨['1', '2', '3', 'z'], ['o'], [("output-delimiter", 'o')], true⟩ name 1
    arguments
  let (first, second) ← twoInputs name paths
  let mark := (argument? flags 'o').getD ['\t']
  let before (letters : List Char) : Octets :=
    (letters.filter (!has flags ·)).flatMap fun _ => mark
  let lines := merged (first.length + second.length + 1) first second
  let shown := lines.filterMap fun (origin, line) =>
    match origin with
    | .first => if has flags '1' then none else some line
    | .second => if has flags '2' then none else some (before ['1'] ++ line)
    | .both => if has flags '3' then none else some (before ['1', '2'] ++ line)
  let status ← write name (Octets.unlines shown)
  let checked := lines.any (·.1 ≠ .both)
  let wrong := [(1, first), (2, second)].filter fun (_, lines) => checked && !areOrdered lines
  wrong.forM fun (number, _) =>
    complain name ("file " ++ Octets.ofNat number ++ " is not in sorted order")
  if wrong.isEmpty then return status
  complain name "input is not in sorted order"
  return 1

/-- Joins lines of two files that have a field in common. -/
def joinLines : Tool := fun _ name arguments => do
  let (flags, paths) ← sort ⟨['i'], ['1', '2', 'j', 'a', 'v', 't', 'e', 'o'], [], true⟩ name 1
    arguments
  let (first, second) ← twoInputs name paths
  let field (letter : Char) : Nat :=
    (((argument? flags letter).or (argument? flags 'j')).bind natural?).getD 1
  let separator := (argument? flags 't').bind List.head?
  let split (line : Octets) : List Octets := match separator with
    | some c => Text.split c line
    | none => (Text.split ' ' (line.map fun c => if c == '\t' then ' ' else c)).filter (!·.isEmpty)
  let fold (text : Octets) : Octets := if has flags 'i' then text.map Char.toLower else text
  let keyed (n : Nat) (line : Octets) : Octets × List Octets :=
    let fields := split line
    (fields[n - 1]?.getD [], fields.take (n - 1) ++ fields.drop n)
  let as := first.map (keyed (field '1'))
  let bs := second.map (keyed (field '2'))
  let mark := [separator.getD ' ']
  let lone (letter : Octets) : Bool :=
    flags.any fun flag => (flag.letter = 'a' || flag.letter = 'v') && flag.argument = letter
  let onlyLone := has flags 'v'
  let line (key : Octets) (fields : List Octets) : Octets := Octets.join mark (key :: fields)
  let rec go : Nat → List (Octets × List Octets) → List (Octets × List Octets) → List Octets
    | 0, _, _ => []
    | _ + 1, [], [] => []
    | fuel + 1, (key, fields) :: as, [] =>
      (if lone ['1'] then [line key fields] else []) ++ go fuel as []
    | fuel + 1, [], (key, fields) :: bs =>
      (if lone ['2'] then [line key fields] else []) ++ go fuel [] bs
    | fuel + 1, (key, fields) :: as, (other, more) :: bs =>
      match compareBytes (fold key) (fold other) with
      | .lt => (if lone ['1'] then [line key fields] else []) ++ go fuel as ((other, more) :: bs)
      | .gt => (if lone ['2'] then [line other more] else []) ++ go fuel ((key, fields) :: as) bs
      | .eq =>
        let alike (item : Octets × List Octets) : Bool := fold item.1 = fold key
        let firsts := (key, fields) :: as.takeWhile alike
        let seconds := (other, more) :: bs.takeWhile alike
        let pairs := if onlyLone then [] else
          firsts.flatMap fun (key, fields) =>
            seconds.map fun (_, more) => line key (fields ++ more)
        pairs ++ go fuel (as.dropWhile alike) (bs.dropWhile alike)
  write name (Octets.unlines (go (as.length + bs.length + 1) as bs))

end RepoCatalog.Tool
