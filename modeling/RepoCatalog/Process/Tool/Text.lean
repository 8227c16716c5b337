import RepoCatalog.Process.Printf
import RepoCatalog.Process.Tool.Files

/-!
# Writing text

Programs that write their arguments, or what they read as a whole or in part.
-/

namespace RepoCatalog.Tool

open Act

/-! ## Arguments -/

/-- Escapes that `echo` replaces on demand. -/
def echoEscapes : Escape.Style := ⟨true, true, false, true⟩

/-- Options at the beginning of the arguments of `echo`, with the arguments behind them. -/
def echoOptions : List Octets → List Char × List Octets
  | ('-' :: c :: letters) :: rest =>
    if (c :: letters).all ['n', 'e', 'E'].contains then
      let (more, rest) := echoOptions rest
      (c :: letters ++ more, rest)
    else ([], ('-' :: c :: letters) :: rest)
  | arguments => ([], arguments)

/-- Writes arguments. -/
def echo : Tool := fun _ name arguments => do
  let (options, arguments) := echoOptions arguments
  let escapes := (options.filter (· ≠ 'n')).getLast? = some 'e'
  let text := Octets.join [' '] arguments
  let (text, ends) := if escapes then Escape.unescape echoEscapes text else (text, false)
  write name (if options.contains 'n' || ends then text else text ++ ['\n'])

/-- Writes formatted arguments. -/
def printf : Tool := fun _ name arguments => do
  match if arguments.head? = some ['-', '-'] then arguments.drop 1 else arguments with
  | [] => missing name 1
  | format :: arguments =>
    let printed := Printf.print .program format arguments
    printed.complaints.forM (complain name)
    let status ← write name printed.text
    match printed.malformed with
    | some message =>
      complain name message
      return 1
    | none => return if printed.complaints.isEmpty then status else 1

/-- How many lines a program writes that would go on for ever. -/
def endlessLines : Nat := 8192

/-- Writes the same line again and again. -/
def yes : Tool := fun _ name arguments => do
  let line : Octets := if arguments.isEmpty then ['y'] else Octets.join [' '] arguments
  let _ ← write name (Octets.unlines (List.replicate endlessLines line))
  throw (.killed (← process).number 13)

/-! ## Whole inputs -/

/-- Pieces of a text with the mark that ends each. -/
def piecesAt (mark : Char) (text : Octets) : List Octets :=
  let parts := Text.split mark text
  let ended := parts.dropLast.map (· ++ [mark])
  match parts.getLast? with
  | some [] | none => ended
  | some last => ended ++ [last]

/-- Lines of a text with their line breaks. -/
def markedLines (text : Octets) : List Octets :=
  piecesAt '\n' text

/-- A byte as it is shown where all bytes are to be seen. -/
def visible (tabs : Bool) (c : Char) : Octets :=
  let low (n : Nat) : Octets :=
    if n < 32 then ['^', Char.ofNat (n + 64)] else if n = 127 then "^?" else [Char.ofNat n]
  if c == '\n' || (c == '\t' && !tabs) then [c]
  else if c.toNat < 128 then low c.toNat
  else 'M' :: '-' :: low (c.toNat - 128)

/-- What is known between the lines of inputs that are written one after the other. -/
structure Passage where
  /-- Number of the next line. -/
  number : Nat
  /-- Whether the last line was blank. -/
  afterBlank : Bool
  /-- Whether a line begins. -/
  atStart : Bool

/-- A line as options ask for it, and what is known behind it. -/
def passLine (flags : List Flag) (passage : Passage) (line : Octets) : Passage × Octets :=
  let isBlank := passage.atStart && line = ['\n']
  let ended := line.getLast? = some '\n'
  let behind : Passage := { passage with afterBlank := isBlank, atStart := ended }
  if has flags 's' && isBlank && passage.afterBlank then (passage, [])
  else
    let ends := has flags 'E' || has flags 'A' || has flags 'e'
    let tabs := has flags 'T' || has flags 'A' || has flags 't'
    let hidden := has flags 'v' || has flags 'A' || has flags 'e' || has flags 't'
    let display (text : Octets) : Octets :=
      if hidden then text.flatMap (visible tabs)
      else if tabs then text.flatMap fun c => if c == '\t' then "^I" else [c]
      else text
    let body := if ended then line.dropLast else line
    let body := if ends && ended && body.getLast? = some '\r' then display body.dropLast ++ "^M"
      else display body
    let closing : Octets := if !ended then [] else if ends then "$\n" else "\n"
    let counts := passage.atStart && (if has flags 'b' then !isBlank else has flags 'n')
    let start : Octets :=
      if counts then Octets.padLeft 6 (Octets.ofNat passage.number) ++ ['\t'] else []
    ({ behind with number := if counts then passage.number + 1 else passage.number },
      start ++ body ++ closing)

/-- Writes inputs one after the other. -/
def cat : Tool := fun _ name arguments => do
  let (flags, paths) ← sort ⟨['n', 'b', 'u', 'E', 'A', 'T', 'v', 's', 'e', 't'], [],
    [("number", 'n'), ("number-nonblank", 'b'), ("show-ends", 'E'), ("show-tabs", 'T'),
      ("show-all", 'A'), ("show-nonprinting", 'v'), ("squeeze-blank", 's')], true⟩ name 1 arguments
  let changes := flags.any (·.letter ≠ 'u')
  let mut status := 0
  let mut passage : Passage := ⟨1, false, true⟩
  for path in if paths.isEmpty then [['-']] else paths do
    match ← readInput path with
    | .ok text =>
      let (behind, shown) := if !changes then (passage, [text]) else
        (markedLines text).foldl (fun (passage, shown) line =>
          let (passage, line) := passLine flags passage line
          (passage, line :: shown)) (passage, [])
      passage := behind
      status := worse status (← write name shown.reverse.flatten)
    | .error fault =>
      complain name (path ++ ": " ++ Octets.ofString fault.reason)
      status := 1
  return status

/-- Writes what it reads to several files too. -/
def tee : Tool := fun _ name arguments => do
  let (flags, paths) ← sort ⟨['a', 'i', 'p'], [], [("append", 'a'), ("ignore-interrupts", 'i')],
    true⟩ name 1 arguments
  let mut status := 0
  let mut streams := []
  for path in paths do
    match ← openStream (if has flags 'a' then .append else .write) false path with
    | .error fault =>
      complain name (path ++ ": " ++ Octets.ofString fault.reason)
      status := 1
    | .ok stream => streams := streams ++ [(path, stream)]
  let text := (← readAll 0).toOption.getD []
  status := worse status (← write name text)
  for (path, stream) in streams do
    match ← writeStream stream text with
    | .ok () => pure ()
    | .error fault =>
      complain name (path ++ ": " ++ Octets.ofString fault.reason)
      status := 1
  return status

/-- Writes lines in reverse order. -/
def tac : Tool := fun _ name arguments => do
  let (_, paths) ← sort ⟨['b', 'r'], ['s'], [("separator", 's')], true⟩ name 1 arguments
  let (contents, complete) ← readInputs name paths
  let status ← write name (contents.flatMap fun (_, text) => (markedLines text).reverse.flatten)
  return if complete then status else 1

/-- Writes lines backwards. -/
def rev : Tool := fun _ name arguments => do
  let (contents, complete) ← readInputs name arguments
  let status ← write name (contents.flatMap fun (_, text) =>
    (markedLines text).flatMap fun line =>
      if line.getLast? = some '\n' then line.dropLast.reverse ++ ['\n'] else line.reverse)
  return if complete then status else 1

/-! ## Parts of inputs -/

/-- A count with its sign. -/
structure Count where
  /-- The sign in front, if there is one. -/
  sign : Option Char
  /-- The count. -/
  size : Nat

/-- Reads a count. -/
def count? (text : Octets) : Option Count :=
  match text with
  | '-' :: digits => (bytes? digits).map (⟨some '-', ·⟩)
  | '+' :: digits => (bytes? digits).map (⟨some '+', ·⟩)
  | digits => (bytes? digits).map (⟨none, ·⟩)

/-- Arguments in which a count that stands for an option by itself is written as one. -/
def modernCount : List Octets → List Octets
  | ('-' :: c :: digits) :: rest =>
    if c.isDigit then
      let number := (c :: digits).takeWhile Char.isDigit
      let letters := (c :: digits).drop number.length
      let quiet := letters.filter fun c => c == 'q' || c == 'v'
      let option : Octets := if letters.contains 'c' then ['-', 'c'] else ['-', 'n']
      option :: number :: (quiet.map fun c => ['-', c]) ++ rest
    else ('-' :: c :: digits) :: rest
  | arguments => arguments

/-- Writes a part of each input, with headings if there are several. -/
def writeParts (name : Octets) (flags : List Flag) (paths : List Octets) (part : Octets → Octets)
    (taken : Octets → Nat) : Act Nat := do
  let mut status := 0
  let mut isFirst := true
  for path in if paths.isEmpty then [['-']] else paths do
    let text ← if path = ['-'] then unread 0 else readFile path
    let shownName : Octets := if path = ['-'] then "standard input" else path
    match text with
    | .error fault =>
      complain name (if fault = .isDirectory then "error reading '" ++ shownName ++ "': "
        ++ Octets.ofString fault.reason else "cannot open '" ++ shownName ++ "' for reading: "
        ++ Octets.ofString fault.reason)
      status := 1
    | .ok text =>
      if path = ['-'] then skip 0 (taken text)
      if (1 < paths.length && !has flags 'q') || has flags 'v' then
        let start : Octets := if isFirst then [] else ['\n']
        let _ ← write name (start ++ "==> " ++ shownName ++ " <==\n")
      isFirst := false
      status := worse status (← write name (part text))
  return status

/-- Whether a descriptor leads to something that cannot be read again. -/
def isPassing (descriptor : Nat) : Act Bool := do
  match ← stream? descriptor with
  | none => return false
  | some number =>
    return match (← get).system.streams[number]? with
      | some ⟨.buffer _, _, _, _, _⟩ => true
      | _ => false

/-- How much is read at a time of what cannot be read again. -/
def readSize : Nat := 8192

/-- Options of the programs that write the beginnings and ends of inputs. -/
def partOptions : Known :=
  ⟨['q', 'v', 'z', 'f', 'F'], ['n', 'c', 's'],
    [("lines", 'n'), ("bytes", 'c'), ("quiet", 'q'), ("silent", 'q'), ("verbose", 'v'),
      ("zero-terminated", 'z')], true⟩

/-- Pieces of a text that are counted. -/
def countedPieces (flags : List Flag) (bytes : Bool) (text : Octets) : List Octets :=
  if bytes then text.map ([·]) else piecesAt (if has flags 'z' then '\x00' else '\n') text

/-- Complains about a count that is none. -/
def refuseCount (name : Octets) (bytes : Bool) (text : Octets) : Act Nat := do
  complain name ((if bytes then "invalid number of bytes: " else "invalid number of lines: ")
    ++ quoted text)
  return 1

/-- Whether the last of the counts that were given counts bytes. -/
def countsBytes (flags : List Flag) : Bool :=
  (flags.filter fun flag => flag.letter = 'n' || flag.letter = 'c').getLast?.any (·.letter = 'c')

/-- Writes the beginnings of inputs. -/
def head : Tool := fun _ name arguments => do
  let (flags, paths) ← sort partOptions name 1 (modernCount arguments)
  let bytes := countsBytes flags
  let wanted := (argument? flags (if bytes then 'c' else 'n')).getD ['1', '0']
  match count? wanted with
  | none => refuseCount name bytes (if wanted.head? = some '-' then wanted.drop 1 else wanted)
  | some ⟨sign, size⟩ =>
    let part (text : Octets) : Octets :=
      let pieces := countedPieces flags bytes text
      (if sign = some '-' then pieces.take (pieces.length - size) else pieces.take size).flatten
    let passing ← isPassing 0
    writeParts name flags paths part fun text =>
      if sign = some '-' then text.length
      else if passing && !bytes && size ≠ 0 then
        ((part text).length + readSize - 1) / readSize * readSize
      else (part text).length

/-- Writes the ends of inputs. -/
def tail : Tool := fun _ name arguments => do
  let arguments := match arguments with
    | ('+' :: c :: digits) :: rest =>
      if (c :: digits).all Char.isDigit then ['-', 'n'] :: ('+' :: c :: digits) :: rest
      else arguments
    | arguments => modernCount arguments
  let (flags, paths) ← sort partOptions name 1 arguments
  let bytes := countsBytes flags
  let wanted := (argument? flags (if bytes then 'c' else 'n')).getD ['1', '0']
  match count? wanted with
  | none => refuseCount name bytes (if wanted.head? = some '-' then wanted.drop 1 else wanted)
  | some ⟨sign, size⟩ =>
    let part (text : Octets) : Octets :=
      let pieces := countedPieces flags bytes text
      (if sign = some '+' then pieces.drop (size - 1)
        else pieces.drop (pieces.length - size)).flatten
    writeParts name flags paths part List.length

/-! ## Counting -/

/-- Whether a byte can be seen or is a space. -/
def isPrintable (c : Char) : Bool :=
  ' ' ≤ c && c ≤ '~'

/-- Number of words of a text; what cannot be seen begins no word. -/
def wordCount (text : Octets) : Nat :=
  (text.foldl (fun (count, inside) c =>
    if Shell.Expression.isSpace c then (count, false)
    else if inside || !isPrintable c then (count, inside)
    else (count + 1, true)) (0, false)).1

/-- Greatest number of columns that a line of a text takes. -/
def lineWidth (text : Octets) : Nat :=
  let (most, last) := text.foldl (fun (most, column) c =>
    if c == '\n' || c == '\r' || c == '\x0c' then (max most column, 0)
    else if c == '\t' then (most, column + 8 - column % 8)
    else if isPrintable c then (most, column + 1)
    else (most, column)) (0, 0)
  max most last

/-- Size of a file, if a path or descriptor leads to one. -/
def regularSize? (path : Octets) : Act (Option Nat) := do
  if path = ['-'] then
    match ← stream? 0 with
    | none => return none
    | some number =>
      let system := (← get).system
      return match system.streams[number]? with
        | some ⟨.file place, _, _, _, _⟩ => some (system.contentAt place).length
        | _ => none
  else
    return match (← files).inspect (Octets.toString path) with
      | .ok (.file content _) => some content.length
      | _ => none

/-- Counts lines, words and bytes. -/
def wc : Tool := fun _ name arguments => do
  let (flags, paths) ← sort ⟨['l', 'w', 'c', 'm', 'L'], [],
    [("lines", 'l'), ("words", 'w'), ("bytes", 'c'), ("chars", 'm'), ("max-line-length", 'L')],
    true⟩ name 1 arguments
  let given := if paths.isEmpty then [['-']] else paths
  let sizes ← given.mapM regularSize?
  let known := (given.zip sizes).filter fun (path, size) => size.isSome || path = ['-']
  let passing ← given.filterM fun path => do
    let isThere := (← files).inspect (Octets.toString path) matches .ok _
    return path = ['-'] || isThere
  let (contents, complete) ← readInputs name paths
  let measures : List (Char × (Octets → Nat)) :=
    [('l', List.count '\n'), ('w', wordCount), ('m', List.length), ('c', List.length),
      ('L', lineWidth)]
  let standard := ['l', 'w', 'c']
  let wanted := measures.filter fun (letter, _) =>
    if flags.isEmpty then standard.contains letter else has flags letter
  let rows : List (Octets × List Nat) := contents.map fun (path, text) =>
    (if paths.isEmpty then [] else path, wanted.map fun (_, measure) => measure text)
  let totals := wanted.mapIdx fun i (letter, _) =>
    (rows.map fun (_, counts) => counts[i]?.getD 0).foldl (if letter = 'L' then max else (· + ·)) 0
  let rows := if 1 < paths.length then rows ++ [(("total" : Octets), totals)] else rows
  let total := (known.map fun (_, size) => size.getD 0).foldl (· + ·) 0
  let isRegular := passing.all fun path => known.any fun (other, size) =>
    other = path && size.isSome
  let width :=
    if given.length ≤ 1 && wanted.length ≤ 1 then 1
    else max (Octets.ofNat total).length (if isRegular then 1 else 7)
  let shown := rows.map fun (path, counts) =>
    Octets.join [' '] (counts.map fun count => Octets.padLeft width (Octets.ofNat count))
      ++ if path.isEmpty then [] else ' ' :: path
  let status ← write name (Octets.unlines shown)
  return if complete then status else 1

/-- Numbers lines. -/
def nl : Tool := fun _ name arguments => do
  let (flags, paths) ← sort ⟨['p'], ['b', 'n', 'w', 's', 'v', 'i', 'f', 'h', 'l', 'd'],
    [("body-numbering", 'b'), ("number-format", 'n'), ("number-width", 'w'),
      ("number-separator", 's'), ("starting-line-number", 'v'), ("line-increment", 'i')], true⟩
    name 1 arguments
  let (contents, complete) ← readInputs name paths
  let lines := contents.flatMap fun (_, text) => Octets.lines text
  let style := (argument? flags 'b').getD ['t']
  let width := ((argument? flags 'w').bind natural?).getD 6
  let separator := (argument? flags 's').getD ['\t']
  let first := ((argument? flags 'v').bind natural?).getD 1
  let step := ((argument? flags 'i').bind natural?).getD 1
  let numeral (n : Nat) : Octets :=
    let digits := Octets.ofNat n
    match argument? flags 'n' with
    | some ['l', 'n'] => digits ++ List.replicate (width - digits.length) ' '
    | some ['r', 'z'] => List.replicate (width - digits.length) '0' ++ digits
    | _ => Octets.padLeft width digits
  let counts (line : Octets) : Bool :=
    style = ['a'] || (style ≠ ['n'] && !line.isEmpty)
  let shown := (lines.foldl (fun (number, shown) line =>
    if counts line then (number + step, (numeral number ++ separator ++ line) :: shown)
    else (number, (List.replicate (width + separator.length) ' ' ++ line) :: shown))
    (first, ([] : List Octets))).2.reverse
  let status ← write name (Octets.unlines shown)
  return if complete then status else 1

end RepoCatalog.Tool
