import RepoCatalog.Process.Regex
import RepoCatalog.Process.Tool.Paths

/-!
# Tools that search

Programs that look for regular expressions in what they read.
-/

namespace RepoCatalog.Tool

open Act

/-! ## Expressions -/

/-- How expressions are written. -/
inductive Dialect
  | basic
  | extended
  | fixed
  | perl
  deriving DecidableEq, Repr

/-- Text in which the letters that stand for sets and blanks are replaced. -/
def withoutLetters : Octets → Octets
  | '\\' :: 'd' :: rest => Octets.ofString "[0-9]" ++ withoutLetters rest
  | '\\' :: 'D' :: rest => Octets.ofString "[^0-9]" ++ withoutLetters rest
  | '\\' :: 't' :: rest => '\t' :: withoutLetters rest
  | '\\' :: c :: rest => '\\' :: c :: withoutLetters rest
  | c :: rest => c :: withoutLetters rest
  | [] => []

/-- The expression that a text writes, or what is wrong with it. -/
def Dialect.read (dialect : Dialect) (text : Octets) : Except Octets Regex :=
  let ofText (extended : Bool) (text : Octets) : Except Octets Regex :=
    match Regex.ofText? extended text with
    | some expression => .ok expression
    | none =>
      .error (if text = ['['] then "Invalid regular expression" else Regex.complaint extended text)
  match dialect with
  | .basic => ofText false text
  | .extended => ofText true text
  | .fixed => .ok (Regex.ofFixed text)
  | .perl => ofText true (withoutLetters text)

/-- First match of any of several expressions. -/
def firstMatch? (folds : Bool) (expressions : List Regex) (text : Octets) : Option Regex.Match :=
  (expressions.filterMap fun expression => Regex.find? folds expression text).foldl
    (fun best found =>
      match best with
      | none => some found
      | some old =>
        if found.before.length < old.before.length
            || (found.before.length = old.before.length && old.text.length < found.text.length) then
          some found
        else some old) none

/-- All matches in a line with their positions, one behind the other; fuel bounds their number. -/
def matchesIn (find : Octets → Option Regex.Match) : Nat → Nat → Octets → List (Nat × Octets)
  | 0, _, _ => []
  | fuel + 1, position, text =>
    match find text with
    | none => []
    | some found =>
      let start := position + found.before.length
      if found.text.isEmpty then
        match found.behind with
        | [] => []
        | _ :: rest => matchesIn find fuel (start + 1) rest
      else (start, found.text) :: matchesIn find fuel (start + found.text.length) found.behind

/-! ## Rows -/

/-- A line of a file. -/
structure Row where
  /-- Its number. -/
  number : Nat
  /-- Number of bytes before it. -/
  position : Nat
  /-- Its text. -/
  text : Octets
  /-- Whether it is one of those that are looked for. -/
  isHit : Bool
  deriving DecidableEq, Repr

/-- Lines of a file with their positions. -/
def rowsOf (isHit : Octets → Bool) : Nat → Nat → List Octets → List Row
  | _, _, [] => []
  | number, position, line :: rest =>
    ⟨number, position, line, isHit line⟩
      :: rowsOf isHit (number + 1) (position + line.length + 1) rest

/-- Rows of which those behind the first few hits are none. -/
def limitHits : Nat → List Row → List Row
  | _, [] => []
  | most, row :: rest =>
    if !row.isHit then row :: limitHits most rest
    else if most = 0 then { row with isHit := false } :: limitHits 0 rest
    else row :: limitHits (most - 1) rest

/-- What is shown around hits. -/
structure Surroundings where
  /-- Number of lines before each. -/
  before : Nat
  /-- Number of lines behind each. -/
  behind : Nat
  /-- Whether a line is put between groups that do not touch. -/
  separates : Bool
  deriving DecidableEq, Repr

/-- Rows that are shown: hits and what surrounds them. -/
def Surroundings.select (around : Surroundings) (rows : List Row) : List Row :=
  let hits := (rows.filter (·.isHit)).map (·.number)
  rows.filter fun row =>
    row.isHit || hits.any fun hit =>
      hit ≤ row.number + around.before && row.number ≤ hit + around.behind

/-- How rows are written. -/
structure Layout where
  /-- What shows a file, if it is shown. -/
  title : Option Octets
  /-- What ends the title, if it is no mark. -/
  ending : Option Char
  /-- Whether numbers of lines are shown. -/
  numbers : Bool
  /-- Whether positions are shown. -/
  positions : Bool
  /-- How matches are found, if they are shown instead of lines. -/
  parts : Option (Octets → Option Regex.Match)

/-- What stands in front of a row; hits and other rows have different marks. -/
def Layout.start (layout : Layout) (row : Row) (position : Nat) : Octets :=
  let mark := if row.isHit then ':' else '-'
  (layout.title.map fun title => title ++ [layout.ending.getD mark]).getD []
    ++ (if layout.numbers then Octets.ofNat row.number ++ [mark] else [])
    ++ (if layout.positions then Octets.ofNat position ++ [mark] else [])

/-- Lines that show a row. -/
def Layout.lines (layout : Layout) (row : Row) : List Octets :=
  match layout.parts with
  | none => [layout.start row row.position ++ row.text]
  | some find =>
    if !row.isHit then []
    else (matchesIn find (row.text.length + 1) row.position row.text).map fun (position, text) =>
      layout.start row position ++ text

/-- Lines that show rows, given the number of the row before them; a line separates groups. -/
def Layout.groups (layout : Layout) (separates : Bool) : Option Nat → List Row → List Octets
  | _, [] => []
  | last, row :: rest =>
    let separators : List Octets :=
      if separates && last.any (· + 1 ≠ row.number) then ["--"] else []
    separators ++ layout.lines row ++ layout.groups separates (some row.number) rest

/-! ## Searching -/

/-- Files below a path. -/
def filesBelow (files : FileTree) (path : Octets) : List Octets :=
  match files.resolve .follow (Octets.toString path) with
  | .ok (.present place .directory) =>
    let below := files.entries.filterMap fun (other, entry) =>
      match entry with
      | .file _ _ =>
        if place.isPrefixOf other then
          let names := (other.drop place.length).map Octets.ofString
          let start := Text.dropEndWhile (· == '/') path
          some (start ++ '/' :: Octets.join ['/'] names)
        else none
      | _ => none
    Octets.sort below
  | _ => [path]

/-- Options of the search. -/
def grepOptions : Known :=
  ⟨['E', 'F', 'G', 'P', 'i', 'y', 'v', 'c', 'l', 'L', 'n', 'q', 's', 'x', 'w', 'o', 'h', 'H', 'r',
      'R', 'a', 'z', 'b', 'Z', 'U', 'T', '?', '0', '1', '2', '3', '4', '5', '6', '7', '8', '9'],
    ['e', 'm', 'f', 'A', 'B', 'C', '+', '/', '%'],
    [("extended-regexp", 'E'), ("fixed-strings", 'F'), ("basic-regexp", 'G'), ("perl-regexp", 'P'),
      ("ignore-case", 'i'), ("invert-match", 'v'), ("count", 'c'), ("files-with-matches", 'l'),
      ("files-without-match", 'L'), ("line-number", 'n'), ("quiet", 'q'), ("silent", 'q'),
      ("no-messages", 's'), ("line-regexp", 'x'), ("word-regexp", 'w'), ("only-matching", 'o'),
      ("no-filename", 'h'), ("with-filename", 'H'), ("recursive", 'r'), ("text", 'a'),
      ("null-data", 'z'), ("byte-offset", 'b'), ("null", 'Z'), ("binary", 'U'), ("color", '?'),
      ("colour", '?'), ("regexp", 'e'), ("max-count", 'm'), ("file", 'f'), ("after-context", 'A'),
      ("before-context", 'B'), ("context", 'C'), ("include", '+'), ("exclude", '/'),
      ("label", '%')], true⟩

/-- Texts of the expressions that options and arguments give, and the arguments that are left. -/
def patternTexts (name : Octets) (flags : List Flag) (operands : List Octets) :
    Act (List Octets × List Octets) := do
  let mut texts := []
  for flag in flags do
    if flag.letter = 'e' then texts := texts ++ Text.split '\n' flag.argument
    if flag.letter = 'f' then
      match ← readInput flag.argument with
      | .ok text => texts := texts ++ Octets.lines text
      | .error fault =>
        complain name (flag.argument ++ ": " ++ Octets.ofString fault.reason)
        finish 2
  if has flags 'e' || has flags 'f' then return (texts, operands)
  match operands with
  | text :: paths => return (Text.split '\n' text, paths)
  | [] =>
    say ("Usage: " ++ name ++ " [OPTION]... PATTERNS [FILE]...")
    pointToHelp name
    finish 2

/-- What is shown around hits, according to options. -/
def surroundings (name : Octets) (flags : List Flag) : Act Surroundings := do
  let digits := (flags.map (·.letter)).filter Char.isDigit
  let size (letter : Char) : Act (Option Nat) := do
    match argument? flags letter with
    | none => return none
    | some text =>
      match natural? text with
      | some size => return some size
      | none =>
        complain name (text ++ ": invalid context length argument")
        finish 2
  let both := (← size 'C').or (if digits.isEmpty then none else some (Shell.number digits))
  let before := (← size 'B').or both
  let behind := (← size 'A').or both
  return ⟨before.getD 0, behind.getD 0, before.isSome || behind.isSome⟩

/-- Whether a file is left out because of its name. -/
def isLeftOut (flags : List Flag) (path : Octets) : Bool :=
  let fits (letter : Char) : Bool := (flags.filter (·.letter = letter)).any fun flag =>
    (Pattern.ofText flag.argument).fits (lastName path [])
  fits '/' || (has flags '+' && !fits '+')

/-- Writes the lines that match an expression. -/
def grep : Tool := fun _ name arguments => do
  let (flags, operands) ← match sortFrom grepOptions (arguments.length + 1) arguments with
    | .ok sorted => pure sorted
    | .error message => do
      complain name message
      say ("Usage: " ++ name ++ " [OPTION]... PATTERNS [FILE]...")
      pointToHelp name
      finish 2
  let (texts, paths) ← patternTexts name flags operands
  let around ← surroundings name flags
  let most ← match argument? flags 'm' with
    | none => pure none
    | some text =>
      match natural? text with
      | some most => pure (some most)
      | none => do
        complain name "invalid max count"
        finish 2
  let dialect : Dialect :=
    if has flags 'F' || name = "fgrep" then .fixed
    else if has flags 'P' then .perl
    else if has flags 'E' || name = "egrep" then .extended
    else .basic
  match texts.mapM dialect.read with
  | .error message =>
    complain name message
    return 2
  | .ok expressions =>
    let within (first last : Anchor) (inner : Regex) : Regex :=
      .sequence (.anchor first) (.sequence inner (.anchor last))
    let expressions := expressions.map fun expression =>
      if has flags 'x' then within .lineStart .lineEnd expression
      else if has flags 'w' then within .freeBefore .freeBehind expression
      else expression
    let find := firstMatch? (has flags 'i' || has flags 'y') expressions
    let recursive := has flags 'r' || has flags 'R'
    let files ← files
    let paths := if recursive then
        (if paths.isEmpty then [['.']] else paths).flatMap (filesBelow files)
      else if paths.isEmpty then [['-']] else paths
    let titled := !has flags 'h' && (has flags 'H' || recursive || 1 < paths.length)
    let mark := if has flags 'z' then '\x00' else '\n'
    let mut found := false
    let mut failed := false
    let mut begun := false
    for path in paths.filter (!isLeftOut flags ·) do
      match ← readInput path with
      | .error fault =>
        failed := true
        if !has flags 's' then
          complain name (path ++ ": " ++ Octets.ofString fault.reason)
      | .ok text =>
        let isHit (line : Octets) : Bool := (find line).isSome != has flags 'v'
        let rows := rowsOf isHit 1 0 (Octets.pieces mark text)
        let rows := most.elim rows (limitHits · rows)
        let hits := rows.filter (·.isHit)
        if !hits.isEmpty then found := true
        let title : Octets :=
          if path = ['-'] then (argument? flags '%').getD "(standard input)" else path
        let ending : Octets := if has flags 'Z' then ['\x00'] else ['\n']
        let shown : Octets :=
          if has flags 'q' then []
          else if has flags 'l' then if hits.isEmpty then [] else title ++ ending
          else if has flags 'L' then if hits.isEmpty then title ++ ending else []
          else if has flags 'c' then
            (if titled then title ++ [if has flags 'Z' then '\x00' else ':'] else [])
              ++ Octets.ofNat hits.length ++ ['\n']
          else if hits.isEmpty then []
          else if text.contains '\x00' && !has flags 'a' && !has flags 'z' then
            name ++ ": " ++ title ++ ": binary file matches\n"
          else
            let layout : Layout :=
              ⟨if titled then some title else none, if has flags 'Z' then some '\x00' else none,
                has flags 'n', has flags 'b', if has flags 'o' then some find else none⟩
            let chosen := around.select rows
            let last := if begun then chosen.head?.map (·.number) else none
            (layout.groups around.separates last chosen).flatMap (· ++ [mark])
        if !shown.isEmpty then
          begun := true
          let _ ← write name shown
    return if found && (!failed || has flags 'q') then 0 else if failed then 2 else 1

end RepoCatalog.Tool
