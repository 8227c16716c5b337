import RepoCatalog.Process.Tool.Basic
import RepoCatalog.Process.Pattern

/-!
# Listing files

The names in directories, one a line, in columns, or with what is known about each file.
-/

namespace RepoCatalog.Tool

open Act

/-- Message about a file. -/
def aboutFile (what path : Octets) (fault : FileFault) : Octets :=
  what ++ " '" ++ path ++ "': " ++ Octets.ofString fault.reason

/-- Runs an action for every path; the status tells whether it was possible for all. -/
def forEach (paths : List Octets) (action : Octets → Act Nat) : Act Nat := do
  let statuses ← paths.mapM action
  return statuses.foldl max 0

/-- Path of a name in a directory. -/
def below (path name : Octets) : Octets :=
  if path.getLast? = some '/' then path ++ name else path ++ '/' :: name

/-- Number of bytes of a file. -/
def entrySize : Entry → Nat
  | .file content _ => content.length
  | .link target => target.utf8ByteSize
  | .directory => 4096
  | .tool _ | .device _ => 0

/-- Letter of a kind of file, and who may do what with it. -/
def modeText : Entry → Octets
  | .directory => "drwxr-xr-x"
  | .file _ true | .tool _ => "-rwxr-xr-x"
  | .file _ false => "-rw-r--r--"
  | .link _ => "lrwxrwxrwx"
  | .device _ => "crw-rw-rw-"

namespace Listing

/-- A file that is listed. -/
structure Item where
  /-- Name that is shown. -/
  name : Octets
  /-- Where it is. -/
  place : Location
  /-- What it is. -/
  entry : Entry

/-- How names are laid out. -/
inductive Layout
  | single
  | columns (byRows : Bool)
  | commas
  | long
  deriving DecidableEq, Repr

/-- Layout that options ask for; the last one counts, but a long layout is not made short. -/
def layoutOf (flags : List Flag) : Layout :=
  flags.foldl (fun layout flag =>
    match flag.letter with
    | '1' => if layout = .long then layout else .single
    | 'C' => .columns false
    | 'x' => .columns true
    | 'm' => .commas
    | 'l' | 'g' | 'n' | 'o' => .long
    | _ => layout) .single

/-- Mark behind a name that tells its kind. -/
def kindMark (flags : List Flag) (entry : Entry) : Octets :=
  match entry with
  | .directory => if has flags 'p' || has flags 'F' then ['/'] else []
  | .link _ => if has flags 'F' then ['@'] else []
  | .file _ true | .tool _ => if has flags 'F' then ['*'] else []
  | _ => []

/-- A name as it is shown. -/
def shown (flags : List Flag) (name : Octets) : Octets :=
  if has flags 'Q' then
    '"' :: (name.flatMap fun c => if c == '"' || c == '\\' then ['\\', c] else [c]) ++ ['"']
  else name

/-- Part of a name from its last dot on. -/
def extension (name : Octets) : Octets :=
  if name.contains '.' then '.' :: (name.reverse.takeWhile (· != '.')).reverse else []

/-- Items in order: by name unless options say otherwise. -/
def ordered (flags : List Flag) (items : List Item) : List Item :=
  let precedes (a b : Item) : Bool := !Octets.isBefore b.name a.name
  let byName := if has flags 'U' || has flags 'f' then items else items.mergeSort precedes
  let sorted :=
    if has flags 'S' then byName.mergeSort fun a b => entrySize b.entry ≤ entrySize a.entry
    else if has flags 'X' then
      byName.mergeSort fun a b => !Octets.isBefore (extension b.name) (extension a.name)
    else byName
  if has flags 'r' then sorted.reverse else sorted

/-- Whether a name is left out. -/
def isHidden (flags : List Flag) (name : Octets) : Bool :=
  let isIgnored := flags.any fun flag =>
    flag.letter = 'I' && (Pattern.ofText flag.argument).fits name
  (name.head? = some '.' && !has flags 'a' && !has flags 'A' && !has flags 'f')
    || isIgnored || (has flags 'B' && name.getLast? = some '~')

/-- Items of a directory that are listed. -/
def itemsIn (flags : List Flag) (files : FileTree) (place : Location) : List Item :=
  let own := (files.namesIn place).filterMap fun name =>
    (files.get? (place ++ [name])).map fun entry =>
      (⟨Octets.ofString name, place ++ [name], entry⟩ : Item)
  let around : List Item := if has flags 'a' || has flags 'f' then
      [⟨['.'], place, .directory⟩, ⟨['.', '.'], place.dropLast, .directory⟩] else []
  ordered flags ((around ++ own).filter fun item => !isHidden flags item.name)

/-- Number of a thousand bytes that a file takes up on its disk. -/
def blocks (entry : Entry) : Nat :=
  match entry with
  | .file content _ => (content.length + 4095) / 4096 * 4
  | .directory => 4
  | _ => 0

/-- Number of names by which a file is known. -/
def linkCount (files : FileTree) (item : Item) : Nat :=
  match item.entry with
  | .directory =>
    2 + (files.namesIn item.place).countP fun name =>
      files.get? (item.place ++ [name]) = some .directory
  | _ => 1

/-- Lines that tell all about files, with their numbers in columns. -/
def longLines (flags : List Flag) (files : FileTree) (items : List Item) : List Octets :=
  let widest (texts : List Octets) : Nat := (texts.map List.length).foldl max 0
  let counts := items.map fun item => Octets.ofNat (linkCount files item)
  let sizes := items.map fun item => Octets.ofNat (entrySize item.entry)
  let countWidth := widest counts
  let sizeWidth := widest sizes
  let person : Octets := if has flags 'n' then ['0'] else "root"
  let owner : Octets := if has flags 'g' then [] else person ++ [' ']
  let group : Octets := if has flags 'o' || has flags 'G' then [] else person ++ [' ']
  items.map fun item =>
    let target : Octets := match item.entry with
      | .link target => " -> " ++ shown flags (Octets.ofString target)
      | entry => kindMark flags entry
    modeText item.entry ++ ' ' :: Octets.padLeft countWidth (Octets.ofNat (linkCount files item))
      ++ ' ' :: owner ++ group ++ Octets.padLeft sizeWidth (Octets.ofNat (entrySize item.entry))
      ++ " Jan  1 00:00 " ++ shown flags item.name ++ target

/-- Number of characters of a line. -/
def lineWidth : Nat := 80

/-- Blanks from one column to another; stops of eight columns are reached by tabs. -/
def indent (target : Nat) : Nat → Nat → Octets
  | 0, _ => []
  | fuel + 1, column =>
    if target ≤ column then []
    else if (column + 1) / 8 < target / 8 then
      '\t' :: indent target fuel (column + 8 - column % 8)
    else ' ' :: indent target fuel (column + 1)

/-- Widths of a number of columns that hold names of given lengths; two blanks stand between
columns. -/
def columnWidths (byRows : Bool) (lengths : List Nat) (columns : Nat) : List Nat :=
  let rows := (lengths.length + columns - 1) / columns
  let placed := lengths.mapIdx fun i length =>
    (if byRows then i % columns else i / rows, length)
  (List.range columns).map fun column =>
    let widths := (placed.filter (·.1 = column)).map (·.2)
    let widest := widths.foldl max (if column + 1 = columns then 0 else 1)
    if column + 1 = columns then max widest 3 else max (widest + 2) 3

/-- Names in as many columns as fit into a line. -/
def columnLines (byRows : Bool) (names : List Octets) : List Octets :=
  let lengths := names.map List.length
  let most := min names.length (lineWidth / 3)
  let fitting := (List.range most).reverse.find? fun i =>
    (columnWidths byRows lengths (i + 1)).foldl (· + ·) 0 < lineWidth
  let columns := (fitting.getD 0) + 1
  let widths := columnWidths byRows lengths columns
  let rows := (names.length + columns - 1) / columns
  (List.range rows).map fun row =>
    let indices := (List.range columns).map fun column =>
      if byRows then row * columns + column else column * rows + row
    let cells := indices.filterMap fun i => names[i]?
    (cells.foldl (fun (line, starts, column) name =>
      let start := (widths.take starts).foldl (· + ·) 0
      let line := line ++ indent start (start + 1) column ++ name
      (line, starts + 1, start + name.length)) (([] : Octets), 0, 0)).1

/-- Names with commas between them, in lines that are not too long. -/
def commaLines (names : List Octets) : List Octets :=
  let (lines, last) := names.foldl (fun (lines, line) name =>
    match line with
    | none => (lines, some name)
    | some (line : Octets) =>
      if line.length + 2 + name.length < lineWidth then (lines, some (line ++ ", " ++ name))
      else (lines ++ [line ++ [',']], some name)) (([] : List Octets), (none : Option Octets))
  lines ++ last.toList

/-- Lines that list items. -/
def lines (flags : List Flag) (files : FileTree) (items : List Item) : List Octets :=
  let plain := items.map fun item =>
    let size : Octets := if has flags 's' then Octets.ofNat (blocks item.entry) ++ [' '] else []
    size ++ shown flags item.name ++ kindMark flags item.entry
  match layoutOf flags with
  | .single => plain
  | .columns byRows => if plain.isEmpty then [] else columnLines byRows plain
  | .commas => commaLines plain
  | .long => longLines flags files items

/-- Line that tells how much the files of a directory take up. -/
def totalLines (flags : List Flag) (items : List Item) : List Octets :=
  if layoutOf flags = .long || has flags 's' then
    let total := items.foldl (fun total item => total + blocks item.entry) 0
    ["total " ++ Octets.ofNat total]
  else []

/-- Lists a directory, and those below it on demand; fuel bounds their depth. -/
def directoryLines (flags : List Flag) (files : FileTree) (titled : Bool) :
    Nat → Octets → Location → List (List Octets)
  | 0, _, _ => []
  | fuel + 1, path, place =>
    let items := itemsIn flags files place
    let title := if titled then [shown flags path ++ [':']] else []
    let own := title ++ totalLines flags items ++ lines flags files items
    let deeper := if !has flags 'R' then [] else
      items.flatMap fun item =>
        if item.entry = .directory && item.name ≠ ['.'] && item.name ≠ ['.', '.'] then
          directoryLines flags files true fuel (below path item.name) item.place
        else []
    own :: deeper

end Listing

/-- Lists files and directories. -/
def ls : Tool := fun _ name arguments => do
  let (flags, paths) ← sort
    ⟨['1', 'a', 'A', 'd', 'F', 'p', 'r', 'R', 'U', 'f', 'C', 'x', 'q', 'N', 'b', 'k', 't', 'S', 'X',
      'L', 'H', 'c', 'u', 'B', 'Q', 'l', 'n', 'g', 'o', 'G', 'm', 's', 'i', 'h', 'v'],
      ['w', 'I', 'T'],
      [("all", 'a'), ("almost-all", 'A'), ("directory", 'd'), ("recursive", 'R'), ("reverse", 'r'),
        ("classify", 'F'), ("quote-name", 'Q'), ("size", 's'), ("ignore", 'I'),
        ("ignore-backups", 'B'), ("literal", 'N'), ("no-group", 'G'), ("numeric-uid-gid", 'n'),
        ("human-readable", 'h'), ("dereference", 'L'), ("color", 'k')], true⟩ name 2 arguments
  let given := if paths.isEmpty then [['.']] else paths
  let files ← files
  let found ← given.mapM fun path => do
    let text := Octets.toString path
    let follows := !(has flags 'd' || has flags 'F' || Listing.layoutOf flags = .long)
      || path.getLast? = some '/'
    let target : Except FileFault Target :=
      match files.resolve (if follows then .follow else .keep) text with
      | .ok (.present place entry) => .ok (.present place entry)
      -- A link that leads nowhere is listed itself.
      | _ => files.resolve .keep text
    match target with
    | .ok (.present place entry) => return some (⟨path, place, entry⟩ : Listing.Item)
    | .ok (.absent _) =>
      complain name (aboutFile "cannot access" path .noEntry)
      return none
    | .error fault =>
      complain name (aboutFile "cannot access" path fault)
      return none
  let known := Listing.ordered flags (found.filterMap fun item => item)
  let isDirectory (item : Listing.Item) : Bool := item.entry = .directory && !has flags 'd'
  let plain := known.filter (!isDirectory ·)
  let directories := known.filter isDirectory
  let titled := 1 < given.length || has flags 'R'
  let first := if plain.isEmpty then [] else [Listing.lines flags files plain]
  let groups := first ++ directories.flatMap fun item =>
    Listing.directoryLines flags files titled 64 item.name item.place
  let status ← write name (Octets.unlines ([[]].intercalate groups))
  return if found.all Option.isSome then status else 2

end RepoCatalog.Tool
