import RepoCatalog.File.Directories
import RepoCatalog.Process.Escape
import RepoCatalog.Process.Tool.Files

/-!
# Paths

Programs that take paths apart, follow them, and tell what they lead to.
-/

namespace RepoCatalog.Tool

open Act

/-- Last name of a path, without a suffix. -/
def lastName (path suffix : Octets) : Octets :=
  let trimmed := Text.dropEndWhile (· == '/') path
  if trimmed.isEmpty then (if path.isEmpty then [] else ['/'])
  else
    let base := baseChars trimmed
    if suffix.length < base.length && suffix.isSuffixOf base then
      base.take (base.length - suffix.length)
    else base

/-- End of what is written about each path. -/
def lineEnd (flags : List Flag) : Octets :=
  if has flags 'z' then ['\x00'] else ['\n']

/-- Writes the last names of paths. -/
def basename : Tool := fun _ name arguments => do
  let (flags, operands) ← sort
    ⟨['a', 'z'], ['s'], [("multiple", 'a'), ("suffix", 's'), ("zero", 'z')], false⟩ name 1 arguments
  let ending := lineEnd flags
  match operands with
  | [] => missing name 1
  | path :: rest =>
    if has flags 'a' || has flags 's' then
      let suffix := (argument? flags 's').getD []
      write name (operands.flatMap fun path => lastName path suffix ++ ending)
    else
      match rest with
      | _ :: third :: _ => extra name third 1
      | rest => write name (lastName path (rest.head?.getD []) ++ ending)

/-- Path without its last name. -/
def parentPath (path : Octets) : Octets :=
  let trimmed := Text.dropEndWhile (· == '/') path
  if trimmed.isEmpty then (if path.isEmpty then ['.'] else ['/'])
  else
    let head := trimmed.take (trimmed.length - (baseChars trimmed).length)
    if head.isEmpty then ['.']
    else
      let kept := Text.dropEndWhile (· == '/') head
      if kept.isEmpty then ['/'] else kept

/-- Writes paths without their last names. -/
def dirname : Tool := fun _ name arguments => do
  let (flags, operands) ← sort ⟨['z'], [], [("zero", 'z')], false⟩ name 1 arguments
  if operands.isEmpty then missing name 1
  else write name (operands.flatMap fun path => parentPath path ++ lineEnd flags)

/-- Writes the working directory. -/
def pwd : Tool := fun _ name arguments => do
  let (flags, _) ← sort ⟨['L', 'P'], [], [("logical", 'L'), ("physical", 'P')], true⟩ name 1
    arguments
  let files ← files
  let told := (← process).bindings.lookup ("PWD" : Octets)
  let logical := has flags 'L' && told.any fun path =>
    path.head? = some '/' && files.settle (Octets.toString path) = files.working
  if logical then write name (told.getD [] ++ ['\n'])
  else write name (FileTree.absoluteText files.working ++ "\n")

/-- Writes where links lead. -/
def readlink : Tool := fun _ name arguments => do
  let (flags, paths) ← sort ⟨['f', 'e', 'm', 'n', 'q', 's', 'v', 'z'], [],
    [("canonicalize", 'f'), ("canonicalize-existing", 'e'), ("canonicalize-missing", 'm'),
      ("no-newline", 'n'), ("zero", 'z')], true⟩ name 1 arguments
  if paths.isEmpty then return ← missing name 1
  let ending : Octets := if has flags 'n' && paths.length = 1 then [] else lineEnd flags
  forEach paths fun path => do
    let files ← files
    let text := Octets.toString path
    if has flags 'f' || has flags 'e' || has flags 'm' then
      let reaches := match files.resolve .follow text with
        | .ok (.present _ _) => true
        | .ok (.absent _) => !has flags 'e'
        | .error _ => has flags 'm'
      if reaches then
        write name (FileTree.absoluteText (files.settle text) ++ Octets.toString ending)
      else return 1
    else
      match files.resolve .keep text with
      | .ok (.present _ (.link target)) => write name (Octets.ofString target ++ ending)
      | _ => return 1

/-- Path that leads from one place to another. -/
def relativePath (start target : Location) : Octets :=
  let shared := ((start.zip target).takeWhile fun (a, b) => a = b).length
  let names := List.replicate (start.length - shared) ".." ++ target.drop shared
  if names.isEmpty then ['.'] else Octets.join ['/'] (names.map Octets.ofString)

/-- Writes paths with all links followed. -/
def realpath : Tool := fun _ name arguments => do
  let (flags, paths) ← sort ⟨['e', 'm', 'q', 's', 'L', 'P', 'z'], ['t', 'b'],
    [("canonicalize-existing", 'e'), ("canonicalize-missing", 'm'), ("no-symlinks", 's'),
      ("strip", 's'), ("quiet", 'q'), ("zero", 'z'), ("relative-to", 't'), ("relative-base", 'b')],
    true⟩ name 1 arguments
  if paths.isEmpty then return ← missing name 1
  forEach paths fun path => do
    let files ← files
    let text := Octets.toString path
    let settled (text : String) : Location :=
      if has flags 's' then
        FileTree.collapse ((if FileTree.isAbsolute text then [] else files.working)
          ++ FileTree.components text)
      else files.settle text
    let fail (fault : FileFault) : Act Nat := do
      if !has flags 'q' then complain name (path ++ ": " ++ Octets.ofString fault.reason)
      return 1
    let display : Act Nat :=
      let place := settled text
      let shown := match argument? flags 't' with
        | some start => relativePath (settled (Octets.toString start)) place
        | none => Octets.ofString (FileTree.absoluteText place)
      write name (shown ++ lineEnd flags)
    if path.isEmpty then fail .noEntry
    else if has flags 'm' || (has flags 's' && !has flags 'e') then display
    else
      match files.resolve .follow text with
      | .ok (.present _ _) => display
      | .ok (.absent _) => if has flags 'e' then fail .noEntry else display
      | .error fault => fail fault

/-- Name that fills the free places of a template, by its number. -/
def fillTemplate (number : Nat) (template : Octets) : Octets :=
  let letters := List.range 26
  let size := (template.reverse.takeWhile (· == 'X')).length
  let filling := (List.range size).map fun i =>
    Char.ofNat (97 + (letters[number / Nat.pow 26 i % 26]?.getD 0))
  template.take (template.length - size) ++ filling

/-- Makes a file or a directory with a new name. -/
def mktemp : Tool := fun _ name arguments => do
  let (flags, operands) ← sort ⟨['d', 'u', 'q', 't'], ['p', 's'],
    [("directory", 'd'), ("dry-run", 'u'), ("quiet", 'q'), ("tmpdir", 'p'), ("suffix", 's')], true⟩
    name 1 arguments
  let bindings := (← process).bindings
  let temporary := (bindings.lookup ("TMPDIR" : Octets)).getD "/tmp"
  let template := operands.head?.getD "tmp.XXXXXXXXXX"
  if (template.reverse.takeWhile (· == 'X')).length < 3 then
    complain name ("too few X's in template " ++ quoted template)
    return 1
  let directory? := if operands.isEmpty || has flags 't' || has flags 'p' then
    some ((argument? flags 'p').getD temporary) else none
  let files ← files
  let suffix := (argument? flags 's').getD []
  let pathOf (number : Nat) : Octets :=
    let filled := fillTemplate number template ++ suffix
    match directory? with
    | some directory => below directory filled
    | none => filled
  let isFree (number : Nat) : Bool :=
    files.inspect (Octets.toString (pathOf number)) matches .error .noEntry
  let path := pathOf (((List.range 1000).find? isFree).getD 0)
  let fail (fault : FileFault) : Act Nat := do
    let kind : Octets := if has flags 'd' then "directory" else "file"
    if !has flags 'q' then
      complain name ("failed to create " ++ kind ++ " via template "
        ++ quoted (match directory? with
          | some directory => below directory (template ++ suffix)
          | none => template ++ suffix) ++ ": " ++ Octets.ofString fault.reason)
    return 1
  match files.resolve .make (Octets.toString path) with
  | .error fault => fail fault
  | .ok (.present _ _) => fail .entryExists
  | .ok (.absent place) =>
    if !has flags 'u' then
      setFiles (files.put place (if has flags 'd' then .directory else .file [] false))
    write name (path ++ ['\n'])

/-! ## What paths lead to -/

/-- Words for a kind of file. -/
def kindText : Entry → Octets
  | .directory => "directory"
  | .file [] _ => "regular empty file"
  | .file _ _ | .tool _ => "regular file"
  | .link _ => "symbolic link"
  | .device _ => "character special file"

/-- What a letter in a format stands for. -/
def statField (path : Octets) (item : Listing.Item) (files : FileTree) (c : Char) : Octets :=
  match c with
  | 'n' => path
  | 'N' =>
    match item.entry with
    | .link target => quoted path ++ " -> " ++ quoted (Octets.ofString target)
    | _ => quoted path
  | 's' => Octets.ofNat (entrySize item.entry)
  | 'F' => kindText item.entry
  | 'a' => Nat.toDigits 8 (modeOf item.entry)
  | 'A' => modeText item.entry
  | 'U' | 'G' => "root"
  | 'u' | 'g' => ['0']
  | 'h' => Octets.ofNat (Listing.linkCount files item)
  | 'B' => "512"
  | 'b' => Octets.ofNat (2 * Listing.blocks item.entry)
  | 'o' => "4096"
  | '%' => ['%']
  | _ => ['?']

/-- Text that a format writes about a file. -/
def statText (path : Octets) (item : Listing.Item) (files : FileTree) : Octets → Octets
  | '%' :: c :: rest => statField path item files c ++ statText path item files rest
  | c :: rest => c :: statText path item files rest
  | [] => []

/-- Tells about files. -/
def stat : Tool := fun _ name arguments => do
  let (flags, paths) ← sort ⟨['L', 't', 'f'], ['c', 'p'],
    [("format", 'c'), ("printf", 'p'), ("dereference", 'L'), ("terse", 't')], true⟩ name 1 arguments
  if paths.isEmpty then return ← missing name 1
  forEach paths fun path => do
    let files ← files
    match files.resolve (if has flags 'L' then .follow else .keep) (Octets.toString path) with
    | .ok (.present place entry) =>
      let item : Listing.Item := ⟨path, place, entry⟩
      match argument? flags 'p', argument? flags 'c' with
      | some format, _ =>
        write name (statText path item files (Escape.unescape ⟨false, true, false, true⟩ format).1)
      | none, some format => write name (statText path item files format ++ ['\n'])
      | none, none =>
        write name ("  File: " ++ path ++ "\n  Size: " ++ Octets.ofNat (entrySize entry) ++ "\n")
    | .ok (.absent _) =>
      complain name ("cannot statx " ++ quoted path ++ ": "
        ++ Octets.ofString FileFault.noEntry.reason)
      return 1
    | .error fault =>
      complain name ("cannot statx " ++ quoted path ++ ": " ++ Octets.ofString fault.reason)
      return 1

end RepoCatalog.Tool
