import RepoCatalog.File.Directories
import RepoCatalog.Process.Tool.Listing
import RepoCatalog.Text.Blank

/-!
# Making and removing files

Programs that make and remove files and directories, and that change who may do what with them.
-/

namespace RepoCatalog.Tool

open Act

/-- A text in quotation marks. -/
def quoted (text : Octets) : Octets :=
  '\x27' :: text ++ ['\x27']

/-- Tells what is done, if that is asked for. -/
def report (flags : List Flag) (name text : Octets) : Act Unit := do
  if has flags 'v' then
    let _ ← write name (text ++ ['\n'])

/-- Whether a question is answered with yes; it is answered by a line that is read. -/
def agrees (name question : Octets) : Act Bool := do
  let _ ← tryWrite 2 (name ++ ": " ++ question ++ "? ")
  let text := (← unread 0).toOption.getD []
  let line := text.takeWhile (· != '\n')
  skip 0 (min text.length (line.length + 1))
  return line.head? = some 'y' || line.head? = some 'Y'

/-! ## Modes -/

/-- Bits of the letters of a mode. -/
def modeBits (isDirectory : Bool) (mode : Nat) (c : Char) : Nat :=
  match c with
  | 'r' => 0o444
  | 'w' => 0o222
  | 'x' => 0o111
  | 'X' => if isDirectory || mode &&& 0o111 ≠ 0 then 0o111 else 0
  | 's' => 0o6000
  | 't' => 0o1000
  | 'u' => (mode / 0o100 % 8) * 0o111
  | 'g' => (mode / 0o10 % 8) * 0o111
  | 'o' => (mode % 8) * 0o111
  | _ => 0

/-- A mode after the changes that a clause writes behind the people that it concerns; `reach` holds
the bits that it may change. Fuel bounds the number of changes. -/
def changeMode (isDirectory : Bool) (reach : Nat) : Nat → Octets → Nat → Option Nat
  | 0, _, _ => none
  | _ + 1, [], mode => some mode
  | fuel + 1, sign :: rest, mode =>
    if ['+', '-', '='].all (· ≠ sign) then none
    else
      let letters := rest.takeWhile fun c => ['+', '-', '='].all (c ≠ ·)
      let copies := letters.length = 1 && letters.all ['u', 'g', 'o'].contains
      if !copies && !letters.all ['r', 'w', 'x', 'X', 's', 't'].contains then none
      else
        let bits := (letters.foldl (fun bits c => bits ||| modeBits isDirectory mode c) 0) &&& reach
        let without (bits : Nat) : Nat := mode - (mode &&& bits)
        let mode := match sign with
          | '+' => mode ||| bits
          | '-' => without bits
          | _ => without (reach &&& 0o777) ||| bits
        changeMode isDirectory reach fuel (rest.drop letters.length) mode

/-- Bits that a clause may change, by the letters of the people that it concerns. -/
def modeReach (mask : Nat) (people : Octets) : Nat :=
  if people.isEmpty then 0o7777 - mask % 0o1000
  else
    people.foldl (fun reach c => reach ||| (match c with
      | 'u' => 0o4700
      | 'g' => 0o2070
      | 'o' => 0o1007
      | _ => 0o7777)) 0

/-- The mode that a text makes out of another one; none if the text writes no mode. -/
def applyMode? (mask : Nat) (isDirectory : Bool) (text : Octets) (mode : Nat) : Option Nat :=
  if !text.isEmpty && text.all Char.isDigit then
    let value := text.foldl (fun value c => 8 * value + (c.toNat - 48)) 0
    if text.all (· < '8') && value ≤ 0o7777 then some value else none
  else
    (Text.split ',' text).foldlM (fun mode clause =>
      let people := clause.takeWhile ['u', 'g', 'o', 'a'].contains
      let changes := clause.drop people.length
      if changes.isEmpty then none
      else changeMode isDirectory (modeReach mask people) (changes.length + 1) changes mode) mode

/-- Mode of a file. -/
def modeOf : Entry → Nat
  | .file _ true | .tool _ | .directory => 0o755
  | .link _ => 0o777
  | .device _ => 0o666
  | .file _ false => 0o644

/-- A mode in figures and in letters. -/
def describeMode (mode : Nat) : Octets :=
  let figures := Nat.toDigits 8 mode
  let letter (bit : Nat) (c : Char) : Char := if mode &&& bit ≠ 0 then c else '-'
  let letters := [letter 0o400 'r', letter 0o200 'w', letter 0o100 'x', letter 0o40 'r',
    letter 0o20 'w', letter 0o10 'x', letter 0o4 'r', letter 0o2 'w', letter 0o1 'x']
  List.replicate (4 - figures.length) '0' ++ figures ++ " (" ++ letters ++ [')']

/-- Changes who may do what with files. -/
def chmod : Tool := fun _ name arguments => do
  -- A mode may look like an option.
  let looksLikeMode (text : Octets) : Bool := match text with
    | '-' :: c :: rest => (c :: rest).all
        ['r', 'w', 'x', 'X', 's', 't', 'u', 'g', 'o', 'a', '+', '=', ','].contains
    | _ => false
  let modes := arguments.filter looksLikeMode
  let (flags, operands) ← sort ⟨['R', 'f', 'v', 'c'], ['r'],
    [("recursive", 'R'), ("silent", 'f'), ("quiet", 'f'), ("verbose", 'v'), ("changes", 'c'),
      ("reference", 'r')], true⟩ name 1 (arguments.filter (!looksLikeMode ·))
  match modes ++ operands with
  | [] => missing name 1
  | [only] => misuse name 1 ("missing operand after " ++ quoted only)
  | mode :: paths =>
    let mask := (← process).mask
    if (applyMode? mask false mode 0).isNone then
      return ← misuse name 1 ("invalid mode: " ++ quoted mode)
    let changeOne (path : Octets) (place : Location) : Act Unit := do
      let files ← files
      match files.get? place with
      | none => pure ()
      | some entry =>
        let old := modeOf entry
        let new := (applyMode? mask (entry = .directory) mode old).getD old
        match entry with
        | .file content _ => setFiles (files.put place (.file content (new &&& 0o111 ≠ 0)))
        | _ => pure ()
        if old ≠ new && (has flags 'v' || has flags 'c') then
          report [⟨'v', []⟩] name ("mode of " ++ quoted path ++ " changed from " ++ describeMode old
            ++ " to " ++ describeMode new)
        else if old = new then
          report flags name ("mode of " ++ quoted path ++ " retained as " ++ describeMode new)
    forEach paths fun path => do
      let files ← files
      match files.resolve .follow (Octets.toString path) with
      | .ok (.present place _) =>
        changeOne path place
        if has flags 'R' then
          let deeper := files.entries.filter fun (other, entry) =>
            place.isPrefixOf other && other ≠ place && !(entry matches .link _)
          let named := deeper.map fun (other, _) =>
            ((other.drop place.length).foldl
              (fun path name => below path (Octets.ofString name)) path,
              other)
          let sorted := named.mergeSort fun a b => !Octets.isBefore b.1 a.1
          sorted.forM fun (path, other) => changeOne path other
        return 0
      | .ok (.absent _) =>
        if !has flags 'f' then complain name (aboutFile "cannot access" path .noEntry)
        return 1
      | .error fault =>
        if !has flags 'f' then complain name (aboutFile "cannot access" path fault)
        return 1

/-! ## Making -/

/-- Beginnings of a path that end at its names, shortest first. -/
def pathChain (path : Octets) : List Octets :=
  let names := Text.split '/' path
  ((List.range names.length).filter fun i => (names[i]?.getD []) ≠ []).map fun i =>
    Octets.join ['/'] (names.take (i + 1))

/-- Makes directories. -/
def mkdir : Tool := fun _ name arguments => do
  let (flags, paths) ← sort ⟨['p', 'v'], ['m'],
    [("parents", 'p'), ("mode", 'm'), ("verbose", 'v')], true⟩ name 1 arguments
  if paths.isEmpty then return ← missing name 1
  match argument? flags 'm' with
  | some mode =>
    if (applyMode? 0 true mode 0).isNone then
      complain name ("invalid mode " ++ quoted mode)
      finish 1
  | none => pure ()
  let announce (path : Octets) : Act Unit :=
    report flags name (name ++ ": created directory " ++ quoted path)
  forEach paths fun path => do
    let fail (path : Octets) (fault : FileFault) : Act Nat := do
      complain name (aboutFile "cannot create directory" path fault)
      return 1
    let makeOne (path : Octets) (mayExist : Bool) : Act (Option FileFault) := do
      let files ← files
      match files.makeDirectory (Octets.toString path) with
      | .ok files =>
        setFiles files
        announce path
        return none
      | .error fault =>
        let isThere := files.inspect (Octets.toString path) matches .ok .directory
        return if mayExist && isThere then none else some fault
    if has flags 'p' && !path.isEmpty then
      for beginning in pathChain path do
        match ← makeOne beginning true with
        | some fault => return ← fail beginning (if fault = .entryExists && beginning ≠ path then
            .notDirectory else fault)
        | none => pure ()
      return 0
    else
      match ← makeOne path false with
      | some fault => fail path fault
      | none => return 0

/-- Makes files that are missing. -/
def touch : Tool := fun _ name arguments => do
  let (flags, paths) ← sort ⟨['a', 'c', 'm', 'f', 'h'], ['d', 't', 'r'],
    [("no-create", 'c'), ("date", 'd'), ("reference", 'r'), ("time", 't'), ("no-dereference", 'h')],
    true⟩ name 1 arguments
  if paths.isEmpty then return ← misuse name 1 "missing file operand"
  match argument? flags 'r' with
  | some path =>
    match (← files).inspect (Octets.toString path) with
    | .ok _ => pure ()
    | .error fault =>
      complain name (aboutFile "failed to get attributes of" path fault)
      finish 1
  | none => pure ()
  forEach paths fun path => do
    let files ← files
    match files.resolve .create (Octets.toString path) with
    | .ok (.present _ _) => return 0
    | .ok (.absent place) =>
      if !has flags 'c' then setFiles (files.put place (.file [] false))
      return 0
    | .error fault =>
      if fault = .isDirectory && (files.inspect (Octets.toString path)).toBool then return 0
      else if has flags 'c' && fault = .noEntry then return 0
      else
        let fault := if fault = .isDirectory then .noEntry else fault
        complain name (aboutFile "cannot touch" path fault)
        return 1

/-- Number of bytes that a text writes, with a letter for its unit. -/
def bytes? (text : Octets) : Option Nat :=
  let (digits, unit) := text.span Char.isDigit
  let units : List Char := ['K', 'M', 'G', 'T', 'P', 'E']
  if digits.isEmpty then none
  else
    let power? (c : Char) : Option Nat :=
      if c == 'k' then some 1 else (units.findIdx? (· = c)).map (· + 1)
    let value := Shell.number digits
    match unit with
    | [] => some value
    | ['b'] => some (512 * value)
    | ['c'] => some value
    | ['w'] => some (2 * value)
    | c :: rest =>
      match power? c, rest with
      | some power, [] | some power, ['i', 'B'] => some (value * Nat.pow 1024 power)
      | some power, ['B'] => some (value * Nat.pow 1000 power)
      | _, _ => none

/-- Gives files a size. -/
def truncate : Tool := fun _ name arguments => do
  let (flags, paths) ← sort ⟨['c', 'o'], ['s', 'r'],
    [("size", 's'), ("no-create", 'c'), ("reference", 'r')], true⟩ name 1 arguments
  match argument? flags 's', argument? flags 'r' with
  | none, none => misuse name 1 "you must specify either '--size' or '--reference'"
  | size?, reference? =>
    if paths.isEmpty then return ← misuse name 1 "missing file operand"
    let text := size?.getD ['0']
    let sign := text.head?.getD '0'
    let number? := bytes? (if sign.isDigit then text else text.drop 1)
    match number? with
    | none =>
      complain name ("Invalid number: " ++ quoted text)
      return 1
    | some number =>
      let before ← files
      let other := match reference? with
        | some path => ((before.contentOf (Octets.toString path)).toOption.getD []).length
        | none => 0
      forEach paths fun path => do
        let files ← files
        match files.resolve .create (Octets.toString path) with
        | .ok (.present place (.file content executable)) =>
          let old := if reference?.isSome then other else content.length
          let rounded (up : Bool) : Nat :=
            if number = 0 then old else if up then (old + number - 1) / number * number
              else old / number * number
          let size := match sign with
            | '+' => old + number
            | '-' => old - number
            | '<' => min old number
            | '>' => max old number
            | '/' => rounded false
            | '%' => rounded true
            | _ => if size?.isSome then number else other
          let kept := content.take size ++ List.replicate (size - content.length) 0
          setFiles (files.put place (.file kept executable))
          return 0
        | .ok (.absent place) =>
          if !has flags 'c' then
            let size :=
              if ['-', '<', '/'].contains sign then 0 else if size?.isSome then number else other
            setFiles (files.put place (.file (List.replicate size 0) false))
          return 0
        | .ok (.present _ _) =>
          complain name ("cannot open " ++ quoted path ++ " for writing: "
            ++ Octets.ofString FileFault.isDirectory.reason)
          return 1
        | .error fault =>
          complain name ("cannot open " ++ quoted path ++ " for writing: "
            ++ Octets.ofString fault.reason)
          return 1

/-! ## Removing -/

/-- Removes directories that are empty. -/
def rmdir : Tool := fun _ name arguments => do
  let (flags, paths) ← sort ⟨['p', 'v'], [],
    [("parents", 'p'), ("verbose", 'v'), ("ignore-fail-on-non-empty", 'i')], true⟩ name 1 arguments
  if paths.isEmpty then return ← missing name 1
  let removeOne (path : Octets) (isParent : Bool) : Act Nat := do
    let files ← files
    report flags name (name ++ ": removing directory, " ++ quoted path)
    let fail (fault : FileFault) : Act Nat := do
      if fault = .notEmpty && has flags 'i' then return 0
      let what : Octets := if isParent then "failed to remove directory" else "failed to remove"
      complain name (aboutFile what path fault)
      return 1
    if (baseChars path) = ['.'] then
      complain name ("failed to remove " ++ quoted path ++ ": Invalid argument")
      return 1
    let trailing := path.getLast? = some '/'
    match files.resolve (if trailing then .follow else .keep) (Octets.toString path) with
    | .ok (.present place .directory) =>
      if (files.namesIn place).isEmpty then
        setFiles (files.remove place)
        return 0
      else fail .notEmpty
    | .ok (.present _ _) => fail .notDirectory
    | .ok (.absent _) => fail .noEntry
    | .error fault => fail fault
  forEach paths fun path => do
    let mut status ← removeOne path false
    if has flags 'p' then
      for path in (pathChain (Text.dropEndWhile (· == '/') path)).dropLast.reverse do
        if status = 0 then status ← removeOne path true
    return status

/-- Removes what is at a place and tells about it, the content of directories first; fuel bounds
their depth. -/
def removeAll (flags : List Flag) (name : Octets) : Nat → Octets → Location → Act Unit
  | 0, _, _ => pure ()
  | fuel + 1, path, place => do
    let files ← files
    if files.get? place = some .directory then
      let names := Octets.sort ((files.namesIn place).map Octets.ofString)
      names.forM fun inner =>
        removeAll flags name fuel (below path inner) (place ++ [Octets.toString inner])
      setFiles ((← Act.files).remove place)
      report flags name ("removed directory " ++ quoted path)
    else
      setFiles (files.remove place)
      report flags name ("removed " ++ quoted path)

/-- Removes files, and directories on demand. -/
def rm : Tool := fun _ name arguments => do
  let (flags, paths) ← sort ⟨['r', 'R', 'f', 'i', 'd', 'v', 'I'], [],
    [("recursive", 'r'), ("force", 'f'), ("dir", 'd'), ("verbose", 'v'), ("preserve-root", 'p'),
      ("one-file-system", 'x'), ("no-preserve-root", 'p')], true⟩ name 1 arguments
  let force := has flags 'f'
  let asks := (flags.filter fun flag => flag.letter = 'i' || flag.letter = 'f').getLast?.any
    (·.letter = 'i')
  if paths.isEmpty then return ← if force then pure 0 else missing name 1
  forEach paths fun path => do
    let files ← files
    let fail (fault : FileFault) : Act Nat := do
      complain name (aboutFile "cannot remove" path fault)
      return 1
    let mayRemove (what : Octets) : Act Bool := do
      if asks then agrees name ("remove " ++ what ++ ' ' :: quoted path) else return true
    let last := baseChars (Text.dropEndWhile (· == '/') path)
    match files.resolve .keep (Octets.toString path) with
    | .ok (.present place .directory) =>
      let deep := has flags 'r' || has flags 'R'
      if deep && (last = ['.'] || last = ['.', '.']) then
        complain name ("refusing to remove '.' or '..' directory: skipping " ++ quoted path)
        return 1
      else if place.isEmpty && deep then
        complain name "it is dangerous to operate recursively on '/'"
        complain name "use --no-preserve-root to override this failsafe"
        return 1
      else if deep then
        if ← mayRemove "directory" then removeAll flags name 64 path place
        return 0
      else if !has flags 'd' then fail .isDirectory
      else if !(files.namesIn place).isEmpty then fail .notEmpty
      else
        if ← mayRemove "directory" then removeAll flags name 1 path place
        return 0
    | .ok (.present place entry) =>
      let what : Octets := match entry with
        | .file [] _ => "regular empty file"
        | .link _ => "symbolic link"
        | _ => "regular file"
      if ← mayRemove what then removeAll flags name 1 path place
      return 0
    | .ok (.absent _) => if force then return 0 else fail .noEntry
    | .error fault =>
      if force && (fault = .noEntry || fault = .notDirectory) then return 0 else fail fault

/-- Removes one name of a file. -/
def unlink : Tool := fun _ name arguments => do
  match arguments with
  | [] => missing name 1
  | _ :: second :: _ => extra name second 1
  | [path] =>
    let files ← files
    let fail (fault : FileFault) : Act Nat := do
      complain name (aboutFile "cannot unlink" path fault)
      return 1
    match files.resolve .keep (Octets.toString path) with
    | .ok (.present _ .directory) => fail .isDirectory
    | .ok (.present place _) =>
      setFiles (files.remove place)
      return 0
    | .ok (.absent _) => fail .noEntry
    | .error fault => fail fault

end RepoCatalog.Tool
