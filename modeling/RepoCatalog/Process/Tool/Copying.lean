import RepoCatalog.Process.Tool.Files

/-!
# Copying and moving files

Programs that copy and move files and directories, and that give them more names.
-/

namespace RepoCatalog.Tool

open Act

/-- Where a file goes: into a directory under its own name, or in place of something else. -/
def destination (files : FileTree) (inDirectory : Bool) (source target : Octets) : Octets :=
  let isDirectory := files.inspect (Octets.toString target) matches .ok .directory
  if inDirectory && isDirectory then
    joinChars target (baseChars (Text.dropEndWhile (· == '/') source))
  else target

/-- Sources and target of a program that moves or copies. -/
def sourcesAndTarget (name : Octets) (flags : List Flag) (paths : List Octets) :
    Act (List Octets × Octets) := do
  let (sources, target) := match argument? flags 't' with
    | some target => (paths, some target)
    | none => (paths.dropLast, paths.getLast?)
  let files ← files
  let isDirectory (path : Octets) : Bool :=
    files.inspect (Octets.toString path) matches .ok .directory
  match sources, target with
  | [], none => misuse name 1 "missing file operand"
  | [], some only =>
    if (argument? flags 't').isSome then misuse name 1 "missing file operand"
    else misuse name 1 ("missing destination file operand after " ++ quoted only)
  | sources, target =>
    let target := target.getD []
    if has flags 'T' then
      match sources with
      | [_] => pure ()
      | _ :: _ => misuse name 1 ("extra operand " ++ quoted target)
      | [] => pure ()
    else if (1 < sources.length || (argument? flags 't').isSome) && !isDirectory target then
      let fault := match files.inspect (Octets.toString target) with
        | .error fault => fault
        | .ok _ => .notDirectory
      if (argument? flags 't').isSome then
        complain name ("target directory " ++ quoted target ++ ": " ++ Octets.ofString fault.reason)
      else complain name ("target " ++ quoted target ++ ": " ++ Octets.ofString fault.reason)
      finish 1
    return (sources, target)

/-- Whether the last of the options that decide about files in the way is a given one. -/
def lastOf (flags : List Flag) (letter : Char) : Bool :=
  (flags.filter fun flag => ['i', 'n', 'f'].contains flag.letter).getLast?.any (·.letter = letter)

/-! ## Copying -/

/-- Copies one entry to a path, the content of directories too; fuel bounds their depth. -/
def copyOne (flags : List Flag) (name : Octets) : Nat → Bool → Octets → Octets → Act Nat
  | 0, _, _, _ => return 0
  | fuel + 1, isFirst, source, path => do
    let files ← files
    let deep := has flags 'r' || has flags 'R' || has flags 'a'
    let keeps := !has flags 'L' && (has flags 'P' || has flags 'd' || has flags 'a'
      || (deep && !(has flags 'H' && isFirst)))
    let fail (message : Octets) : Act Nat := do
      complain name message
      return 1
    match files.resolve (if keeps then .keep else .follow) (Octets.toString source) with
    | .error fault => fail (aboutFile "cannot stat" source fault)
    | .ok (.absent _) => fail (aboutFile "cannot stat" source .noEntry)
    | .ok (.present place entry) =>
      if entry = .directory then
        if !deep then fail ("-r not specified; omitting directory " ++ quoted source)
        else
          match files.resolve .make (Octets.toString path) with
          | .error fault => fail (aboutFile "cannot create directory" path fault)
          | .ok target =>
            let goOn (other : Location) (isNew : Bool) : Act Nat := do
              if place.isPrefixOf other && place ≠ other then
                return ← fail ("cannot copy a directory, " ++ quoted source ++ ", into itself, "
                  ++ quoted path)
              if isNew then
                setFiles (files.put other .directory)
                report flags name (quoted source ++ " -> " ++ quoted path)
              let names := Octets.sort ((files.namesIn place).map Octets.ofString)
              let statuses ← names.mapM fun inner =>
                copyOne flags name fuel false (below source inner) (below path inner)
              return statuses.foldl max 0
            match target with
            | .absent other => goOn other true
            | .present other .directory => goOn other false
            | .present other (.link _) =>
              if files.inspect (Octets.toString path) matches .ok .directory then goOn other false
              else fail ("cannot overwrite non-directory " ++ quoted path ++ " with directory "
                ++ quoted source)
            | .present _ _ =>
              fail ("cannot overwrite non-directory " ++ quoted path ++ " with directory "
                ++ quoted source)
      else
        let isLink := entry matches .link _
        let ending : PathEnd := if isLink then .keep else .create
        let announce : Act Nat := do
          report flags name (quoted source ++ " -> " ++ quoted path)
          return 0
        let dangles := files.resolve .keep (Octets.toString path) matches .ok (.present _ (.link _))
        match files.resolve ending (Octets.toString path) with
        | .error fault =>
          if fault = .isDirectory then
            if files.inspect (Octets.toString path) matches .ok .directory then
              fail ("cannot overwrite directory " ++ quoted path ++ " with non-directory")
            else fail (aboutFile "cannot create regular file" path .notDirectory)
          else fail (aboutFile "cannot create regular file" path fault)
        | .ok (.absent other) =>
          if dangles && !isLink && !has flags 'f' then
            fail ("not writing through dangling symlink " ++ quoted path)
          else
            let copied : Entry := match entry with
              | .device _ => .file [] false
              | entry => entry
            setFiles (files.put other copied)
            announce
        | .ok (.present other old) =>
          if lastOf flags 'n' then return 0
          else if place = other then
            fail (quoted source ++ " and " ++ quoted path ++ " are the same file")
          else if old = .directory then
            fail ("cannot overwrite directory " ++ quoted path ++ " with non-directory")
          else
            if lastOf flags 'i' then
              if !(← agrees name ("overwrite " ++ quoted path)) then return 0
            match entry, old with
            | .file content executable, .file _ oldExecutable =>
              let kept := if has flags 'a' || has flags 'p' then executable else oldExecutable
              setFiles (files.put other (.file content kept))
              announce
            | .device _, .file _ executable =>
              setFiles (files.put other (.file [] executable))
              announce
            | .file content _, .device .full =>
              if content.isEmpty then announce
              else fail (aboutFile "error writing" path .noSpace)
            | _, .device _ => announce
            | entry, _ =>
              setFiles (files.put other entry)
              announce

/-- Copies files, and directories on demand. -/
def cp : Tool := fun _ name arguments => do
  let (flags, paths) ← sort ⟨['r', 'R', 'a', 'f', 'p', 'v', 'n', 'i', 'L', 'P', 'd', 'u', 'T', 'H',
      'x', 'l', 's', 'b'], ['t', 'S'],
    [("recursive", 'r'), ("archive", 'a'), ("force", 'f'), ("no-clobber", 'n'), ("verbose", 'v'),
      ("interactive", 'i'), ("dereference", 'L'), ("no-dereference", 'P'), ("update", 'u'),
      ("no-target-directory", 'T'), ("target-directory", 't'), ("preserve", 'x')], true⟩ name 1
    arguments
  let (sources, target) ← sourcesAndTarget name flags paths
  forEach sources fun source => do
    let path := destination (← files) (!has flags 'T') source target
    copyOne flags name 64 true source path

/-! ## Moving -/

/-- Files with an entry, and everything below it, at another place. -/
def moveEntries (files : FileTree) (source target : Location) : FileTree :=
  if source = target then files
  else
    let cleared := files.remove target
    let below := cleared.entries.filter fun (place, _) => source.isPrefixOf place
    below.foldl (fun files (place, entry) =>
      files.put (target ++ place.drop source.length) entry) (cleared.remove source)

/-- Moves files and directories. -/
def mv : Tool := fun _ name arguments => do
  let (flags, paths) ← sort ⟨['f', 'n', 'i', 'v', 'u', 'T', 'b', 'Z'], ['t', 'S'],
    [("force", 'f'), ("no-clobber", 'n'), ("interactive", 'i'), ("verbose", 'v'), ("update", 'u'),
      ("no-target-directory", 'T'), ("target-directory", 't')], true⟩ name 1 arguments
  let (sources, target) ← sourcesAndTarget name flags paths
  forEach sources fun source => do
    let files ← files
    let path := destination files (!has flags 'T') source target
    let fail (message : Octets) : Act Nat := do
      complain name message
      return 1
    match files.resolve .keep (Octets.toString (Text.dropEndWhile (· == '/') source)) with
    | .error fault => fail (aboutFile "cannot stat" source fault)
    | .ok (.absent _) => fail (aboutFile "cannot stat" source .noEntry)
    | .ok (.present place entry) =>
      let cannot (fault : FileFault) : Act Nat :=
        fail ("cannot move " ++ quoted source ++ " to " ++ quoted path ++ ": "
          ++ Octets.ofString fault.reason)
      let move (other : Location) : Act Nat := do
        setFiles (moveEntries files place other)
        report flags name ("renamed " ++ quoted source ++ " -> " ++ quoted path)
        return 0
      let slashed := path.getLast? = some '/'
      match files.resolve .make (Octets.toString path) with
      | .error fault => cannot fault
      | .ok (.absent other) =>
        if place.isPrefixOf other then
          fail ("cannot move " ++ quoted source ++ " to a subdirectory of itself, " ++ quoted path)
        else if slashed && entry ≠ .directory then cannot .notDirectory
        else move other
      | .ok (.present other old) =>
        if lastOf flags 'n' then return 0
        else if place = other then
          fail (quoted source ++ " and " ++ quoted path ++ " are the same file")
        else
          match entry, old with
          | .directory, .directory =>
            if place.isPrefixOf other then
              fail ("cannot move " ++ quoted source ++ " to a subdirectory of itself, "
                ++ quoted path)
            else if (files.namesIn other).isEmpty then move other
            else cannot .notEmpty
          | .directory, _ =>
            fail ("cannot overwrite non-directory " ++ quoted path ++ " with directory "
              ++ quoted source)
          | _, .directory =>
            fail ("cannot overwrite directory " ++ quoted path ++ " with non-directory")
          | _, _ =>
            if lastOf flags 'i' then
              if !(← agrees name ("overwrite " ++ quoted path)) then return 0
            move other

/-! ## More names -/

/-- Makes links. Without an option, the content is shared by copying it. -/
def ln : Tool := fun _ name arguments => do
  let (flags, paths) ← sort ⟨['s', 'f', 'n', 'v', 'T', 'r', 'i', 'P', 'L', 'b'], ['t', 'S'],
    [("symbolic", 's'), ("force", 'f'), ("no-dereference", 'n'), ("verbose", 'v'),
      ("interactive", 'i'), ("relative", 'r'), ("no-target-directory", 'T'),
      ("target-directory", 't')], true⟩ name 1 arguments
  let paths := match paths with
    | [only] => if has flags 'T' || (argument? flags 't').isSome then paths else [only, ['.']]
    | paths => paths
  let (sources, target) ← sourcesAndTarget name flags paths
  forEach sources fun source => do
    let files ← files
    let isLink := files.resolve .keep (Octets.toString target) matches .ok (.present _ (.link _))
    let path := destination files (!has flags 'T' && !(has flags 'n' && isLink)) source target
    let fail (message : Octets) : Act Nat := do
      complain name message
      return 1
    let symbolic := has flags 's'
    let arrow : Octets := if symbolic then " -> " else " => "
    let what : Octets :=
      if symbolic then "failed to create symbolic link " ++ quoted path
      else "failed to create hard link " ++ quoted path
    let because (fault : FileFault) : Octets := ": " ++ Octets.ofString fault.reason
    let found : Except FileFault Entry :=
      if symbolic then .ok (.link (Octets.toString source))
      else
        match files.resolve (if has flags 'L' then .follow else .keep) (Octets.toString source) with
        | .ok (.present _ entry) => .ok entry
        | .ok (.absent _) => .error .noEntry
        | .error fault => .error fault
    match found with
    | .error fault => fail (aboutFile "failed to access" source fault)
    | .ok .directory => fail (source ++ ": hard link not allowed for directory")
    | .ok entry =>
      let announce : Act Nat := do
        report flags name (quoted path ++ arrow ++ quoted source)
        return 0
      match files.resolve .keep (Octets.toString path) with
      | .error fault =>
        if symbolic then fail (what ++ because fault)
        else fail (what ++ " => " ++ quoted source ++ because fault)
      | .ok (.absent place) =>
        setFiles (files.put place entry)
        announce
      | .ok (.present place old) =>
        if !has flags 'f' then fail (what ++ because .entryExists)
        else if old = .directory then fail (path ++ ": cannot overwrite directory")
        else
          setFiles (files.put place entry)
          announce

/-- Gives a file one more name. -/
def link : Tool := fun runner name arguments => do
  match arguments with
  | [source, target] => ln runner name [['-', 'T'], source, target]
  | [] => missing name 1
  | [only] => misuse name 1 ("missing operand after " ++ quoted only)
  | _ :: _ :: third :: _ => extra name third 1

/-- Copies files and sets who may do what with them, or makes directories. -/
def install : Tool := fun runner name arguments => do
  let (flags, paths) ← sort
    ⟨['d', 'D', 'v', 'T', 'p', 's', 'c', 'C', 'b'], ['m', 'o', 'g', 't', 'S'],
    [("directory", 'd'), ("mode", 'm'), ("owner", 'o'), ("group", 'g'), ("verbose", 'v'),
      ("target-directory", 't'), ("no-target-directory", 'T')], true⟩ name 1 arguments
  let mode := (argument? flags 'm').getD "755"
  let bits := applyMode? 0 false mode 0
  if bits.isNone then
    complain name ("invalid mode " ++ quoted mode)
    finish 1
  if has flags 'd' then
    if paths.isEmpty then return ← misuse name 1 "missing file operand"
    return ← mkdir runner name (['-', 'p'] :: ['-', '-'] :: paths)
  if has flags 'D' then
    let parent (path : Octets) : Octets := (pathChain path).dropLast.getLast?.getD ['.']
    match argument? flags 't', paths.getLast? with
    | some target, _ => let _ ← mkdir runner name [['-', 'p'], ['-', '-'], target]
    | none, some target => let _ ← mkdir runner name [['-', 'p'], ['-', '-'], parent target]
    | none, none => pure ()
  let (sources, target) ← sourcesAndTarget name flags paths
  forEach sources fun source => do
    let path := destination (← files) (!has flags 'T') source target
    let status ← copyOne (⟨'f', []⟩ :: flags.filter (·.letter = 'v')) name 64 true source path
    let files ← files
    match files.resolve .follow (Octets.toString path) with
    | .ok (.present place (.file content _)) =>
      if status = 0 then setFiles (files.put place (.file content (bits.getD 0 &&& 0o111 ≠ 0)))
    | _ => pure ()
    return status

/-- Copies blocks of bytes. -/
def dd : Tool := fun _ name arguments => do
  let pairs := arguments.map fun text =>
    let (key, value) := text.span (· != '=')
    (String.ofList key, value.drop 1)
  let known := ["if", "of", "bs", "ibs", "obs", "cbs", "count", "skip", "seek", "conv", "status",
    "iflag", "oflag"]
  match (arguments.zip pairs).find? fun (_, key, _) => !known.contains key with
  | some (text, _) =>
    return ← misuse name 1 ("unrecognized operand " ++ quoted text)
  | none => pure ()
  let last (key : String) : Option Octets := pairs.reverse.lookup key
  let size (key : String) (fallback : Nat) : Act Nat :=
    match last key with
    | none => return fallback
    | some text =>
      match bytes? text with
      | some value => return value
      | none => do
        complain name ("invalid number: " ++ quoted text)
        finish 1
  let block ← size "bs" 512
  let block ← if (last "bs").isSome then pure block else size "ibs" 512
  let count ← size "count" 0
  let skipped ← size "skip" 0
  let seek ← size "seek" 0
  let read ← match last "if" with
    | some path => readFile path
    | none => readAll 0
  match read with
  | .error fault =>
    let path := (last "if").getD []
    complain name ("failed to open " ++ quoted path ++ ": " ++ Octets.ofString fault.reason)
    return 1
  | .ok text =>
    let text := text.drop (block * skipped)
    let text := if (last "count").isSome then text.take (block * count) else text
    let text := match last "conv" with
      | some ['u', 'c', 'a', 's', 'e'] => text.map Char.toUpper
      | some ['l', 'c', 'a', 's', 'e'] => text.map Char.toLower
      | _ => text
    let status ← match last "of" with
      | none => write name text
      | some path => do
        let files ← files
        match files.resolve .create (Octets.toString path) with
        | .error fault =>
          complain name ("failed to open " ++ quoted path ++ ": " ++ Octets.ofString fault.reason)
          finish 1
        | .ok target =>
          let keeps := (last "conv").any fun conversions =>
            (Text.split ',' conversions).contains "notrunc"
          let store (place : Location) (old : List UInt8) (executable : Bool) : Act Unit :=
            let start := block * seek
            let old := if keeps then old else old.take start
            setFiles (files.put place
              (.file (System.overwrite old start (Octets.toBytes text)) executable))
          match target with
          | .absent place => store place [] false
          | .present place (.file old executable) => store place old executable
          | .present _ _ => pure ()
          pure 0
    let records : Octets :=
      if block = 0 then "0+0" else
        let part := if text.length % block = 0 then '0' else '1'
        Octets.ofNat (text.length / block) ++ ['+', part]
    if last "status" ≠ some "none" then
      say (records ++ " records in")
      say (records ++ " records out")
    return status

end RepoCatalog.Tool
