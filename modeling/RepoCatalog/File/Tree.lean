import RepoCatalog.Association
import RepoCatalog.File.Path
import RepoCatalog.File.SystemError

/-!
# File trees

A file tree assigns entries to locations, the chains of names that lead from the root. Resolving a
path follows symbolic links, at most forty of them.
-/

namespace RepoCatalog

/-- The names that lead from the root to an entry. -/
abbrev Location := List String

/-- A file that is no store of bytes: one that takes everything, one that has no room for
anything, one that is full of zeros, the standard streams, and a terminal where there is none. -/
inductive Device
  | null
  | full
  | zero
  | input
  | output
  | messages
  | terminal
  deriving DecidableEq, Repr

/-- What a location holds. -/
inductive Entry
  | directory
  | file (content : List UInt8) (executable : Bool)
  | link (target : String)
  | tool (program : String)
  | device (device : Device)
  deriving DecidableEq, Repr

/-- What the medium refuses that files are stored on. -/
structure Medium where
  /-- Why no directory can be made at a location. -/
  barsDirectory : Location → Option FileFault
  /-- Why what is at a location cannot be opened for writing, or a file cannot be created there. -/
  barsFile : Location → Option FileFault
  /-- Number of bytes after which the writing of a content to a file breaks off, and why. -/
  breaksOff : Location → List UInt8 → Option (Nat × FileFault)

/-- A medium that refuses nothing. -/
def Medium.ample : Medium :=
  ⟨fun _ => none, fun _ => none, fun _ _ => none⟩

/-- Files, what they are stored on and the directory that relative paths start from. -/
structure FileTree where
  /-- Entries below the root, each location once. -/
  entries : List (Location × Entry)
  /-- The working directory. -/
  working : Location
  /-- What the files are stored on. -/
  medium : Medium := .ample

/-- How the end of a path is taken: links there are followed or kept; an entry to be created may be
missing, and a slash after the name of a file to be created asks for a directory. -/
inductive PathEnd
  | follow
  | keep
  | create
  | make
  deriving DecidableEq, Repr

/-- Whether a link at the end is followed. -/
def PathEnd.follows : PathEnd → Bool
  | follow | create => true
  | keep | make => false

/-- Where a path leads. -/
inductive Target
  | present (place : Location) (entry : Entry)
  | absent (place : Location)
  deriving DecidableEq, Repr

/-- The location a path leads to. -/
def Target.place : Target → Location
  | present place _ | absent place => place

namespace FileTree

/-- Entry at a location; the root is a directory. -/
def get? (tree : FileTree) (place : Location) : Option Entry :=
  if place.isEmpty then some .directory else tree.entries.lookup place

/-- Tree with an entry at a location. -/
def put (tree : FileTree) (place : Location) (entry : Entry) : FileTree :=
  { tree with entries := assign place entry tree.entries }

theorem get?_put_self (tree : FileTree) {place : Location} (below : place ≠ []) (entry : Entry) :
    (tree.put place entry).get? place = some entry := by
  simp [get?, put, below, lookup_assign_self]

theorem get?_put_of_ne (tree : FileTree) {place other : Location} (differs : other ≠ place)
    (entry : Entry) : (tree.put place entry).get? other = tree.get? other := by
  simp [get?, put, lookup_assign_of_ne differs]

theorem put_put (tree : FileTree) (place : Location) (entry later : Entry) :
    (tree.put place entry).put place later = tree.put place later := by
  simp [put, assign_assign]

/-- Names in a directory, in the order in which they were made. -/
def namesIn (tree : FileTree) (place : Location) : List String :=
  tree.entries.filterMap fun (other, _) =>
    if other.length = place.length + 1 && place.isPrefixOf other then other.getLast? else none

/-- Tree without a location and everything below it. -/
def remove (tree : FileTree) (place : Location) : FileTree :=
  { tree with entries := tree.entries.filter fun (other, _) => !place.isPrefixOf other }

/-- Number of bytes of a name. -/
def nameSize (name : String) : Nat :=
  name.utf8ByteSize

/-- Longest name of an entry, in bytes. -/
def nameLimit : Nat := 255

/-- Longest path, in bytes. -/
def pathLimit : Nat := 4095

/-- Number of symbolic links followed before a path is given up. -/
def linkLimit : Nat := 40

/-- Components of a path text, as names. -/
def components (path : String) : List String :=
  (Text.split '/' path.toList).map String.ofList

/-- Whether a path text starts at the root. -/
def isAbsolute (path : String) : Bool :=
  path.toList.head? == some '/'

/-- Why nothing can be created at a location: some directories only show what the system knows. -/
def refusal? (ending : PathEnd) : Location → Option FileFault
  | "proc" :: _ => some .noEntry
  | "sys" :: _ => some (if ending = .make then .notPermitted else .accessDenied)
  | _ => none

/-- Walks along components from a directory; `follow` continues after a symbolic link. -/
def walkWith (tree : FileTree) (ending : PathEnd)
    (follow : Location → List String → Except FileFault Target) :
    Location → List String → Except FileFault Target
  | place, [] => .ok (.present place .directory)
  | place, name :: rest =>
    let slashes := rest.all (· = "")
    if name = "" || name = "." then walkWith tree ending follow place rest
    else if name = ".." then walkWith tree ending follow place.dropLast rest
    else if ending = .create && slashes && !rest.isEmpty then .error .isDirectory
    else if nameLimit < nameSize name then .error .nameTooLong
    else
      let next := place ++ [name]
      match tree.get? next with
      | none =>
        if !rest.isEmpty && !(ending = .make && slashes) then .error .noEntry
        else
          match if ending = .create || ending = .make then refusal? ending next else none with
          | some fault => .error fault
          | none => .ok (.absent next)
      | some .directory => walkWith tree ending follow next rest
      | some (.link target) =>
        if rest.isEmpty && !ending.follows then .ok (.present next (.link target))
        else follow (if isAbsolute target then [] else place) (components target ++ rest)
      | some entry => if rest.isEmpty then .ok (.present next entry) else .error .notDirectory

/-- Walks along components with a limited number of symbolic links. -/
def walk (tree : FileTree) (ending : PathEnd) :
    Nat → Location → List String → Except FileFault Target
  | 0 => walkWith tree ending fun _ _ => .error .tooManyLinks
  | links + 1 => walkWith tree ending (walk tree ending links)

/-- Where a path text leads. -/
def resolve (tree : FileTree) (ending : PathEnd) (path : String) : Except FileFault Target :=
  if path.isEmpty then .error .noEntry
  else if pathLimit < nameSize path then .error .nameTooLong
  else
    walk tree ending linkLimit (if isAbsolute path then [] else tree.working) (components path)

/-- The entry a path text leads to. -/
def inspect (tree : FileTree) (path : String) : Except FileFault Entry :=
  match tree.resolve .follow path with
  | .error fault => .error fault
  | .ok (.absent _) => .error .noEntry
  | .ok (.present _ entry) => .ok entry

/-- Bytes of the file a path text leads to. -/
def contentOf (tree : FileTree) (path : String) : Except FileFault (List UInt8) :=
  match tree.inspect path with
  | .error fault => .error fault
  | .ok .directory => .error .isDirectory
  | .ok (.file content _) => .ok content
  | .ok (.device .terminal) => .error .noDevice
  | .ok _ => .ok []

/-- Tree after making one directory. -/
def makeDirectory (tree : FileTree) (path : String) : Except FileFault FileTree :=
  match tree.resolve .make path with
  | .error fault => .error fault
  | .ok (.present _ _) => .error .entryExists
  | .ok (.absent place) =>
    match tree.medium.barsDirectory place with
    | some fault => .error fault
    | none => .ok (tree.put place .directory)

/-- Opens what is at a location for writing; a file is emptied on demand, other entries stay. -/
def openEntry (tree : FileTree) (empties : Bool) (place : Location) :
    Entry → Except FileFault FileTree
  | .directory => .error .isDirectory
  | .device .terminal => .error .noDevice
  | .file _ executable => .ok (if empties then tree.put place (.file [] executable) else tree)
  | _ => .ok tree

/-- Opens a file for writing: creates it if it is missing, empties it on demand, and tells where it
is. -/
def openFile (tree : FileTree) (empties : Bool) (path : String) :
    Except FileFault (FileTree × Location) :=
  match tree.resolve .create path with
  | .error fault => .error fault
  | .ok target =>
    match tree.medium.barsFile target.place with
    | some fault => .error fault
    | none =>
      match target with
      | .absent place => .ok (tree.put place (.file [] false), place)
      | .present place entry => (tree.openEntry empties place entry).map (·, place)

/-- Writes a content to what was opened and emptied at a location: a file holds as much of it as
there is room for. -/
def fill (tree : FileTree) (place : Location) (content : List UInt8) :
    FileTree × Option FileFault :=
  match tree.get? place with
  | some (.file _ executable) =>
    match tree.medium.breaksOff place content with
    | some (count, fault) => (tree.put place (.file (content.take count) executable), some fault)
    | none => (tree.put place (.file content executable), none)
  | some (.device .full) => (tree, if content.isEmpty then none else some .noSpace)
  | _ => (tree, none)

/-- Tree after replacing the content of the file a path leads to, which is created if missing. -/
def writeContent (tree : FileTree) (path : String) (content : List UInt8) :
    Except FileFault FileTree :=
  match tree.openFile true path with
  | .error fault => .error fault
  | .ok (opened, place) =>
    match opened.fill place content with
    | (filled, none) => .ok filled
    | (_, some fault) => .error fault

end FileTree

end RepoCatalog
