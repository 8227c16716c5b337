import RepoCatalog.Process.Octets
import RepoCatalog.File.Tree

/-!
# Open files

Files as running programs see them: descriptors lead to streams, and a stream remembers where it
leads and how far it was read or written. Several descriptors may share a stream.
-/

namespace RepoCatalog

/-- Where a stream leads: to whoever started the first program, nowhere, or to something else. -/
inductive Channel
  | console
  | nowhere
  | device (device : Device)
  | file (place : Location)
  | directory (place : Location)
  | buffer (content : Octets)
  deriving DecidableEq, Repr

/-- An open file. -/
structure Stream where
  /-- Where it leads. -/
  channel : Channel
  /-- How far it was read or written. -/
  position : Nat
  /-- Whether it can be read. -/
  reads : Bool
  /-- Whether it can be written. -/
  writes : Bool
  /-- Whether it is always written at its end. -/
  appends : Bool
  deriving DecidableEq, Repr

/-- How a file is opened. -/
inductive Opening
  | read
  | write
  | append
  | readWrite
  deriving DecidableEq, Repr

/-- Whether a file may be created by opening it. -/
def Opening.creates : Opening → Bool
  | read => false
  | _ => true

/-- A stream that begins at the beginning. -/
def Opening.stream (opening : Opening) (channel : Channel) : Stream :=
  ⟨channel, 0, opening == .read || opening == .readWrite, opening != .read, opening == .append⟩

/-- What running programs share. -/
structure System where
  /-- Files. -/
  files : FileTree
  /-- Streams, by number. -/
  streams : Array Stream
  /-- What was written to the console, latest first. -/
  shown : List Octets

namespace System

/-- How many bytes of an endless file are read at most. -/
def endlessSize : Nat := 65536

/-- What was written to the console. -/
def console (system : System) : Octets :=
  (system.shown.reverse).flatten

/-- System with one more stream, and the number of that stream. -/
def add (system : System) (stream : Stream) : System × Nat :=
  ({ system with streams := system.streams.push stream }, system.streams.size)

/-- System with a stream replaced. -/
def set (system : System) (number : Nat) (stream : Stream) : System :=
  { system with streams := system.streams.setIfInBounds number stream }

/-- Content of a file at a location. -/
def contentAt (system : System) (place : Location) : List UInt8 :=
  match system.files.get? place with
  | some (.file content _) => content
  | _ => []

/-- What is left to be read of a stream. -/
def rest (system : System) (number : Nat) : Except FileFault Octets :=
  match system.streams[number]? with
  | none => .error .badDescriptor
  | some stream =>
    if !stream.reads then .error .badDescriptor
    else
      match stream.channel with
      | .device .zero | .device .full => .ok (List.replicate endlessSize '\x00')
      | .console | .nowhere | .device _ => .ok []
      | .directory _ => .error .isDirectory
      | .buffer content => .ok (content.drop stream.position)
      | .file place => .ok (Octets.ofBytes ((system.contentAt place).drop stream.position))

/-- System after some bytes of a stream were read. -/
def advance (system : System) (number count : Nat) : System :=
  match system.streams[number]? with
  | none => system
  | some stream => system.set number { stream with position := stream.position + count }

/-- Content with some bytes written at a position; what is missing before it is filled up. -/
def overwrite (content : List UInt8) (position : Nat) (bytes : List UInt8) : List UInt8 :=
  content.take position ++ List.replicate (position - content.length) 0 ++ bytes
    ++ content.drop (position + bytes.length)

/-- System after a file at a location got other content. -/
def store (system : System) (place : Location) (content : List UInt8) : System :=
  match system.files.get? place with
  | some (.file _ executable) =>
    { system with files := system.files.put place (.file content executable) }
  | _ => system

/-- System after some text was written to a stream. -/
def write (system : System) (number : Nat) (text : Octets) : Except FileFault System :=
  match system.streams[number]? with
  | none => .error .badDescriptor
  | some stream =>
    if !stream.writes then .error .badDescriptor
    else
      match stream.channel with
      | .console => .ok { system with shown := text :: system.shown }
      | .device .full => if text.isEmpty then .ok system else .error .noSpace
      | .nowhere | .device _ => .ok system
      | .directory _ => .error .badDescriptor
      | .buffer content =>
        .ok (system.set number { stream with channel := .buffer (content ++ text) })
      | .file place =>
        let content := system.contentAt place
        let position := if stream.appends then content.length else stream.position
        let changed := overwrite content position (Octets.toBytes text)
        .ok ((system.store place changed).set number
          { stream with position := position + text.length })

/-- Opens a file; an exclusive opening refuses to write a file that is there. -/
def openFile (system : System) (opening : Opening) (exclusive : Bool) (path : String) :
    Except FileFault (System × Stream) :=
  match system.files.resolve (if opening.creates then .create else .follow) path with
  | .error fault => .error fault
  | .ok (.absent place) =>
    if opening.creates then
      .ok ({ system with files := system.files.put place (.file [] false) },
        opening.stream (.file place))
    else .error .noEntry
  | .ok (.present place entry) =>
    match entry with
    | .directory =>
      if opening.creates then .error .isDirectory
      else .ok (system, opening.stream (.directory place))
    | .file _ _ =>
      if exclusive then .error .entryExists
      else
        .ok (if opening == .write then system.store place [] else system,
          opening.stream (.file place))
    | .device .terminal => .error .noDevice
    | .device device => .ok (system, opening.stream (.device device))
    | _ => .ok (system, opening.stream .nowhere)

end System

end RepoCatalog
