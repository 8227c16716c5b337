import RepoCatalog.Association
import RepoCatalog.Launch
import RepoCatalog.Process.Shell.Syntax
import RepoCatalog.Process.System

/-!
# Sessions

The state of a running program and of the programs that wait for it, and the actions that programs
consist of. A program may end, be killed or jump out of what it is doing; an action reports this
instead of a result.
-/

namespace RepoCatalog

/-- A variable of the shell. -/
structure Variable where
  /-- Its value, if it has one. -/
  value : Option Octets
  /-- Whether programs are told about it. -/
  exported : Bool
  /-- Whether it must not be changed. -/
  readOnly : Bool
  deriving DecidableEq, Repr

/-- Variables that programs are told about, with their values. -/
abbrev Bindings := List (Octets × Octets)

/-- A running program. Most of it only matters to the shell. -/
structure Process where
  /-- Number of the process. -/
  number : Nat
  /-- Number of the shell that it belongs to. -/
  shell : Nat
  /-- Name that it was called by. -/
  name : Octets
  /-- Arguments. -/
  arguments : List Octets
  /-- What it was told when it was started. -/
  bindings : Bindings
  /-- Streams of its descriptors. -/
  descriptors : List (Nat × Nat)
  /-- Status of the last command. -/
  status : Nat
  /-- Status of the last command whose output was inserted. -/
  insertedStatus : Nat
  /-- Line of the last command. -/
  line : Nat
  /-- Line on which the function under way begins. -/
  functionLine : Nat
  /-- Builtin command under way. -/
  command : Option Octets
  /-- Variables. -/
  scope : List (Octets × Variable)
  /-- Variables to be restored at the end of the present function. -/
  locals : List (Octets × Option Variable)
  /-- Names of programs that were found along the search path. -/
  hashed : List Octets
  /-- Functions. -/
  functions : List (Octets × Shell.Command)
  /-- Names and the words that are read in place of them where commands begin. -/
  aliases : List (Octets × Octets)
  /-- Bodies of here-documents. -/
  documents : List (Nat × Shell.Word)
  /-- Options that are set. -/
  options : List Char
  /-- Commands to be run on signals; signal zero is the end of the shell. -/
  traps : List (Nat × Octets)
  /-- Status that the shell had when the command for a signal began. -/
  statusBefore : Option Nat
  /-- How many loops are under way. -/
  loops : Nat
  /-- How many functions are under way. -/
  calls : Nat
  /-- Number of the argument that is searched for options next. -/
  optionIndex : Nat
  /-- Position within an argument that holds several options. -/
  optionOffset : Option Nat
  /-- Path of the working directory, with the links that led there. -/
  directory : Octets
  /-- Number of the last process in the background. -/
  background : Option Nat
  /-- Bits that are taken away from the modes of new files. -/
  mask : Nat

/-- How a process ended. -/
inductive Outcome
  | exited (status : Nat)
  | killed (signal : Nat)
  deriving DecidableEq, Repr

namespace Outcome

/-- The status by which a shell knows how a process ended. -/
def status : Outcome → Nat
  | exited status => status
  | killed signal => 128 + signal

end Outcome

/-- A process in the background: it runs when it is waited for. -/
inductive Job
  | waiting (process : Process) (working : Location) (command : Shell.Command)
  | done (outcome : Outcome)

/-- A process that waits for the present one. -/
structure Ancestor where
  /-- Its number. -/
  number : Nat
  /-- What it does on signals. -/
  traps : List (Nat × Octets)

/-- Everything that running programs depend on. -/
structure Session where
  /-- Files and streams. -/
  system : System
  /-- The program that runs. -/
  process : Process
  /-- The processes that wait for it, nearest first. -/
  ancestors : List Ancestor
  /-- Signals on which processes have yet to act, with those processes. -/
  signals : List (Nat × Nat)
  /-- Processes in the background, by number. -/
  jobs : List (Nat × Job)
  /-- Number of the process started last. -/
  started : Nat

/-- Why an action does not go on. -/
inductive Interrupt
  | ended
  | failed
  | killed (process signal : Nat)
  | left (levels : Nat)
  | continued (levels : Nat)
  | returned
  deriving DecidableEq, Repr

/-- Something that a program does. -/
abbrev Act := ExceptT Interrupt (StateM Session)

namespace Act

/-- The running program. -/
def process : Act Process :=
  return (← get).process

/-- Changes the running program. -/
def change (edit : Process → Process) : Act Unit :=
  modify fun session => { session with process := edit session.process }

/-- Files as they are. -/
def files : Act FileTree :=
  return (← get).system.files

/-- Replaces the files. -/
def setFiles (files : FileTree) : Act Unit :=
  modify fun session => { session with system := { session.system with files := files } }

/-- Ends the program with a status. -/
def finish {α : Type} (status : Nat) : Act α := do
  change fun process => { process with status := status }
  throw .ended

/-- Stream of a descriptor. -/
def stream? (descriptor : Nat) : Act (Option Nat) :=
  return (← process).descriptors.lookup descriptor

/-- Makes a descriptor lead to a stream, or nowhere. -/
def connect (descriptor : Nat) (stream : Option Nat) : Act Unit :=
  change fun process =>
    let others := process.descriptors.filter (·.1 ≠ descriptor)
    { process with descriptors := match stream with
        | some stream => (descriptor, stream) :: others
        | none => others }

/-- Adds a stream and gives its number. -/
def addStream (stream : Stream) : Act Nat := do
  let session ← get
  let (system, number) := session.system.add stream
  set { session with system := system }
  return number

/-- Writes text to a stream. -/
def writeStream (stream : Nat) (text : Octets) : Act (Except FileFault Unit) := do
  let session ← get
  match session.system.write stream text with
  | .ok system =>
    set { session with system := system }
    return .ok ()
  | .error fault => return .error fault

/-- Writes text to a descriptor. -/
def tryWrite (descriptor : Nat) (text : Octets) : Act (Except FileFault Unit) := do
  match (← process).descriptors.lookup descriptor with
  | none => return if text.isEmpty then .ok () else .error .badDescriptor
  | some stream => writeStream stream text

/-- Writes a message to the descriptor for messages. -/
def say (message : Octets) : Act Unit := do
  let _ ← tryWrite 2 (message ++ ['\n'])

/-- What is left to be read of a descriptor. -/
def unread (descriptor : Nat) : Act (Except FileFault Octets) := do
  let session ← get
  match session.process.descriptors.lookup descriptor with
  | none => return .error .badDescriptor
  | some stream => return session.system.rest stream

/-- Counts bytes of a descriptor as read. -/
def skip (descriptor count : Nat) : Act Unit := do
  let session ← get
  match session.process.descriptors.lookup descriptor with
  | none => pure ()
  | some stream => set { session with system := session.system.advance stream count }

/-- Reads a descriptor to its end. -/
def readAll (descriptor : Nat) : Act (Except FileFault Octets) := do
  match ← unread descriptor with
  | .ok text =>
    skip descriptor text.length
    return .ok text
  | .error fault => return .error fault

/-- Streams of descriptors that have a path, which opening gives again. -/
def descriptorPath? (path : String) : Option Nat :=
  match path with
  | "/dev/stdin" => some 0
  | "/dev/stdout" => some 1
  | "/dev/stderr" => some 2
  | path =>
    let number? (start : String) : Option Nat :=
      if start.toList.isPrefixOf path.toList then
        let digits := path.toList.drop start.length
        if !digits.isEmpty && digits.all Char.isDigit then (String.ofList digits).toNat? else none
      else none
    (number? "/dev/fd/").or (number? "/proc/self/fd/")

/-- Opens a file and gives its stream. -/
def openStream (opening : Opening) (exclusive : Bool) (path : Octets) :
    Act (Except FileFault Nat) := do
  let path := Octets.toString path
  match descriptorPath? path with
  | some descriptor =>
    match ← stream? descriptor with
    | some stream => return .ok stream
    | none => return .error .noEntry
  | none =>
    let session ← get
    match session.system.openFile opening exclusive path with
    | .error fault => return .error fault
    | .ok (system, stream) =>
      set { session with system := system }
      return .ok (← addStream stream)

/-- Content of a file. -/
def readFile (path : Octets) : Act (Except FileFault Octets) := do
  match ← openStream .read false path with
  | .error fault => return .error fault
  | .ok stream =>
    let session ← get
    match session.system.rest stream with
    | .ok text =>
      set { session with system := session.system.advance stream text.length }
      return .ok text
    | .error fault => return .error fault

/-- Runs an action with a number of its own, as a copy of the running program, and tells how it
ended. Interrupts that concern a process further out go on. -/
def inChild (prepare : Process → Process) (action : Act Unit) : Act Outcome := do
  let before ← get
  let child := prepare { before.process with number := before.started + 1 }
  let ancestor : Ancestor := ⟨before.process.number, before.process.traps⟩
  set { before with
    started := max before.started child.number, ancestors := ancestor :: before.ancestors
    process := child, jobs := [] }
  let result : Except Interrupt Unit ← (try
    action
    pure (.ok ())
  catch interrupt => pure (.error interrupt))
  let after ← get
  set { after with
    process := before.process, ancestors := before.ancestors, jobs := before.jobs
    system := { after.system with
      files := { after.system.files with working := before.system.files.working } } }
  match result with
  | .error (.killed process signal) =>
    if process = child.number then return .killed signal else throw (.killed process signal)
  | _ => return .exited after.process.status

end Act

end RepoCatalog
