import RepoCatalog.File.Directories
import RepoCatalog.Specification.Types
import RepoCatalog.World

/-!
# Storing specifications

A specification is written to its file after the directories on the way are made.
-/

namespace RepoCatalog.Specification

open Effect

/-- Makes the directory of a file and its missing ancestors. -/
def prepareDirectory (directory : FilePath) : Effect Unit := do
  if hasNull directory.text then throw .embeddedNull
  let (files, problem) := (← get).files.ensureDirectory directory
  modify fun world => { world with files := files }
  note (.preparedDirectory directory)
  match problem with
  | some error => throw (.directoryNotCreated directory error)
  | none => pure ()

/-- Opens a file and empties it, or creates it, and tells where it is. -/
def clearFile (path : FilePath) : Effect Location := do
  if hasNull path.text then throw .embeddedNull
  match (← get).files.openFile true path.text with
  | .error fault => throw (.fileNotWritten path (fault.about path.text))
  | .ok (files, place) =>
    modify fun world => { world with files := files }
    note (.clearedFile path)
    return place

/-- Writes a text to a file that was opened; if that breaks off, the file keeps what was written. -/
def fillFile (path : FilePath) (place : Location) (text : String) : Effect Unit := do
  let content ← ofExcept ((← get).encoding.encode text)
  let (files, problem) := (← get).files.fill place content
  modify fun world => { world with files := files }
  match problem with
  | some fault =>
    note (.brokeOff path)
    throw (.fileNotWritten path fault.bare)
  | none =>
    note (.wroteFile path)
    if files.get? place = some (.device .output) then note (.printed text)

/-- Replaces the content of a file. -/
def writeText (path : FilePath) (text : String) : Effect Unit := do
  fillFile path (← clearFile path) text

/-- Writes a specification to the file at a path and gives the path in normal form. -/
def store (specification : Specification) (path : String) : Effect FilePath := do
  let path := FilePath.ofString path
  prepareDirectory path.parent
  writeText path (← ofExcept specification.render)
  return path

end RepoCatalog.Specification
