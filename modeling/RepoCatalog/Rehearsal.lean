import RepoCatalog.Json.Reader
import RepoCatalog.Program

/-!
# Rehearsals

A run against recorded pages of projects in which no program is started: every program counts as
successful, and the report tells what would have been started and written.
-/

namespace RepoCatalog.Rehearsal

/-- The page that a recorded answer describes. -/
def pageOf (answer : Json) : Page :=
  let records := match answer.field? "items" with
    | some (.array items) => items
    | _ => []
  let next := match answer.field? "next_page" with
    | some (.integer number) => some number
    | _ => none
  ⟨records, next⟩

/-- The pages that a recording describes: an array of answers. -/
def pagesOf (recording : List Char) : List Page :=
  match Json.read? recording with
  | some (.array answers) => answers.map pageOf
  | _ => []

/-- The directory in which a rehearsal takes place. -/
def working : Location := ["rehearsal"]

/-- Files of a rehearsal: the ones given, each with its path. -/
def filesWith (given : List (String × List UInt8)) : FileTree :=
  given.foldl (fun files (path, content) =>
    let (files, _) := files.ensureDirectory (FilePath.ofString path).parent
    match files.writeContent path content with
    | .ok files => files
    | .error _ => files) { entries := [(working, .directory)], working := working }

/-- The world of a rehearsal. -/
def world (environment : Environment) (given : List (String × List UInt8)) (pages : List Page) :
    World :=
  { files := filesWith given, environment := environment
    server := ⟨none, none, pages.map .ok⟩, launcher := .ofArguments fun _ => .ok 0
    clock := ⟨1970, 1, 1, 0, 0, 0, "0.0"⟩, journal := ⟨[]⟩, recorder := .caller, history := [] }

/-- Line about something that happened, if the report mentions it. -/
def line? (files : FileTree) : Event → Option String
  | .launched launch => some ("would run: " ++ Launch.shownArguments launch.arguments ++ "\n")
  | .wroteFile path =>
    match files.contentOf path.text with
    | .error _ => none
    | .ok content =>
      match Text.decodeUtf8 content with
      | .ok text => some ("would write " ++ path.text ++ ":\n" ++ String.ofList text ++ "\n")
      | .error _ => none
  | _ => none

/-- Report on the world after a rehearsal. -/
def report (world : World) : String :=
  String.join (world.events.filterMap (line? world.files))

/-- Exit status of the program after it ended. -/
def status : Ending → Int
  | .returned => 0
  | .exited status _ => status
  | .failed _ => 1

/-- What the program says about its ending on the error stream. -/
def notice : Ending → String
  | .returned => ""
  | .exited 2 complaint => "livegrep-gitlab-reindex: error: " ++ complaint ++ "\n"
  | .exited _ notice => notice
  | .failed failure => failure.message ++ "\n"

end RepoCatalog.Rehearsal
