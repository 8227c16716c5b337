import RepoCatalog.Journal.Build
import RepoCatalog.Proofs.Effect
import RepoCatalog.Proofs.File.Writing

/-!
# Loggers that are set up

A logger that was set up has its own handlers and no others, whatever it was before. Its file is
where its path leads, and nothing is written to any file.
-/

namespace RepoCatalog

open Effect

/-! ## Opening a log file -/

namespace LoggerOptions

/-- Options that name a file. -/
def namesFile (options : LoggerOptions) : Bool :=
  options.file.any (· ≠ "")

/-- Where the file of a logger is, given the files before and after the logger was set up. -/
def place? (options : LoggerOptions) (environment : Environment) (before after : FileTree) :
    Option Location :=
  match options.file with
  | none => none
  | some "" => none
  | some file =>
    match Journal.settlePath before environment file with
    | .error _ => none
    | .ok path =>
      match after.resolve .follow path.text with
      | .ok (.present place _) => some place
      | _ => none

/-- Handlers of a logger with these options, given where its file is. -/
def handlersFor (options : LoggerOptions) (place : Option Location) : List Handler :=
  options.handler .console :: (place.map fun place => options.handler (.file place)).toList

theorem level_of_mem_handlersFor (options : LoggerOptions) (place : Option Location) :
    ∀ handler ∈ options.handlersFor place, handler.level = options.level := by
  intro handler member
  rcases List.mem_cons.mp member with rfl | member
  · rfl
  · obtain ⟨there, -, rfl⟩ := Option.map_eq_some_iff.mp (Option.mem_toList.mp member)
    rfl

end LoggerOptions

/-- A tree after a log file was opened: beyond what it held there are only directories and that
file, empty. -/
structure FileTree.Opens (tree later : FileTree) (place : Option Location) : Prop where
  /-- What was there is there. -/
  more : tree.Extends later
  /-- What is new is the empty file or a directory. -/
  new : ∀ other entry, tree.get? other = none → later.get? other = some entry →
    entry = if place = some other then .file [] false else .directory
  /-- The file is there: it is no directory and no link. -/
  held : ∀ other, place = some other →
    ∃ entry, later.get? other = some entry ∧ entry.IsOpenable

namespace Journal

end Journal

/-- A file that was opened is where its path leads, empty if it is new. -/
theorem FileTree.resolve_of_openFile {tree later : FileTree} {path : String} {place : Location}
    (opened : tree.openFile false path = .ok (later, place)) :
    (∃ entry, later.resolve .follow path = .ok (.present place entry) ∧ entry.IsOpenable) ∧
    (later = tree ∨ tree.get? place = none ∧ later = tree.put place (.file [] false)) := by
  rcases openFile_cases opened with ⟨-, ⟨resolved, rfl⟩ | ⟨entry, resolved, entered⟩⟩
  · exact ⟨⟨_, resolve_put resolved (.inl rfl), .file [] false⟩,
      .inr ⟨foundIn_of_resolve resolved, rfl⟩⟩
  · have leads := resolve_follow_of_create resolved
    cases entry with
    | directory => cases entered
    | file content executable =>
        cases entered
        exact ⟨⟨_, leads, .file content executable⟩, .inl rfl⟩
    | link text => exact ((resolve_eq_ok_iff.mp resolved).2.2.not_link rfl).elim
    | tool program =>
        obtain rfl := openEntry_of_isSpecial (.tool program) entered
        exact ⟨⟨_, leads, .special (.tool program)⟩, .inl rfl⟩
    | device device =>
        obtain rfl := openEntry_of_isSpecial (.device device) entered
        exact ⟨⟨_, leads, .special (.device device)⟩, .inl rfl⟩

theorem FileTree.Opens.refl (tree : FileTree) : tree.Opens tree none := by
  refine ⟨.refl tree, fun other entry free held => ?_, nofun⟩
  rw [free] at held
  cases held

/-- A file opened behind directories that were made. -/
theorem FileTree.Paves.opens {tree middle later : FileTree} {directory : FilePath} {path : String}
    {place : Location} (paves : tree.Paves middle directory)
    (opened : middle.openFile false path = .ok (later, place)) : tree.Opens later (some place) := by
  obtain ⟨⟨entry, leads, openable⟩, files⟩ := resolve_of_openFile opened
  have held : later.get? place = some entry := by
    rcases foundIn_of_resolve leads with rfl | held
    · exact absurd openable Entry.not_isOpenable_directory
    · exact held
  refine ⟨?_, fun other new free there => ?_, fun other same => ?_⟩
  · rcases files with rfl | ⟨free, rfl⟩
    · exact paves.more
    · exact paves.more.trans (extends_put free _)
  · rcases files with rfl | ⟨unmade, rfl⟩
    · obtain ⟨rfl, -⟩ := paves.new other new free there
      have apart : ¬ some place = some other := by
        rintro ⟨⟩
        obtain rfl := Option.some.inj (held.symm.trans there)
        exact Entry.not_isOpenable_directory openable
      rw [if_neg apart]
    · by_cases here : other = place
      · subst here
        rw [get?_put_self middle (ne_nil_of_free free)] at there
        rw [if_pos rfl, Option.some.inj there]
      · rw [get?_put_of_ne middle here] at there
        rw [if_neg fun same => here (Option.some.inj same).symm]
        exact (paves.new other new free there).1
  · obtain rfl := Option.some.inj same
    exact ⟨entry, held, openable⟩

/-! ## Setting up -/

/-- A logger was set up in a world, with its file, if it names one, at a place. -/
structure LoggerOptions.SetsUp (options : LoggerOptions) (before after : World)
    (place : Option Location) : Prop where
  /-- It has its level, exactly its own handlers, and hands nothing on. -/
  logger : after.journal.logger (Journal.properName options.name) =
    ⟨options.level, false, options.handlersFor place⟩
  /-- There is a place if it names a file. -/
  named : place.isSome = options.namesFile
  /-- Nothing was printed. -/
  events : after.events = before.events
  /-- Texts are written out as before. -/
  encoding : after.encoding = before.encoding
  /-- Nothing was written. -/
  opens : before.files.Opens after.files place

end RepoCatalog
