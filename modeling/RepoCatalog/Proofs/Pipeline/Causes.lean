import RepoCatalog.Proofs.Contract
import RepoCatalog.Proofs.History
import RepoCatalog.Proofs.Pipeline.Archive
import RepoCatalog.Proofs.Pipeline.Invariance
import RepoCatalog.Proofs.Specification.Content
import RepoCatalog.Proofs.Text.Encoding

/-!
# Causes of failure

A run against a server and programs that fail in their own ways only. Whatever a stage before the
specification is written fails with is reported, or is an interruption, or has a cause in what the
run was given: a listed record, its configuration or the width of its terminal.
-/

namespace RepoCatalog

open Effect

/-! ## What a run depends on -/

namespace World

/-- Messages of the failures that were recorded so far. -/
def errors (world : World) : List String :=
  (world.records.filter fun record => record.1 = Level.error).map Prod.snd

/-- A record of a project is on a page that the server may answer with. -/
def Offers (world : World) (record : Json) : Prop :=
  ∃ page, .ok page ∈ world.server.answers ∧ record ∈ page.records

end World

/-- What is wrong with the record of a project that a run cannot take. -/
inductive Misfit (encoding : Encoding) (record : Json) : Failure → Prop
  | nameless (absent : record.field? Repository.pathField = none) :
      Misfit encoding record (.missingKey (some Repository.pathField))
  | parent (truthy : (Repository.memberOf "forked_from_project" record).isTruthy = true)
      (other : ∀ members, Repository.memberOf "forked_from_project" record ≠ .object members) :
      Misfit encoding record .missingAttribute
  | path {path : Json} (found : record.field? Repository.pathField = some path)
      (other : path.isText = false) : Misfit encoding record .wrongType
  | number (long : record.Holds Json.IsLong) : Misfit encoding record .numberTooLong
  | character {c : Char} (told : record.Holds (Json.Tells c)) (lone : encoding.isLone c = true)
      (position count : Nat) :
      Misfit encoding record (.notEncodable ⟨position, c.toNat - 0x800, count⟩)

/-- Texts of a configuration that a specification tells. -/
def Configuration.told (configuration : Configuration) : List (Given String) :=
  [configuration.name, configuration.directory, configuration.revision, configuration.urlPattern,
    configuration.httpUser]

/-- What is wrong with a configuration that a run cannot follow. -/
inductive Misuse (encoding : Encoding) (configuration : Configuration) (invocation : String) :
    Failure → Prop
  | ignoreList {path : String} (named : configuration.ignoreList = some (.value path))
      (null : hasNull (FilePath.ofString path).text = true) :
      Misuse encoding configuration invocation .embeddedNull
  | specification (null : hasNull (FilePath.ofString configuration.specificationPath).text = true ∨
        hasNull (FilePath.ofString configuration.specificationPath).parent.text = true) :
      Misuse encoding configuration invocation .embeddedNull
  | address (missing : configuration.address = .nothing) :
      Misuse encoding configuration invocation .missingAttribute
  | proxy {proxy : String} {failure : Failure} (named : configuration.proxy = some (.value proxy))
      (unread : normalizeProxy proxy = .error failure) :
      Misuse encoding configuration invocation failure
  | directory (missing : configuration.directory = .nothing) :
      Misuse encoding configuration invocation .wrongType
  | number (long : Nat.pow 10 Failure.digitLimit ≤ (configuration.depth.getD 0).natAbs ∨
        Nat.pow 10 Failure.digitLimit ≤ (configuration.workers.getD 0).natAbs) :
      Misuse encoding configuration invocation .numberTooLong
  | character {text : String} {c : Char} (told : .value text ∈ configuration.told)
      (among : c ∈ text.toList) (lone : encoding.isLone c = true) (position count : Nat) :
      Misuse encoding configuration invocation (.notEncodable ⟨position, c.toNat - 0x800, count⟩)
  | program {strategy : Strategy} {candidate : String} {files : FileTree} {failure : Failure}
      (unnamed : (configuration.fetchReindex.bind Given.toOption).getD "" = "")
      (tried : strategy ∈ Strategy.defaults)
      (proposed : strategy Failure.delegateName invocation = some candidate)
      (unseen : Search.isUsable files candidate = .error failure) :
      Misuse encoding configuration invocation failure

/-- Why a run of a configuration that starts in a world may fail without a report. -/
inductive Cause (configuration : Configuration) (invocation : String) (start : World) :
    Failure → Prop
  | misfit {record : Json} {failure : Failure} (offered : start.Offers record)
      (misfit : Misfit start.encoding record failure) :
      Cause configuration invocation start failure
  | misuse {failure : Failure}
      (misuse : Misuse start.encoding configuration invocation failure) :
      Cause configuration invocation start failure
  | wide (unlaid : ¬ Discovery.LaidOut start) : Cause configuration invocation start .overflow

/-- A world that a run which started in another one may have reached, as long as it has not recorded
a failure. -/
structure World.Reaches (start world : World) : Prop where
  /-- The environment is the same. -/
  environment : world.environment = start.environment
  /-- Programs give the same replies. -/
  launcher : world.launcher = start.launcher
  /-- Clients are set up as before. -/
  refusal : world.server.refusal = start.server.refusal
  /-- Clients authenticate as before. -/
  rejection : world.server.rejection = start.server.rejection
  /-- The answers to come were to come from the start. -/
  answers : world.server.answers ⊆ start.server.answers
  /-- No failure was recorded. -/
  errors : world.errors = start.errors
  /-- Texts are written out as before. -/
  encoding : world.encoding = start.encoding

namespace World

variable {start world : World}

theorem errors_of_records {before after : World} (records : after.records = before.records) :
    after.errors = before.errors := by
  rw [errors, errors, records]

theorem errors_record (level : Level) (message : String) (world : World) :
    (world.record level message).errors =
      world.errors ++ if level = Level.error then [message] else [] := by
  rw [errors, records_record, List.filter_append, List.map_append, errors]
  by_cases same : level = Level.error <;> simp [same]

theorem Reaches.refl (world : World) : world.Reaches world :=
  ⟨rfl, rfl, rfl, rfl, List.Subset.refl _, rfl, rfl⟩

/-- Nothing but the answers that were taken keeps a run from where it was. -/
theorem Reaches.congr {later : World} (reached : start.Reaches world)
    (environment : later.environment = world.environment)
    (launcher : later.launcher = world.launcher) (server : later.server = world.server)
    (errors : later.errors = world.errors) (encoding : later.encoding = world.encoding) :
    start.Reaches later where
  environment := environment.trans reached.environment
  launcher := launcher.trans reached.launcher
  refusal := server ▸ reached.refusal
  rejection := server ▸ reached.rejection
  answers := server ▸ reached.answers
  errors := errors.trans reached.errors
  encoding := encoding.trans reached.encoding

theorem Reaches.withFiles (files : FileTree) (reached : start.Reaches world) :
    start.Reaches { world with files := files } :=
  reached.congr rfl rfl rfl (errors_of_records rfl) rfl

theorem Reaches.withJournal (journal : Journal) (reached : start.Reaches world) :
    start.Reaches { world with journal := journal } :=
  reached.congr rfl rfl rfl (errors_of_records rfl) rfl

theorem Reaches.note {event : Event} (unrecorded : event.record? = none)
    (reached : start.Reaches world) : start.Reaches (world.note event) := by
  refine reached.congr rfl rfl rfl (errors_of_records ?_) rfl
  rw [records_of_events (events_note event world), List.filterMap_cons_none unrecorded,
    List.filterMap_nil, List.append_nil]

theorem Reaches.reports {later : World} (reached : start.Reaches world)
    (reported : world.Reports later) (errors : later.errors = world.errors) :
    start.Reaches later :=
  reached.congr reported.environment reported.launcher reported.server errors reported.encoding

theorem Reaches.record {level : Level} (harmless : level ≠ Level.error) (message : String)
    (reached : start.Reaches world) : start.Reaches (world.record level message) := by
  refine reached.reports (reports_record level message world) ?_
  rw [errors_record, if_neg harmless, List.append_nil]

theorem Reaches.afterLaunch (request : Launch) (reached : start.Reaches world) :
    start.Reaches (world.afterLaunch request) := by
  refine reached.congr ?_ (launcher_afterLaunch request world) ?_
    (errors_of_records (records_afterLaunch request world)) ?_
  all_goals
    unfold World.afterLaunch
    split <;> rfl

theorem Reaches.askedFor (request : PageRequest) (reached : start.Reaches world) :
    start.Reaches (Discovery.askedFor request world) where
  environment := reached.environment
  launcher := reached.launcher
  refusal := reached.refusal
  rejection := reached.rejection
  answers := fun _ later => reached.answers (List.mem_of_mem_tail later)
  errors := by
    have noted : start.Reaches (world.note (.listed request)) := reached.note rfl
    exact noted.errors
  encoding := reached.encoding

end World

/-! ## Parts of a run -/

section Contracts

variable {configuration : Configuration} {invocation : String} {start : World} {α : Type}
  {returns : α → Prop} {fails : Failure → Prop}

end Contracts

end RepoCatalog
