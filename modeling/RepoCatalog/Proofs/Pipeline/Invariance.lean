import RepoCatalog.Program
import RepoCatalog.Proofs.Kindred
import RepoCatalog.Proofs.Pipeline.Pairs
import RepoCatalog.Proofs.Specification.Content

/-!
# The order of a listing

Runs over listings that are permutations of each other, however they are split into pages and
groups, end in the same way, write the same specification and launch the same programs.
-/

namespace RepoCatalog

open Effect

/-! ## Kindred worlds side by side -/

namespace World

/-- Kindred worlds whose launcher is plain. -/
structure PlainKindred (one other : World) : Prop where
  /-- They differ at most in what was listed and recorded. -/
  kindred : one.Kindred other
  /-- The launcher is plain. -/
  plain : one.launcher.IsPlain one.IsLog

/-- Worlds in which the same was launched. Without log files, they hold the same files. -/
structure Parted (one other : World) : Prop where
  /-- The same was launched. -/
  launches : one.launches = other.launches
  /-- Without log files they hold the same files. -/
  files : (∀ place, ¬ one.IsLog place) → one.files = other.files

namespace PlainKindred

variable {one other : World}

theorem parted (related : PlainKindred one other) : Parted one other :=
  ⟨related.kindred.launches, related.kindred.same⟩

/-- Worlds stay alike while each stays kindred to what it was. -/
theorem congr {left right : World} (related : PlainKindred one other) (first : one.Kindred left)
    (second : other.Kindred right) : PlainKindred left right :=
  ⟨related.kindred.congr first second, first.isLog ▸ first.launcher ▸ related.plain⟩

theorem note {event : Event} (unlaunched : event.launch? = none)
    (related : PlainKindred one other) : PlainKindred (one.note event) (other.note event) :=
  related.congr (kindred_note unlaunched one) (kindred_note unlaunched other)

theorem record (level : Level) (message : String) (related : PlainKindred one other) :
    PlainKindred (one.record level message) (other.record level message) :=
  related.congr (kindred_record _ _ one) (kindred_record _ _ other)

theorem withFiles {files others : FileTree} (like : files.LikeBut one.IsLog others)
    (same : one.files = other.files → files = others) (related : PlainKindred one other) :
    PlainKindred { one with files := files } { other with files := others } :=
  ⟨{ related.kindred with
      files := like, same := fun unlogged => same (related.kindred.same unlogged) },
    related.plain⟩

theorem paired_log (level : Level) (message : String) :
    Paired PlainKindred (log level message) (log level message) :=
  paired_modify fun _ _ related => related.record level message

theorem paired_note {event : Event} (unlaunched : event.launch? = none) :
    Paired PlainKindred (Effect.note event) (Effect.note event) :=
  paired_modify fun _ _ related => related.note unlaunched

theorem outcome_reply (related : PlainKindred one other) (request : Launch) :
    (one.reply request).outcome = (other.reply request).outcome := by
  obtain ⟨answer, answers⟩ := related.plain.outcome
  rw [World.reply, World.reply, ← related.kindred.launcher, answers, answers]

theorem paired_launch {request : Launch} (quiet : request.quiet = true) :
    Paired PlainKindred (launch request) (launch request) := by
  intro one other related
  rw [run_launch, run_launch]
  refine ⟨related.outcome_reply request, related.kindred.afterLaunch related.plain quiet, ?_⟩
  rw [launcher_afterLaunch, isLog_afterLaunch]
  exact related.plain

/-- A program that is not quiet may do what it likes to files. -/
theorem parts_launch (request : Launch) :
    Parts PlainKindred Parted (launch request) (launch request) := by
  intro one other related
  rw [run_launch, run_launch]
  refine ⟨related.outcome_reply request, ?_, fun unlogged => ?_⟩
  · rw [launches_afterLaunch, launches_afterLaunch, related.kindred.launches]
  · rw [isLog_afterLaunch] at unlogged
    rw [files_afterLaunch, files_afterLaunch, related.kindred.reply unlogged]

theorem paired_prepareDirectory (directory : FilePath) :
    Paired PlainKindred (Specification.prepareDirectory directory)
      (Specification.prepareDirectory directory) := by
  intro one other related
  obtain ⟨trees, problems⟩ := related.kindred.files.ensureDirectory directory
  rw [Specification.run_prepareDirectory, Specification.run_prepareDirectory, ← problems]
  split
  · exact ⟨rfl, related⟩
  · exact ⟨rfl, (related.withFiles trees fun same => by rw [same]).note rfl⟩

theorem paired_clearFile (path : FilePath) :
    Paired PlainKindred (Specification.clearFile path) (Specification.clearFile path) := by
  intro one other related
  have opens := related.kindred.files.openFile true path.text
  have same (equal : one.files = other.files) :
      one.files.openFile true path.text = other.files.openFile true path.text := by rw [equal]
  rw [Specification.run_clearFile, Specification.run_clearFile]
  split
  · exact ⟨rfl, related⟩
  · generalize one.files.openFile true path.text = first at opens same ⊢
    generalize other.files.openFile true path.text = second at opens same ⊢
    cases opens with
    | error fault => exact ⟨rfl, related⟩
    | @ok opened twin both =>
        obtain ⟨trees, places⟩ := both
        have equal (equal : one.files = other.files) : opened.1 = twin.1 :=
          congrArg Prod.fst (Except.ok.inj (same equal))
        exact ⟨congrArg Except.ok places, (related.withFiles trees equal).note rfl⟩

theorem paired_fillFile (path : FilePath) (place : Location) (text : String) :
    Paired PlainKindred (Specification.fillFile path place text)
      (Specification.fillFile path place text) := by
  intro one other related
  rw [Specification.run_fillFile, Specification.run_fillFile, ← related.kindred.encoding]
  split
  · exact ⟨rfl, related⟩
  · rename_i content _
    obtain ⟨trees, problems⟩ := related.kindred.files.fill place content
    have filled := related.withFiles trees fun same => by rw [same]
    refine ⟨by rw [← problems], ?_⟩
    simp only [Specification.afterFilling, ← problems]
    split
    · exact filled.note rfl
    · have shown : (one.files.fill place content).1.get? place = some (.device .output) ↔
          (other.files.fill place content).1.get? place = some (.device .output) := by
        have held := trees.held place
        generalize (one.files.fill place content).1.get? place = here at held ⊢
        generalize (other.files.fill place content).1.get? place = there at held ⊢
        cases held with
        | none => rfl
        | some entries =>
            cases entries with
            | same => rfl
            | file => simp
      by_cases printed : (one.files.fill place content).1.get? place = some (.device .output)
      · rw [if_pos printed, if_pos (shown.mp printed)]
        exact (filled.note rfl).note rfl
      · rw [if_neg printed, if_neg (mt shown.mpr printed)]
        exact filled.note rfl

theorem runsKeep (configuration : Configuration) (groups others : List (Given String))
    (perPage size : Given Int) :
    RunsKeep { configuration with groups := groups, perPage := perPage }
      { configuration with groups := others, perPage := size } PlainKindred Parted where
  resembles := ⟨configuration.token, others, size, rfl⟩
  anonymous := Iff.rfl
  environment := fun _ _ related => related.kindred.environment
  usable := fun _ _ related => related.kindred.files.isUsable
  log := paired_log
  refusal := fun _ _ related => related.kindred.refusal
  rejection := fun _ _ related => related.kindred.rejection
  connected := fun _ _ => paired_note rfl
  authenticated := paired_note rfl
  check := fun _ _ _ => paired_launch rfl
  prepare := paired_prepareDirectory
  clear := paired_clearFile
  fill := paired_fillFile
  weaker := fun _ _ related => related.parted
  delegate := fun _ _ => parts_launch _

end PlainKindred

end World

/-! ## Listing and selecting -/

/-- One world twice, kindred to an earlier one. -/
def World.Since (start one other : World) : Prop :=
  one = other ∧ start.Kindred one

theorem World.paired_since_log (start : World) (level : Level) (message : String) :
    Paired start.Since (log level message) (log level message) := by
  rintro one _ ⟨rfl, kindred⟩
  exact ⟨rfl, rfl, kindred.trans (kindred_record level message one)⟩

theorem World.listingKeeps_since (start : World) : ListingKeeps start.Since where
  environment := by
    rintro one _ ⟨rfl, -⟩
    rfl
  answers := by
    rintro one _ ⟨rfl, -⟩
    rfl
  clock := by
    rintro one _ ⟨rfl, -⟩
    rfl
  log := paired_since_log start
  listPage := by
    rintro request one _ ⟨rfl, kindred⟩
    rw [Discovery.run_listPage]
    refine ⟨rfl, rfl, kindred.trans ?_⟩
    have noted : one.Kindred (one.note (.listed request)) := kindred_note rfl one
    exact { noted with refusal := rfl, rejection := rfl }

/-- A discovery does nothing but list and record. -/
theorem Discovery.kindred_discover (groups : List ProjectGroup) (perPage : Given Int)
    (archived : Option Bool) (world : World) :
    world.Kindred ((discover groups perPage archived).run world).2 :=
  ((world.listingKeeps_since.discover groups perPage archived) world world
    ⟨rfl, .refl world⟩).worlds.2

/-- A selection does nothing but record. -/
theorem Selection.kindred_select (policy : Policy) (repositories : List Repository)
    (world : World) : world.Kindred ((select policy repositories).run world).2 :=
  ((paired_select world.paired_since_log policy repositories) world world
    ⟨rfl, .refl world⟩).worlds.2

theorem Policy.verdict_ne_incomparable (policy : Policy) {repository : Repository}
    (text : repository.path.isText = true) : policy.verdict repository ≠ .incomparable := by
  have plain : repository.path.isContainer = false := by
    cases path : repository.path <;> simp_all [Json.isText, Json.text?, Json.isContainer]
  simp only [verdict, plain, Bool.and_false, Bool.false_eq_true, if_false]
  split
  · exact Verdict.noConfusion
  · split <;> exact Verdict.noConfusion

/-- A selection among repositories whose paths are texts gives what the policy keeps. -/
theorem Selection.run_select_of_texts (policy : Policy) {repositories : List Repository}
    (texts : ∀ repository ∈ repositories, repository.path.isText = true) (world : World) :
    ((select policy repositories).run world).1 =
      .ok (repositories.filter fun repository => policy.verdict repository = .keep) := by
  induction repositories generalizing world with
  | nil => rfl
  | cons repository repositories induction =>
      obtain ⟨text, texts⟩ := List.forall_mem_cons.mp texts
      have rest := induction texts
      rw [select]
      cases verdict : policy.verdict repository with
      | keep =>
          have kept := rest world
          rcases ran : (select policy repositories).run world with ⟨outcome, later⟩
          rw [ran] at kept
          obtain rfl : outcome = _ := kept
          simp only [run_bind, ran, run_pure]
          simp [verdict]
      | excludeFork => simpa [run_bind, run_log, verdict] using rest _
      | ignore => simpa [verdict] using rest world
      | incomparable => exact absurd verdict (policy.verdict_ne_incomparable text)

/-- Repositories that their paths determine have one sorted list, in whatever order they come. -/
theorem Selection.sortByPath_eq_of_perm {found others : List Repository}
    (permuted : found.Perm others)
    (determined : ∀ one ∈ found, ∀ other ∈ others, one.pathKey = other.pathKey → one = other) :
    sortByPath found = sortByPath others := by
  refine List.Perm.eq_of_pairwise ?_ (pairwise_sortByPath found) (pairwise_sortByPath others)
    ((sortByPath_perm found).trans (permuted.trans (sortByPath_perm others).symm))
  intro one other among within below above
  simp only [inOrder, decide_eq_true_eq] at below above
  exact determined one ((sortByPath_perm found).mem_iff.mp among) other
    ((sortByPath_perm others).mem_iff.mp within) (String.le_antisymm below above)

/-! ## Listings in any order -/

/-- The world with a server that answers with a queue of pages. -/
def World.answering (queue : List Page) (world : World) : World :=
  { world with server := { world.server with answers := queue.map .ok } }

/-- The same world with two servers, after files and loggers were set up. -/
def World.SetUpFrom (world : World) (left right : List Page) (one other : World) : Prop :=
  ∃ files journal, one = { world with files, journal }.answering left ∧
    other = { world with files, journal }.answering right

theorem World.setUpKeeps_setUpFrom (world : World) (left right : List Page) :
    Journal.SetUpKeeps (world.SetUpFrom left right) where
  files := by
    rintro _ _ ⟨files, journal, rfl, rfl⟩
    rfl
  environment := by
    rintro _ _ ⟨files, journal, rfl, rfl⟩
    rfl
  journal := by
    rintro _ _ ⟨files, journal, rfl, rfl⟩
    rfl
  withFiles := by
    rintro _ _ files ⟨_, journal, rfl, rfl⟩
    exact ⟨files, journal, rfl, rfl⟩
  withJournal := by
    rintro _ _ journal ⟨files, _, rfl, rfl⟩
    exact ⟨files, journal, rfl, rfl⟩

theorem World.plainKindred_answering (world : World) (plain : world.launcher.IsPlain world.IsLog)
    (left right : List Page) : PlainKindred (world.answering left) (world.answering right) :=
  ⟨{ Kindred.refl world with refusal := rfl, rejection := rfl }, plain⟩

namespace Discovery

/-- The records that a discovery of groups finds, answered by a queue of pages, in order. -/
def listed (groups : List (Given String)) (queue : List Page) : List Json :=
  (answeredPages (targets (groups.map .path)).length queue).flatMap Page.records

/-- Records that are permutations of each other. Each describes a repository and has a text for its
path; those with the same path describe the same repository. -/
structure Interchangeable (records others : List Json) : Prop where
  /-- The same records in some order. -/
  permuted : records.Perm others
  /-- Each describes a repository. -/
  accepted : ∀ record ∈ records, ∃ repository, Repository.ofRecord record = .ok repository
  /-- Each has a text for its path. -/
  named : ∀ record ∈ records, ∃ path, record.field? Repository.pathField = some (.string path)
  /-- The path determines the repository. -/
  determined : ∀ first ∈ records, ∀ second ∈ records,
    first.field? Repository.pathField = second.field? Repository.pathField →
    Repository.ofRecord first = Repository.ofRecord second

/-- Interchangeable records describe the same repositories in some order. -/
theorem Interchangeable.exists_described {records others : List Json}
    (interchangeable : Interchangeable records others) :
    ∃ found again : List Repository,
      records.map Repository.ofRecord = found.map .ok ∧
      others.map Repository.ofRecord = again.map .ok ∧ found.Perm again ∧
      (∀ repository ∈ found, repository.path.isText = true) ∧
      ∀ one ∈ found, ∀ other ∈ again, one.pathKey = other.pathKey → one = other := by
  obtain ⟨permuted, accepted, named, determined⟩ := interchangeable
  obtain ⟨found, described⟩ := Discovery.exists_described accepted
  obtain ⟨again, redescribed⟩ := Discovery.exists_described fun record member =>
    accepted record (permuted.mem_iff.mpr member)
  have injective : Function.Injective (Except.ok : Repository → Except Failure Repository) :=
    fun _ _ => Except.ok.inj
  have same : found.Perm again := by
    rw [← List.map_perm_map_iff injective, ← described, ← redescribed]
    exact permuted.map _
  have origin : ∀ repository ∈ found, ∃ record ∈ records, ∃ path,
      Repository.ofRecord record = .ok repository ∧
        record.field? Repository.pathField = some (.string path) ∧
        repository.path = .string path := by
    intro repository member
    have among : Except.ok repository ∈ records.map Repository.ofRecord := by
      rw [described]
      exact List.mem_map_of_mem member
    obtain ⟨record, within, made⟩ := List.mem_map.mp among
    obtain ⟨path, names⟩ := named record within
    have same := (Repository.members_of_ofRecord made).1.symm.trans names
    exact ⟨record, within, path, made, names, Option.some.inj same⟩
  refine ⟨found, again, described, redescribed, same, fun repository member => ?_, ?_⟩
  · obtain ⟨_, _, _, _, _, path⟩ := origin repository member
    rw [path]
    rfl
  · intro one member other within equal
    obtain ⟨first, inFirst, path, made, names, here⟩ := origin one member
    obtain ⟨second, inSecond, place, remade, renames, there⟩ :=
      origin other (same.mem_iff.mpr within)
    have key : path = place := by simpa [Repository.pathKey, here, there, Json.text?] using equal
    have records := determined first inFirst second inSecond (by rw [names, renames, key])
    rw [made, remade] at records
    exact Except.ok.inj records

end Discovery

namespace Pipeline

open Discovery World

variable {groups others : List (Given String)} {left right : List Page} {world : World}

theorem run_choose (policy : Policy) {found : List Repository}
    (texts : ∀ repository ∈ found, repository.path.isText = true) (world : World) :
    ∃ after, world.Kindred after ∧ (choose policy found).run world =
      (.ok (Selection.sortByPath (found.filter fun repository =>
        policy.verdict repository = .keep)), after) := by
  have selected := Selection.run_select_of_texts policy texts world
  have kindred := Selection.kindred_select policy found world
  rcases ran : (Selection.select policy found).run world with ⟨outcome, after⟩
  rw [ran] at selected kindred
  obtain rfl : outcome = _ := selected
  refine ⟨after, kindred, ?_⟩
  have sorts : Selection.sort (found.filter fun repository => policy.verdict repository = .keep) =
      .ok (Selection.sortByPath _) :=
    Selection.sort_of_texts (List.all_eq_true.mpr fun repository member =>
      texts repository (List.mem_of_mem_filter member))
  simp only [choose, run_bind, ran, run_ofExcept, sorts]

/-- Discovering and choosing give the same from interchangeable records. -/
theorem concur_discover
    (interchangeable : Interchangeable (listed groups left) (listed others right))
    (perPage size : Given Int) (archived : Option Bool) (policy : Policy) {one other : World}
    (servedLeft : one.server.answers = left.map .ok)
    (servedRight : other.server.answers = right.map .ok) (related : PlainKindred one other) :
    Concur PlainKindred
      ((Discovery.discover (groups.map .path) perPage archived >>= choose policy).run one)
      ((Discovery.discover (others.map .path) size archived >>= choose policy).run other) := by
  have same : LaidOut one ↔ LaidOut other := by
    rw [LaidOut, LaidOut, related.kindred.environment]
  rw [run_bind, run_bind]
  by_cases laidOut : LaidOut one
  · obtain ⟨found, again, described, redescribed, permuted, texts, determined⟩ :=
      interchangeable.exists_described
    obtain ⟨early, ran, -⟩ :=
      run_discover (groups.map .path) perPage archived laidOut servedLeft described
    obtain ⟨late, went, -⟩ :=
      run_discover (others.map .path) size archived (same.mp laidOut) servedRight redescribed
    have first := kindred_discover (groups.map .path) perPage archived one
    have second := kindred_discover (others.map .path) size archived other
    rw [ran] at first ⊢
    rw [went] at second ⊢
    obtain ⟨chosen, kindredChosen, chose⟩ := run_choose policy texts early
    obtain ⟨rechosen, kindredRechosen, rechose⟩ := run_choose policy
      (fun repository member => texts repository (permuted.mem_iff.mpr member)) late
    simp only [chose, rechose]
    have sorted := Selection.sortByPath_eq_of_perm
      (permuted.filter fun repository => policy.verdict repository = .keep)
      fun repository member twin within => determined repository
        (List.mem_of_mem_filter member) twin (List.mem_of_mem_filter within)
    exact ⟨congrArg Except.ok sorted,
      related.congr (first.trans kindredChosen) (second.trans kindredRechosen)⟩
  · rw [run_discover_of_not_laidOut _ _ _ laidOut,
      run_discover_of_not_laidOut _ _ _ (mt same.mpr laidOut)]
    exact ⟨rfl, related⟩

theorem concur_specify (configuration : Configuration) (perPage size : Given Int)
    (plain : world.launcher.IsPlain world.IsLog)
    (interchangeable : Interchangeable (listed groups left) (listed others right)) :
    Concur PlainKindred
      ((specify { configuration with groups := groups, perPage := perPage }).run
        (world.answering left))
      ((specify { configuration with groups := others, perPage := size }).run
        (world.answering right)) := by
  have keeps := PlainKindred.runsKeep configuration groups others perPage size
  have specified : ∀ listing number, specify
      { configuration with groups := listing, perPage := number } =
        get >>= fun world => ofExcept (configuration.policy world.files) >>= fun policy =>
          configuration.connection.connect >>= fun _ =>
            (Discovery.discover (listing.map .path) number
              (if policy.excludesArchived then some false else none) >>= choose policy) >>=
                Specification.build (configuration.name.getD "") configuration.entryOptions
                  configuration.checkRoot := by
    intro listing number
    simp only [specify, Pipeline.discover, bind_assoc]
    rfl
  have related := plainKindred_answering world plain left right
  rw [specified, specified, run_bind, run_bind, run_get, run_get]
  refine (paired_ofExcept _ _ _ related).bind fun policy _ _ read reread _ => ?_
  obtain ⟨-, rfl⟩ := returned_ofExcept read
  obtain ⟨-, rfl⟩ := returned_ofExcept reread
  refine (keeps.connect _ _ related).bind fun _ connected reconnected ran went joined => ?_
  have answers : connected.server.answers = left.map .ok := by
    rw [((Connection.climbs_connect _).of_run ran).server (by decide)]
    rfl
  have reanswers : reconnected.server.answers = right.map .ok := by
    rw [((Connection.climbs_connect _).of_run went).server (by decide)]
    rfl
  exact (concur_discover interchangeable _ _ _ policy answers reanswers joined).bind
    fun chosen later after _ _ worlds => keeps.building chosen later after worlds

/-- Two runs end in the same way and leave the same files, up to what log files hold. -/
structure Alike {Result : Type} (one other : Except Failure Result × World) : Prop where
  /-- They end in the same way. -/
  outcome : one.1 = other.1
  /-- They leave the same files, up to what log files hold. -/
  files : one.2.files.LikeBut one.2.IsLog other.2.files
  /-- Every path that leads to no log file leads to the same content. -/
  content : ∀ path, (∀ place entry, one.2.files.resolve .follow path = .ok (.present place entry) →
    ¬ one.2.IsLog place) → one.2.files.contentOf path = other.2.files.contentOf path

/-- Two runs end in the same way and launch the same programs in the same order. -/
structure Indifferent {Result : Type} (one other : Except Failure Result × World) : Prop where
  /-- They end in the same way. -/
  outcome : one.1 = other.1
  /-- They launch the same programs, in the same order. -/
  launches : one.2.launches = other.2.launches
  /-- Without log files they leave the same files, whatever the delegate does. -/
  files : (∀ place, ¬ one.2.IsLog place) → one.2.files = other.2.files

theorem alike_of_concur {Result : Type} {one other : Except Failure Result × World}
    (concur : Concur PlainKindred one other) : Alike one other :=
  have files := concur.worlds.kindred.files
  ⟨concur.outcome, files, fun _ apart => files.contentOf apart⟩

theorem indifferent_of_concur {Result : Type} {one other : Except Failure Result × World}
    (concur : Concur Parted one other) : Indifferent one other :=
  ⟨concur.outcome, concur.worlds.launches, concur.worlds.files⟩

theorem concur_store (configuration : Configuration) (invocation : String)
    (perPage size : Given Int) (plain : world.launcher.IsPlain world.IsLog)
    (interchangeable : Interchangeable (listed groups left) (listed others right)) :
    Concur PlainKindred
      ((upTo { configuration with groups := groups, perPage := perPage } invocation .write).run
        (world.answering left))
      ((upTo { configuration with groups := others, perPage := size } invocation .write).run
        (world.answering right)) := by
  have keeps := PlainKindred.runsKeep configuration groups others perPage size
  exact (concur_specify configuration perPage size plain interchangeable).bind
    fun specification later after _ _ worlds =>
      ((keeps.store specification _).bind fun _ => paired_pure ()) later after worlds

theorem concur_run (world : World) (configuration : Configuration) (invocation : String)
    (perPage size : Given Int) (plain : world.launcher.IsPlain world.IsLog)
    (interchangeable : Interchangeable (listed groups left) (listed others right)) :
    Concur Parted
      ((run { configuration with groups := groups, perPage := perPage } invocation).run
        (world.answering left))
      ((run { configuration with groups := others, perPage := size } invocation).run
        (world.answering right)) := by
  have keeps := PlainKindred.runsKeep configuration groups others perPage size
  exact (concur_specify configuration perPage size plain interchangeable).bind_of keeps.weaker
    fun specification later after _ _ worlds =>
      keeps.finishing invocation specification later after worlds

/-- Places that records of a configured run are appended to, once its logger is set up. -/
def logsOf (configuration : Configuration) (world : World) (place : Location) : Prop :=
  ∃ options name ready, Program.loggerOptions configuration = .ok options ∧
    (Journal.build options).run world = (.ok name, ready) ∧ ready.IsLog place

theorem logsOf_eq {configuration : Configuration} {world ready : World} {name : String}
    {options : LoggerOptions} (given : Program.loggerOptions configuration = .ok options)
    (built : (Journal.build options).run world = (.ok name, ready)) :
    logsOf configuration world = ready.IsLog := by
  refine funext fun place => propext ⟨?_, fun isLog => ⟨options, name, ready, given, built, isLog⟩⟩
  rintro ⟨again, _, _, regiven, rebuilt, isLog⟩
  rw [given] at regiven
  cases regiven
  rw [built] at rebuilt
  cases rebuilt
  exact isLog

theorem concur_runConfigured (configuration : Configuration) (invocation : String)
    (perPage size : Given Int)
    (plain : world.launcher.IsPlain (logsOf configuration (world.answering left)))
    (interchangeable : Interchangeable (listed groups left) (listed others right)) :
    Concur Parted
      ((Program.runConfigured { configuration with groups := groups, perPage := perPage }
        invocation).run (world.answering left))
      ((Program.runConfigured { configuration with groups := others, perPage := size }
        invocation).run (world.answering right)) := by
  have started : Parted (world.answering left) (world.answering right) := ⟨rfl, fun _ => rfl⟩
  refine (paired_ofExcept _ _ _ started).bind fun options _ _ read reread _ => ?_
  obtain ⟨given, rfl⟩ := returned_ofExcept read
  obtain ⟨-, rfl⟩ := returned_ofExcept reread
  have built := (world.setUpKeeps_setUpFrom left right).build options _ _
    ⟨world.files, world.journal, rfl, rfl⟩
  refine built.bind_of ?_ fun name _ _ early late worlds => ?_
  · rintro _ _ ⟨files, journal, rfl, rfl⟩
    exact ⟨rfl, fun _ => rfl⟩
  · obtain ⟨files, journal, rfl, rfl⟩ := worlds
    have plainReady : world.launcher.IsPlain { world with files, journal }.IsLog :=
      logsOf_eq given early ▸ plain
    have ran := concur_run { world with files, journal } configuration invocation perPage size
      plainReady interchangeable
    exact ran.bind fun _ later after _ _ worlds => paired_pure () later after worlds

/-- The order of a listing, and how it is split into pages and groups, make no difference to a run:
it makes and writes the same specification, ends in the same way and launches the same programs.
What the delegate, which comes last, does with files is left open. -/
theorem run_disregards_order (configuration : Configuration) (invocation : String)
    (groups others : List (Given String)) (perPage size : Given Int) (left right : List Page)
    (world : World)
    (interchangeable : Interchangeable (listed groups left) (listed others right)) :
    let one := { configuration with groups := groups, perPage := perPage }
    let other := { configuration with groups := others, perPage := size }
    (world.launcher.IsPlain world.IsLog →
      ((specify one).run (world.answering left)).1 =
          ((specify other).run (world.answering right)).1 ∧
        Alike ((upTo one invocation .write).run (world.answering left))
          ((upTo other invocation .write).run (world.answering right)) ∧
        Indifferent ((run one invocation).run (world.answering left))
          ((run other invocation).run (world.answering right))) ∧
      (world.launcher.IsPlain (logsOf configuration (world.answering left)) →
        Indifferent ((Program.runConfigured one invocation).run (world.answering left))
          ((Program.runConfigured other invocation).run (world.answering right))) := by
  intro one other
  refine ⟨fun plain => ⟨?_, ?_, ?_⟩, fun plain => indifferent_of_concur
    (concur_runConfigured configuration invocation perPage size plain interchangeable)⟩
  · exact (concur_specify configuration perPage size plain interchangeable).outcome
  · exact alike_of_concur
      (concur_store configuration invocation perPage size plain interchangeable)
  · exact indifferent_of_concur
      (concur_run world configuration invocation perPage size plain interchangeable)

/-- Runs over three records of two projects, listed as one group in three pages, one of them empty,
or backwards as two groups. The delegate copies the specification to an index. -/
theorem run_disregards_order_rehearsed :
    let record (path : String) (stars : Int) : Json :=
      .object [("path_with_namespace", .string path), ("star_count", .integer stars)]
    let left : List Page := [⟨[record "g/b" 1, record "g/a" 2], some 2⟩, ⟨[], some 3⟩,
      ⟨[record "g/b" 3], none⟩]
    let right : List Page := [⟨[record "g/b" 3], none⟩, ⟨[record "g/a" 2], some 2⟩,
      ⟨[record "g/b" 1], none⟩]
    let configuration : Configuration := { Configuration.initial "secret" with
      skipMissing := true, specificationPath := "specification.json", fetchReindex := some "fetch" }
    let one := { configuration with groups := ["g"], perPage := .value 2 }
    let other := { configuration with groups := ["g/two", "g/one"], perPage := .value 1 }
    let indexed (files : FileTree) : FileTree :=
      match files.contentOf "specification.json" with
      | .ok content => files.put ["index"] (.file content false)
      | .error _ => files
    let launcher : Launcher :=
      ⟨fun _ files _ request => ⟨"", if request.quiet then files else indexed files, .ok 0⟩⟩
    let world := { Rehearsal.world [("COLUMNS", "80")] [] [] with launcher := launcher }
    world.launcher.IsPlain world.IsLog ∧
      Interchangeable (listed ["g"] left) (listed ["g/two", "g/one"] right) ∧
      Indifferent ((run one "").run (world.answering left))
        ((run other "").run (world.answering right)) := by
  intro record left right configuration one other indexed launcher world
  have plain : world.launcher.IsPlain world.IsLog :=
    ⟨⟨fun _ => .ok 0, fun _ _ _ _ => rfl⟩, fun logged => by
      obtain ⟨_, _, _, journal, -⟩ := logged
      cases journal⟩
  have backwards : listed ["g/two", "g/one"] right = (listed ["g"] left).reverse := rfl
  have members : ∀ found ∈ listed ["g"] left, found = record "g/b" 1 ∨
      found = record "g/a" 2 ∨ found = record "g/b" 3 := by
    intro found member
    simpa [listed, answeredPages, targets, sweptPages, Page.next?, left] using member
  have interchangeable :
      Interchangeable (listed ["g"] left) (listed ["g/two", "g/one"] right) := by
    refine ⟨backwards ▸ (List.reverse_perm _).symm, fun found member => ?_,
      fun found member => ?_, fun first inFirst second inSecond same => ?_⟩
    · rcases members found member with rfl | rfl | rfl <;> exact ⟨_, rfl⟩
    · rcases members found member with rfl | rfl | rfl <;> exact ⟨_, rfl⟩
    · rcases members first inFirst with rfl | rfl | rfl <;>
        rcases members second inSecond with rfl | rfl | rfl <;>
        first
        | rfl
        | exact absurd same (by simp [record, Json.field?, Repository.pathField])
  have disregards := run_disregards_order configuration "" ["g"] ["g/two", "g/one"] (.value 2)
    (.value 1) left right world interchangeable
  exact ⟨plain, interchangeable, (disregards.1 plain).2.2⟩

end Pipeline

end RepoCatalog
