import Mathlib.Data.List.Nodup
import RepoCatalog.Proofs.History
import RepoCatalog.Proofs.Pipeline.Selection

/-!
# Checked specifications

What is checked is what is written: before a repository gets its entry, git looks for the revision
of that entry in the clone of that entry. The specification holds the entries that git succeeded
for, and no check has to do with another repository.
-/

namespace RepoCatalog

/-- A launcher answers what is launched quietly with an exit status, or with an error of the
operating system. -/
def Launcher.AnswersChecks (launcher : Launcher) : Prop :=
  ∀ earlier files environment request, request.quiet = true →
    let outcome := (launcher.reply earlier files environment request).outcome
    (∃ status, outcome = .ok status) ∨
      ∃ failure, outcome = .error failure ∧ failure.isSystem = true

/-! ## Paths of clones -/

/-- A name that does not start at the root of all files. -/
def IsRelative (name : String) : Prop :=
  name.toList.head? ≠ some '/'

instance (name : String) : Decidable (IsRelative name) :=
  inferInstanceAs (Decidable (_ ≠ _))

/-- A clone is looked for where it lives. -/
theorem Revision.clonePath_eq_repositoryPath (root path : String) :
    Revision.clonePath root path = repositoryPath root path := rfl

theorem joinChars_of_relative {base name : List Char} (relative : name.head? ≠ some '/') :
    joinChars base name =
      if base.isEmpty || base.getLast? == some '/' then base ++ name else base ++ '/' :: name := by
  unfold joinChars
  rw [if_neg (by simpa using relative)]

/-- Below one directory, different names have different paths: whether a slash stands between
depends on the directory alone. -/
theorem joinPath_injective {root first second : String} (firstRelative : IsRelative first)
    (secondRelative : IsRelative second) (same : joinPath root first = joinPath root second) :
    first = second := by
  have chars : joinChars root.toList first.toList = joinChars root.toList second.toList :=
    String.ofList_injective same
  rw [joinChars_of_relative firstRelative, joinChars_of_relative secondRelative] at chars
  apply String.toList_injective
  split at chars
  · exact List.append_cancel_left chars
  · exact (List.cons.inj (List.append_cancel_left chars)).2

namespace RepositoryEntry

/-- The check that goes with an entry: git looks for its revision in its clone. -/
def check (entry : RepositoryEntry) : Launch :=
  ⟨["git", "--git-dir", entry.path, "rev-parse", "--verify"].map .value ++ entry.revisions, none,
    true⟩

/-- What is recorded when the check of an entry comes out in some way. -/
def notices (entry : RepositoryEntry) (revision : Given String) :
    Except Failure Int → List (Level × String)
  | .ok status => if status = 0 then [] else [skipped]
  | .error failure =>
    [(.debug, "git rev-parse could not run for " ++ entry.name ++ ": " ++ failure.message), skipped]
where
  /-- The record about a repository that is left out. -/
  skipped : Level × String :=
    (.info, "Skipping missing revision repo=" ++ entry.name ++ " rev=" ++ revision.shown id)

end RepositoryEntry

/-- Entry that a repository has in a specification, or would have. -/
def Configuration.candidate (configuration : Configuration) (root : String)
    (repository : Repository) : RepositoryEntry :=
  configuration.entryOptions.entryAt root repository.pathKey repository

/-- A check that came out well. -/
def succeeded : Except Failure Int → Bool
  | .ok status => status = 0
  | .error _ => false

namespace World

/-- The world after some records. -/
def recordAll (notices : List (Level × String)) (world : World) : World :=
  notices.foldl (fun world notice => world.record notice.1 notice.2) world

/-- The world after the check of an entry and what is recorded about it. -/
def afterCheck (entry : RepositoryEntry) (revision : Given String) (world : World) : World :=
  recordAll (entry.notices revision (world.reply entry.check).outcome)
    (world.afterLaunch entry.check)

theorem launches_recordAll (notices : List (Level × String)) (world : World) :
    (recordAll notices world).launches = world.launches := by
  induction notices generalizing world with
  | nil => rfl
  | cons notice notices induction =>
      exact (induction (world.record notice.1 notice.2)).trans (launches_record _ _ world)

theorem records_recordAll (notices : List (Level × String)) (world : World) :
    (recordAll notices world).records = world.records ++ notices := by
  induction notices generalizing world with
  | nil => exact (List.append_nil _).symm
  | cons notice notices induction =>
      refine (induction (world.record notice.1 notice.2)).trans ?_
      rw [records_record, List.append_assoc]
      rfl

theorem launcher_recordAll (notices : List (Level × String)) (world : World) :
    (recordAll notices world).launcher = world.launcher := by
  induction notices generalizing world with
  | nil => rfl
  | cons notice notices induction =>
      exact (induction (world.record notice.1 notice.2)).trans
        (world.reports_record notice.1 notice.2).launcher

theorem launches_afterCheck (entry : RepositoryEntry) (revision : Given String) (world : World) :
    (afterCheck entry revision world).launches = world.launches ++ [entry.check] :=
  (launches_recordAll _ _).trans (launches_afterLaunch _ world)

theorem records_afterCheck (entry : RepositoryEntry) (revision : Given String) (world : World) :
    (afterCheck entry revision world).records =
      world.records ++ entry.notices revision (world.reply entry.check).outcome := by
  rw [afterCheck, records_recordAll, records_afterLaunch]

theorem launcher_afterCheck (entry : RepositoryEntry) (revision : Given String) (world : World) :
    (afterCheck entry revision world).launcher = world.launcher :=
  (launcher_recordAll _ _).trans (launcher_afterLaunch _ world)

end World

namespace Specification

open Effect

variable {configuration : Configuration} {root : String}

theorem entry_eq_candidate (rooted : configuration.directory = .value root)
    {repository : Repository} {name : String} (named : repository.path = .string name) :
    configuration.entryOptions.entry repository =
      .ok (configuration.candidate root repository) := by
  have directory : configuration.entryOptions.root = .value root := rooted
  have key : repository.pathKey = name := by simp [Repository.pathKey, named, Json.text?]
  rw [EntryOptions.entry, directory, named, Configuration.candidate, key]

/-- What is checked for a repository is what its entry says. -/
theorem checkLaunch_eq_check (configuration : Configuration) (root : String)
    (repository : Repository) :
    Revision.checkLaunch root (configuration.candidate root repository).name
      configuration.revision = (configuration.candidate root repository).check := by
  rw [Revision.checkLaunch, Revision.clonePath_eq_repositoryPath]
  rfl

/-- A check tells whether it came out well, and nothing that it does is a failure. -/
theorem run_check (configuration : Configuration) (root : String) {world : World}
    (answers : world.launcher.AnswersChecks) (repository : Repository) {β : Type}
    (next : Bool → Effect β) :
    let entry := configuration.candidate root repository
    (do
      if ← passes (some (.value root)) entry.name configuration.revision then next true
      else
        log .info (skipNotice entry.name configuration.revision)
        next false).run world =
      (next (succeeded (world.reply entry.check).outcome)).run
        (world.afterCheck entry configuration.revision) := by
  intro entry
  have check : Revision.checkLaunch root entry.name configuration.revision = entry.check :=
    checkLaunch_eq_check configuration root repository
  have quiet : entry.check.quiet = true := rfl
  rw [run_bind, passes, Revision.run_isPresent, check]
  rcases answers world.launches world.files world.environment entry.check quiet with
    ⟨status, replied⟩ | ⟨failure, replied, system⟩
  · have outcome : (world.reply entry.check).outcome = .ok status := replied
    by_cases success : status = 0
    · simp only [outcome, success, succeeded, World.afterCheck, RepositoryEntry.notices,
        World.recordAll, beq_self_eq_true, decide_true, if_true, List.foldl_nil]
    · have failed : (status == 0) = false := beq_eq_false_iff_ne.mpr success
      simp only [outcome, success, failed, succeeded, World.afterCheck, RepositoryEntry.notices,
        World.recordAll, decide_false, if_false, Bool.false_eq_true, List.foldl_cons,
        List.foldl_nil, run_bind, run_log]
      rfl
  · have outcome : (world.reply entry.check).outcome = .error failure := replied
    simp only [outcome, system, succeeded, World.afterCheck, RepositoryEntry.notices,
      World.recordAll, if_true, if_false, Bool.false_eq_true, List.foldl_cons, List.foldl_nil,
      run_bind, run_log]
    rfl

/-- One turn of building: a repository is checked by itself and gets its entry if that came out
well; the others are checked as they would be without it. -/
theorem run_entries_cons (rooted : configuration.directory = .value root) {repository : Repository}
    {name : String} (named : repository.path = .string name) (rest : List Repository)
    {world : World} (answers : world.launcher.AnswersChecks) :
    let entry := configuration.candidate root repository
    let others := (entries configuration.entryOptions (some (.value root)) rest).run
      (world.afterCheck entry configuration.revision)
    (entries configuration.entryOptions (some (.value root)) (repository :: rest)).run world =
      (others.1.map fun kept =>
        if succeeded (world.reply entry.check).outcome then entry :: kept else kept, others.2) := by
  intro entry others
  have checked := run_check configuration root answers repository fun passed => if passed then
        do return entry :: (← entries configuration.entryOptions (some (.value root)) rest)
      else entries configuration.entryOptions (some (.value root)) rest
  rw [entries, run_bind, run_ofExcept, entry_eq_candidate rooted named]
  refine checked.trans ?_
  have taken : (entries configuration.entryOptions (some (.value root)) rest).run
      (world.afterCheck entry configuration.revision) = others := rfl
  cases succeeded (world.reply entry.check).outcome with
  | true =>
      simp only [entry, if_true, run_bind] at taken ⊢
      rw [taken]
      rcases others with ⟨_ | _, _⟩ <;> rfl
  | false =>
      simp only [entry, Bool.false_eq_true, if_false] at taken ⊢
      rw [taken]
      rcases others with ⟨_ | _, _⟩ <;> rfl

/-- How entries come about: from which checks, with which outcomes, and what was recorded. -/
structure Verified (configuration : Configuration) (root : String) (repositories : List Repository)
    (world after : World) (outcomes : List (Except Failure Int)) (kept : List RepositoryEntry) :
    Prop where
  /-- Every repository was checked once, in order. -/
  launches : after.launches =
    world.launches ++ repositories.map fun repository =>
      (configuration.candidate root repository).check
  /-- Every check came out in one way. -/
  counted : outcomes.length = repositories.length
  /-- What came of a check is what was replied to it after the checks before it. -/
  replied : ∀ earlier repository later, repositories = earlier ++ repository :: later →
    outcomes[earlier.length]? = some ((((entries configuration.entryOptions (some (.value root))
      earlier).run world).2.reply (configuration.candidate root repository).check).outcome)
  /-- Exactly the entries whose check came out well are kept, in order. -/
  kept : kept = (((repositories.map (configuration.candidate root)).zip outcomes).filter
    fun checked => succeeded checked.2).map Prod.fst
  /-- What was recorded is about the checks, in order. -/
  records : after.records = world.records ++
    ((repositories.map (configuration.candidate root)).zip outcomes).flatMap fun checked =>
      checked.1.notices configuration.revision checked.2

theorem exists_verified (rooted : configuration.directory = .value root)
    {repositories : List Repository}
    (named : ∀ repository ∈ repositories, ∃ name, repository.path = .string name) {world : World}
    (answers : world.launcher.AnswersChecks) :
    ∃ outcomes kept after,
      (entries configuration.entryOptions (some (.value root)) repositories).run world =
        (.ok kept, after) ∧
      Verified configuration root repositories world after outcomes kept := by
  induction repositories generalizing world with
  | nil =>
      refine ⟨[], [], world, rfl, ?_, rfl, ?_, rfl, ?_⟩
      · simp
      · simp
      · simp
  | cons repository rest induction =>
      obtain ⟨name, here⟩ := named repository List.mem_cons_self
      let entry := configuration.candidate root repository
      let middle := world.afterCheck entry configuration.revision
      have answersLater : middle.launcher.AnswersChecks := by
        rwa [World.launcher_afterCheck]
      obtain ⟨outcomes, kept, after, ran, verified⟩ := induction
        (fun other member => named other (List.mem_cons_of_mem repository member)) answersLater
      have turn := fun others => run_entries_cons rooted here others answers
      have whole := turn rest
      simp only [middle, entry] at ran
      simp only [ran] at whole
      refine ⟨(world.reply entry.check).outcome :: outcomes, _, after, whole, ?_, ?_, ?_, ?_, ?_⟩
      · rw [verified.launches, World.launches_afterCheck, List.append_assoc]
        rfl
      · rw [List.length_cons, List.length_cons, verified.counted]
      · intro earlier other later split
        cases earlier with
        | nil =>
            obtain ⟨rfl, rfl⟩ := List.cons.inj split
            rfl
        | cons first earlier =>
            obtain ⟨rfl, rfl⟩ := List.cons.inj split
            rw [List.length_cons, List.getElem?_cons_succ, verified.replied earlier other later rfl,
              turn earlier]
      · rw [verified.kept, List.map_cons, List.zip_cons_cons, List.filter_cons]
        cases succeeded (world.reply entry.check).outcome <;> rfl
      · rw [verified.records, World.records_afterCheck, List.append_assoc]
        rfl

/-- Kept entries are some of the candidates, in order. -/
theorem Verified.sublist {repositories : List Repository} {world after : World}
    {outcomes : List (Except Failure Int)} {kept : List RepositoryEntry}
    (verified : Verified configuration root repositories world after outcomes kept) :
    kept.Sublist (repositories.map (configuration.candidate root)) := by
  have whole : ((repositories.map (configuration.candidate root)).zip outcomes).map Prod.fst =
      repositories.map (configuration.candidate root) :=
    List.map_fst_zip (by simp [verified.counted])
  rw [← whole, verified.kept]
  exact List.filter_sublist.map Prod.fst

/-- Repositories with different names have clones in different places. -/
theorem nodup_paths {repositories : List Repository}
    (named : ∀ repository ∈ repositories, IsRelative repository.pathKey)
    (distinct : (repositories.map Repository.pathKey).Nodup) :
    ((repositories.map (configuration.candidate root)).map RepositoryEntry.path).Nodup := by
  have joined : (repositories.map (configuration.candidate root)).map RepositoryEntry.path =
      (repositories.map Repository.pathKey).map (joinPath root) := by
    simp only [List.map_map]
    rfl
  rw [joined]
  refine distinct.map_on fun first firstAmong second secondAmong same => ?_
  obtain ⟨one, oneAmong, rfl⟩ := List.mem_map.mp firstAmong
  obtain ⟨other, otherAmong, rfl⟩ := List.mem_map.mp secondAmong
  exact joinPath_injective (named one oneAmong) (named other otherAmong) same

/-- With checks, building a specification never fails. Every repository is checked once, where its
entry says that its clone is and for the revision of its entry; it gets its entry exactly if that
check came out well, whatever becomes of the others. Different names never share a clone. -/
theorem build_verifies (configuration : Configuration) (root : String)
    (repositories : List Repository) (world : World) (skips : configuration.skipMissing = true)
    (rooted : configuration.directory = .value root)
    (named : ∀ repository ∈ repositories,
      ∃ name, repository.path = .string name ∧ IsRelative name)
    (answers : world.launcher.AnswersChecks) :
    (∃ outcomes specification after,
      (build (configuration.name.getD "") configuration.entryOptions configuration.checkRoot
        repositories).run world = (.ok specification, after) ∧
      specification.name = configuration.name.getD "" ∧
      Verified configuration root repositories world after outcomes specification.repositories ∧
      (∀ repository ∈ repositories,
        (configuration.candidate root repository).revisions = [configuration.revision]) ∧
      ((repositories.map Repository.pathKey).Nodup →
        (specification.repositories.map RepositoryEntry.path).Nodup)) ∧
    ∀ first second, IsRelative first → IsRelative second →
      joinPath root first = joinPath root second → first = second := by
  have checkRoot : configuration.checkRoot = some (.value root) := by
    rw [Configuration.checkRoot, if_pos skips, rooted]
  have texts : ∀ repository ∈ repositories, ∃ name, repository.path = .string name := by
    intro repository member
    obtain ⟨name, text, -⟩ := named repository member
    exact ⟨name, text⟩
  have relative : ∀ repository ∈ repositories, IsRelative repository.pathKey := by
    intro repository member
    obtain ⟨name, text, relative⟩ := named repository member
    simpa [Repository.pathKey, text, Json.text?] using relative
  obtain ⟨outcomes, kept, after, ran, verified⟩ := exists_verified rooted texts answers
  refine ⟨⟨outcomes, ⟨configuration.name.getD "", kept⟩, after, ?_, rfl, verified,
    fun _ _ => rfl, fun distinct => ?_⟩, fun _ _ => joinPath_injective⟩
  · rw [build, checkRoot, run_bind, ran]
    rfl
  · exact (nodup_paths relative distinct).sublist (verified.sublist.map RepositoryEntry.path)

/-- Three checks, of which the first cannot be started, the second succeeds and the third fails. -/
theorem build_verifies_mixed :
    let repository (name : String) : Repository :=
      ⟨.string name, .string "", .string "", .string "", none, false⟩
    let repositories := [repository "g/first", repository "g/second", repository "g/second/third"]
    let configuration := { Configuration.initial "" with
      directory := "clones/", skipMissing := true }
    let launcher : Launcher := ⟨fun earlier files _ _ => ⟨"", files,
      match earlier.length with
      | 0 => .error (.system ⟨2, "No such file or directory", some "git"⟩)
      | 1 => .ok 0
      | _ => .ok 128⟩⟩
    let world := { Rehearsal.world [] [] [] with launcher := launcher }
    configuration.skipMissing = true ∧ configuration.directory = .value "clones/" ∧
      (∀ repository ∈ repositories,
        ∃ name, repository.path = .string name ∧ IsRelative name) ∧
      world.launcher.AnswersChecks ∧ (repositories.map Repository.pathKey).Nodup ∧
      ∃ outcomes specification after,
        (build (configuration.name.getD "") configuration.entryOptions configuration.checkRoot
          repositories).run world = (.ok specification, after) ∧
        Verified configuration "clones/" repositories world after outcomes
          specification.repositories ∧
        (specification.repositories.map RepositoryEntry.path).Nodup := by
  intro repository repositories configuration launcher world
  have named : ∀ repository ∈ repositories,
      ∃ name, repository.path = .string name ∧ IsRelative name := by
    simp only [repositories, repository, List.forall_mem_cons, Json.string.injEq,
      exists_eq_left', List.not_mem_nil, false_imp_iff, implies_true, and_true]
    decide
  have answers : world.launcher.AnswersChecks := by
    intro earlier files environment request quiet
    rcases length : earlier.length with _ | _ | _
    · exact .inr ⟨.system ⟨2, "No such file or directory", some "git"⟩,
        by simp [world, launcher, length], rfl⟩
    · exact .inl ⟨0, by simp [world, launcher, length]⟩
    · exact .inl ⟨128, by simp [world, launcher, length]⟩
  have distinct : (repositories.map Repository.pathKey).Nodup := by decide
  obtain ⟨⟨outcomes, specification, after, ran, -, verified, -, apart⟩, -⟩ :=
    build_verifies configuration "clones/" repositories world rfl rfl named answers
  exact ⟨rfl, rfl, named, answers, distinct, outcomes, specification, after, ran, verified,
    apart distinct⟩

end Specification

end RepoCatalog
