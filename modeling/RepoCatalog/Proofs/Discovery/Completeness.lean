import RepoCatalog.Proofs.Discovery.Sweep
import RepoCatalog.Proofs.Number.Range
import RepoCatalog.Proofs.Trace
import RepoCatalog.Rehearsal

/-!
# Completeness of a discovery

A discovery that is answered by a queue of pages sweeps every target to its end and finds what the
answers describe: nothing is skipped, repeated or reordered.
-/

namespace RepoCatalog.Discovery

/-! ## Running a sweep -/

/-- What sweeps that made some exchanges did to a world; the records of the run aside. -/
structure Swept (made : List Exchange) (left : List Page) (before after : World) : Prop where
  /-- The answers still to come. -/
  answers : after.server.answers = left.map .ok
  /-- The requests made, after those made before. -/
  requests : after.requests = before.requests ++ made.map Exchange.request
  /-- Programs give the same replies. -/
  launcher : after.launcher = before.launcher
  /-- The environment is the same. -/
  environment : after.environment = before.environment

theorem Swept.trans {first second : List Exchange} {between left : List Page}
    {before middle after : World} (one : Swept first between before middle)
    (two : Swept second left middle after) : Swept (first ++ second) left before after :=
  { answers := two.answers
    requests := by rw [two.requests, one.requests, List.map_append, List.append_assoc]
    launcher := two.launcher.trans one.launcher
    environment := two.environment.trans one.environment }

theorem Swept.reports {made : List Exchange} {left : List Page} {before middle after : World}
    (swept : Swept made left before middle) (reported : middle.Reports after) :
    Swept made left before after :=
  { answers := by rw [reported.server, swept.answers]
    requests := reported.requests.trans swept.requests
    launcher := reported.launcher.trans swept.launcher
    environment := reported.environment.trans swept.environment }

/-- The world after a page was asked for. -/
def askedFor (request : PageRequest) (world : World) : World :=
  { world.note (.listed request) with server := world.server.afterAnswer }

theorem run_listPage (request : PageRequest) (world : World) :
    (listPage request).run world = (world.server.answer, askedFor request world) := by
  simp only [listPage, Effect.run_bind, Effect.run_note, Effect.run_get, Effect.run_modify,
    Effect.run_ofExcept]
  rfl

theorem swept_askedFor {page : Page} {queue : List Page} {world : World}
    (served : world.server.answers = (page :: queue).map .ok) (request : PageRequest) :
    world.server.answer = .ok page ∧
      Swept [⟨request, page⟩] queue world (askedFor request world) := by
  refine ⟨by simp [Server.answer, served], ?_, ?_, rfl, rfl⟩
  · simp [askedFor, Server.afterAnswer, served]
  · simp [askedFor, World.requests, World.events, World.note]

theorem swept_askedFor_empty {world : World} (served : world.server.answers = [])
    (request : PageRequest) :
    world.server.answer = .ok Page.empty ∧
      Swept [⟨request, Page.empty⟩] [] world (askedFor request world) := by
  refine ⟨by simp [Server.answer, served], ?_, ?_, rfl, rfl⟩
  · simp [askedFor, Server.afterAnswer, served]
  · simp [askedFor, World.requests, World.events, World.note]

/-- Records describe repositories exactly if each of them does. -/
theorem ofRecords_eq_ok_iff (records : List Json) (repositories : List Repository) :
    Repository.ofRecords records = .ok repositories ↔
      records.map Repository.ofRecord = repositories.map .ok := by
  induction records generalizing repositories with
  | nil => cases repositories <;> simp [Repository.ofRecords]
  | cons record records induction =>
      cases described : Repository.ofRecord record with
      | error failure => cases repositories <;> simp [Repository.ofRecords, described]
      | ok repository =>
          cases repositories with
          | nil =>
              cases others : Repository.ofRecords records <;>
                simp [Repository.ofRecords, described, others, Except.map]
          | cons first rest =>
              rw [List.map_cons, List.map_cons, described, List.cons.injEq, ← induction rest]
              cases others : Repository.ofRecords records <;>
                simp [Repository.ofRecords, described, others, Except.map]

/-- One turn of a sweep: the records of a page are added, and the page it names comes next. -/
theorem run_sweepFrom_answered (request : Int → PageRequest) (fuel : Nat) (number : Int)
    (found : List Repository) {page : Page} {here : List Repository} {world : World}
    (answer : world.server.answer = .ok page)
    (described : page.records.map Repository.ofRecord = here.map .ok) :
    (sweepFrom request (fuel + 1) number found).run world =
      match page.next? with
      | none => (.ok (found ++ here), askedFor (request number) world)
      | some next =>
        (sweepFrom request fuel next (found ++ here)).run (askedFor (request number) world) := by
  have read := (ofRecords_eq_ok_iff page.records here).mpr described
  rw [sweepFrom, Effect.run_bind, run_listPage, answer]
  simp only [Effect.run_bind, Effect.run_ofExcept, read]
  cases page.next? <;> rfl

/-- A sweep with enough fuel finds what its pages describe. -/
theorem run_sweepFrom (request : Int → PageRequest) {fuel : Nat} {queue : List Page} {world : World}
    (served : world.server.answers = queue.map .ok) (enough : queue.length < fuel) (number : Int)
    (found : List Repository) {repositories : List Repository}
    (described : ((sweptPages queue).flatMap Page.records).map Repository.ofRecord =
      repositories.map .ok) :
    ∃ after,
      (sweepFrom request fuel number found).run world = (.ok (found ++ repositories), after) ∧
      Swept (exchanges request number (sweptPages queue)) (afterSweep queue) world after := by
  obtain ⟨fuel, rfl⟩ := Nat.exists_eq_succ_of_ne_zero (Nat.ne_of_gt (Nat.zero_lt_of_lt enough))
  induction queue generalizing fuel number found world repositories with
  | nil =>
      obtain ⟨answer, swept⟩ := swept_askedFor_empty (by simpa using served) (request number)
      have here : Page.empty.records.map Repository.ofRecord = repositories.map .ok := by
        simpa [sweptPages] using described
      exact ⟨_, run_sweepFrom_answered request fuel number found answer here, swept⟩
  | cons page queue induction =>
      obtain ⟨answer, swept⟩ := swept_askedFor served (request number)
      cases named : page.next? with
      | none =>
          have here : page.records.map Repository.ofRecord = repositories.map .ok := by
            simpa [sweptPages, named] using described
          refine ⟨askedFor (request number) world, ?_, ?_⟩
          · rw [Nat.succ_eq_add_one, run_sweepFrom_answered request fuel number found answer here,
              named]
          · simpa [sweptPages, afterSweep, named, exchanges] using swept
      | some next =>
          have split : page.records.map Repository.ofRecord ++
              ((sweptPages queue).flatMap Page.records).map Repository.ofRecord =
                repositories.map .ok := by
            simpa [sweptPages, named] using described
          obtain ⟨here, later, rfl, hereDescribed, laterDescribed⟩ :=
            List.map_eq_append_iff.mp split.symm
          obtain ⟨fuel, rfl⟩ := Nat.exists_eq_succ_of_ne_zero
            (Nat.ne_of_gt (Nat.zero_lt_of_lt (Nat.lt_of_succ_lt_succ enough)))
          obtain ⟨after, ran, laterSwept⟩ := induction swept.answers next (found ++ here)
            laterDescribed.symm fuel (Nat.lt_of_succ_lt_succ enough)
          refine ⟨after, ?_, ?_⟩
          · rw [Nat.succ_eq_add_one,
              run_sweepFrom_answered request _ number found answer hereDescribed.symm, named]
            simpa [List.append_assoc] using ran
          · have names := ((next?_eq_some_iff page next).mp named).1
            simpa [sweptPages, afterSweep, named, exchanges, names] using swept.trans laterSwept

/-! ## Running all sweeps -/

/-- Whether the columns of the terminal are within double precision. -/
def LaidOut (world : World) : Prop :=
  Terminal.columns world.environment Progress.defaultColumns < Double.overflowStart

instance (world : World) : Decidable (LaidOut world) :=
  inferInstanceAs (Decidable (_ < _))

theorem columns_pos {fallback : Int} (positive : 0 < fallback) (environment : Environment) :
    0 < Terminal.columns environment fallback := by
  unfold Terminal.columns
  grind

theorem descriptionShare_eq :
    Progress.descriptionShare = .finite false 6305039478318694 (-54) := by
  decide +kernel

theorem natAbs_columns_lt_iff (environment : Environment) (bound : Nat) :
    (Terminal.columns environment Progress.defaultColumns).natAbs < bound ↔
      Terminal.columns environment Progress.defaultColumns < bound := by
  have positive := columns_pos (show 0 < Progress.defaultColumns by decide) environment
  omega

theorem layout_of_laidOut {world : World} (laidOut : LaidOut world) :
    ∃ layout, Progress.layout world.environment Progress.defaultColumns = .ok layout := by
  obtain ⟨significand, exponent, rounded, bits, low⟩ :=
    Double.ofInt_of_lt ((natAbs_columns_lt_iff world.environment _).mpr laidOut)
  obtain ⟨share, floored⟩ := Double.productFloor_of_lt bits low
    (show 6305039478318694 < Nat.pow 2 53 by decide) (Int.le_refl (-54))
  unfold Progress.layout Progress.layoutFor
  rw [rounded, descriptionShare_eq, floored]
  exact ⟨_, rfl⟩

theorem layout_of_not_laidOut {world : World} (unlaid : ¬ LaidOut world) :
    Progress.layout world.environment Progress.defaultColumns = .error .overflow := by
  have rounded := Double.ofInt_of_le (Nat.le_of_not_lt fun below =>
    unlaid ((natAbs_columns_lt_iff world.environment _).mp below))
  unfold Progress.layout Progress.layoutFor
  rw [rounded]
  rfl

theorem run_sweep_of_not_laidOut {world : World} (unlaid : ¬ LaidOut world) (label : String)
    (request : Int → PageRequest) :
    (sweep label request).run world = (.error .overflow, world) := by
  simp only [sweep, Effect.run_bind, Effect.run_get, Effect.run_ofExcept,
    layout_of_not_laidOut unlaid]

theorem run_sweep {world : World} (laidOut : LaidOut world) {queue : List Page}
    (served : world.server.answers = queue.map .ok) (label : String) (request : Int → PageRequest)
    {repositories : List Repository}
    (described : ((sweptPages queue).flatMap Page.records).map Repository.ofRecord =
      repositories.map .ok) :
    ∃ after, (sweep label request).run world = (.ok repositories, after) ∧
      Swept (exchanges request 1 (sweptPages queue)) (afterSweep queue) world after := by
  obtain ⟨layout, shown⟩ := layout_of_laidOut laidOut
  have enough : queue.length < world.server.answers.length + 1 := by simp [served]
  obtain ⟨after, ran, swept⟩ := run_sweepFrom request served enough 1 [] described
  refine ⟨after.record .debug
    ("Listed " ++ toString repositories.length ++ " projects from " ++ label ++ "."), ?_,
    swept.reports (World.reports_record _ _ after)⟩
  simp only [sweep, Effect.run_bind, Effect.run_get, Effect.run_ofExcept, shown, ran,
    List.nil_append, Effect.run_log, Effect.run_pure]

theorem run_sweepGroups (perPage : Given Int) (archived : Option Bool) (groups : List ProjectGroup)
    {world : World} (laidOut : LaidOut world) {queue : List Page}
    (served : world.server.answers = queue.map .ok) {repositories : List Repository}
    (described : ((answeredPages groups.length queue).flatMap Page.records).map
      Repository.ofRecord = repositories.map .ok) :
    ∃ after, (sweepGroups perPage groups).run world = (.ok repositories, after) ∧
      Swept (sweepsOver ((groups.map some).map (requestTo perPage archived)) queue).flatten
        (afterSweeps groups.length queue) world after := by
  induction groups generalizing world queue repositories with
  | nil =>
      obtain rfl : repositories = [] := by simpa [answeredPages] using described.symm
      exact ⟨world, rfl, served, by simp [sweepsOver], rfl, rfl⟩
  | cons group groups induction =>
      have split : ((sweptPages queue).flatMap Page.records).map Repository.ofRecord ++
          ((answeredPages groups.length (afterSweep queue)).flatMap Page.records).map
            Repository.ofRecord = repositories.map .ok := by
        simpa [answeredPages] using described
      obtain ⟨here, later, rfl, hereDescribed, laterDescribed⟩ :=
        List.map_eq_append_iff.mp split.symm
      obtain ⟨middle, ran, swept⟩ := run_sweep laidOut served ("group: " ++ group.shown)
        (groupRequest perPage group) hereDescribed.symm
      have laidOutLater : LaidOut middle := by rwa [LaidOut, swept.environment]
      obtain ⟨after, ranLater, sweptLater⟩ :=
        induction laidOutLater swept.answers laterDescribed.symm
      refine ⟨after, ?_, swept.trans sweptLater⟩
      simp only [sweepGroups, Effect.run_bind, ran, ranLater, Effect.run_pure]

theorem run_sweepAll (groups : List ProjectGroup) (perPage : Given Int) (archived : Option Bool)
    {world : World} (laidOut : LaidOut world) {queue : List Page}
    (served : world.server.answers = queue.map .ok) {repositories : List Repository}
    (described : ((answeredPages (targets groups).length queue).flatMap Page.records).map
      Repository.ofRecord = repositories.map .ok) :
    ∃ after, (sweepAll groups perPage archived).run world = (.ok repositories, after) ∧
      Swept (sweepsOver ((targets groups).map (requestTo perPage archived)) queue).flatten
        (afterSweeps (targets groups).length queue) world after := by
  cases groups with
  | nil =>
      have here : ((sweptPages queue).flatMap Page.records).map Repository.ofRecord =
          repositories.map .ok := by
        simpa [targets, answeredPages] using described
      obtain ⟨after, ran, swept⟩ := run_sweep laidOut served "accessible projects"
        (globalRequest perPage archived) here
      refine ⟨after, ran, ?_⟩
      simp only [targets, List.isEmpty_nil, if_true, List.map_cons, List.map_nil, sweepsOver,
        List.flatten_cons, List.flatten_nil, List.append_nil, List.length_singleton, afterSweeps]
      exact swept
  | cons group groups =>
      have here : ((answeredPages (group :: groups).length queue).flatMap Page.records).map
          Repository.ofRecord = repositories.map .ok := by
        simpa [targets] using described
      simpa [sweepAll, targets] using
        run_sweepGroups perPage archived (group :: groups) laidOut served here

theorem run_sweepAll_of_not_laidOut (groups : List ProjectGroup) (perPage : Given Int)
    (archived : Option Bool) {world : World} (unlaid : ¬ LaidOut world) :
    (sweepAll groups perPage archived).run world = (.error .overflow, world) := by
  cases groups with
  | nil => exact run_sweep_of_not_laidOut unlaid _ _
  | cons group groups =>
      simp only [sweepAll, List.isEmpty_cons, Bool.false_eq_true, if_false, sweepGroups,
        Effect.run_bind, run_sweep_of_not_laidOut unlaid]

/-- A discovery finds what the pages of its sweeps describe. -/
theorem run_discover (groups : List ProjectGroup) (perPage : Given Int) (archived : Option Bool)
    {world : World} (laidOut : LaidOut world) {queue : List Page}
    (served : world.server.answers = queue.map .ok) {repositories : List Repository}
    (described : ((answeredPages (targets groups).length queue).flatMap Page.records).map
      Repository.ofRecord = repositories.map .ok) :
    ∃ after, (discover groups perPage archived).run world = (.ok repositories, after) ∧
      Swept (sweepsOver ((targets groups).map (requestTo perPage archived)) queue).flatten
        (afterSweeps (targets groups).length queue) world after := by
  obtain ⟨after, ran, swept⟩ := run_sweepAll groups perPage archived laidOut served described
  refine ⟨after.record .info ("Discovered " ++ toString repositories.length ++ " projects in "
    ++ after.clock.elapsed ++ " seconds."), ?_, swept.reports (World.reports_record _ _ after)⟩
  simp only [discover, Effect.run_bind, Effect.run_reword, ran, Except.mapError, Effect.run_get,
    Effect.run_log, Effect.run_pure]

/-- A terminal that is too wide ends a discovery before anything is asked. -/
theorem run_discover_of_not_laidOut (groups : List ProjectGroup) (perPage : Given Int)
    (archived : Option Bool) {world : World} (unlaid : ¬ LaidOut world) :
    (discover groups perPage archived).run world = (.error .overflow, world) := by
  simp only [discover, Effect.run_bind, Effect.run_reword,
    run_sweepAll_of_not_laidOut groups perPage archived unlaid]
  rfl

/-! ## Completeness -/

/-- Records that each describe a repository describe a list of them. -/
theorem exists_described {records : List Json}
    (accepted : ∀ record ∈ records, ∃ repository, Repository.ofRecord record = .ok repository) :
    ∃ repositories : List Repository,
      records.map Repository.ofRecord = repositories.map .ok := by
  induction records with
  | nil => exact ⟨[], rfl⟩
  | cons record records induction =>
      obtain ⟨repository, here⟩ := accepted record List.mem_cons_self
      obtain ⟨repositories, later⟩ := induction fun other member =>
        accepted other (List.mem_cons_of_mem record member)
      exact ⟨repository :: repositories, by simp [here, later]⟩

/-- What holds of the records of a queue holds of those of the pages that answer from it. -/
theorem forall_records_of_prefixed {holds : Json → Prop} {pages queue : List Page} {count : Nat}
    (answered : pages <+: queue ++ List.replicate count Page.empty)
    (queued : ∀ page ∈ queue, ∀ record ∈ page.records, holds record) :
    ∀ record ∈ pages.flatMap Page.records, holds record := by
  intro record member
  obtain ⟨page, among, inside⟩ := List.mem_flatMap.mp member
  rcases List.mem_append.mp (answered.subset among) with here | empty
  · exact queued page here record inside
  · obtain rfl := List.eq_of_mem_replicate empty
    simp [Page.empty] at inside

/-- A discovery whose progress can be shown sweeps every target to its end. -/
theorem exists_sweeps (groups : List ProjectGroup) (perPage : Given Int) (archived : Option Bool)
    {queue : List Page} {world : World} (laidOut : LaidOut world)
    (served : world.server.answers = queue.map .ok)
    (accepted : ∀ page ∈ queue, ∀ record ∈ page.records,
      ∃ repository, Repository.ofRecord record = .ok repository) :
    ∃ sweeps found after,
      (discover groups perPage archived).run world = (.ok found, after) ∧
      Sweeps groups perPage archived queue sweeps ∧
      Swept sweeps.flatten (queue.drop sweeps.flatten.length) world after ∧
      found.map Except.ok =
        (sweeps.flatten.flatMap fun exchange => exchange.page.records).map
          Repository.ofRecord := by
  let sweeps := sweepsOver ((targets groups).map (requestTo perPage archived)) queue
  have pages : sweeps.flatten.map Exchange.page = answeredPages (targets groups).length queue := by
    simp only [sweeps, page_sweepsOver, List.length_map]
  obtain ⟨found, described⟩ := exists_described
    (forall_records_of_prefixed (isPrefix_answeredPages (targets groups).length queue) accepted)
  obtain ⟨after, ran, swept⟩ := run_discover groups perPage archived laidOut served described
  rw [afterSweeps_eq_drop, ← pages, List.length_map] at swept
  rw [← pages, List.flatMap_map] at described
  exact ⟨sweeps, found, after, ran, sweeps_sweepsOver groups perPage archived queue, swept,
    described.symm⟩

/-- A discovery answered by a queue of pages sweeps every target to its end and finds exactly what
the answers describe, in order; only a terminal that is too wide to be laid out keeps it from asking
anything. -/
theorem discover_sweeps (groups : List ProjectGroup) (perPage : Given Int) (archived : Option Bool)
    (queue : List Page) (world : World) (served : world.server.answers = queue.map .ok)
    (accepted : ∀ page ∈ queue, ∀ record ∈ page.records,
      ∃ repository, Repository.ofRecord record = .ok repository) :
    (LaidOut world → ∃ sweeps found after,
      (discover groups perPage archived).run world = (.ok found, after) ∧
      Sweeps groups perPage archived queue sweeps ∧
      after.requests = world.requests ++ sweeps.flatten.map Exchange.request ∧
      after.server.answers = (queue.drop sweeps.flatten.length).map .ok ∧
      found.map Except.ok =
        (sweeps.flatten.flatMap fun exchange => exchange.page.records).map Repository.ofRecord) ∧
    (¬ LaidOut world →
      (discover groups perPage archived).run world = (.error .overflow, world)) := by
  refine ⟨fun laidOut => ?_, run_discover_of_not_laidOut groups perPage archived⟩
  obtain ⟨sweeps, found, after, ran, inOrder, swept, described⟩ :=
    exists_sweeps groups perPage archived laidOut served accepted
  exact ⟨sweeps, found, after, ran, inOrder, swept.requests, swept.answers, described⟩

theorem columns_rehearsed (text : String) (queue : List Page) :
    Terminal.columns (Rehearsal.world [("COLUMNS", text)] [] queue).environment
        Progress.defaultColumns =
      match readInteger? text.toList with
      | some columns => if 0 < columns then columns else Progress.defaultColumns
      | none => Progress.defaultColumns := rfl

/-- A terminal that claims a width of ten to the power of four hundred. -/
def endless (queue : List Page) : World :=
  Rehearsal.world [("COLUMNS", String.ofList ('1' :: List.replicate 400 '0'))] [] queue

theorem not_laidOut_endless (queue : List Page) : ¬ LaidOut (endless queue) := by
  have columns : readInteger? ('1' :: List.replicate 400 '0') =
      some ((Nat.pow 10 400 : Nat) : Int) := by
    decide +kernel
  rw [LaidOut, endless, columns_rehearsed, String.toList_ofList, columns]
  decide +kernel

/-- Two sweeps of one group that find the same project, the first of them ended by a page that names
page zero; in an endless terminal they are not begun. -/
theorem discover_sweeps_repeated_group :
    let queue : List Page := [⟨[.object [("path_with_namespace", .string "a/x")]], some 7⟩,
      ⟨[], some 0⟩, ⟨[.object [("path_with_namespace", .string "a/x")]], none⟩]
    let groups : List ProjectGroup := [.path (.value "a"), .path (.value "a")]
    let world := Rehearsal.world [("COLUMNS", "80")] [] queue
    world.server.answers = queue.map .ok ∧ (endless queue).server.answers = queue.map .ok ∧
      (∀ page ∈ queue, ∀ record ∈ page.records,
        ∃ repository, Repository.ofRecord record = .ok repository) ∧
      (∃ sweeps found after,
        (discover groups (.value 2) (some false)).run world = (.ok found, after) ∧
        Sweeps groups (.value 2) (some false) queue sweeps ∧
        after.requests = world.requests ++ sweeps.flatten.map Exchange.request ∧
        after.server.answers = (queue.drop sweeps.flatten.length).map .ok ∧
        found.map Except.ok =
          (sweeps.flatten.flatMap fun exchange => exchange.page.records).map
            Repository.ofRecord) ∧
      (discover groups (.value 2) (some false)).run (endless queue) =
        (.error .overflow, endless queue) := by
  intro queue groups world
  have accepted : ∀ page ∈ queue, ∀ record ∈ page.records,
      ∃ repository, Repository.ofRecord record = .ok repository := by
    intro page queued record member
    simp only [queue, List.mem_cons, List.not_mem_nil, or_false] at queued
    rcases queued with rfl | rfl | rfl
    · obtain rfl := List.mem_singleton.mp member
      exact ⟨_, rfl⟩
    · cases member
    · obtain rfl := List.mem_singleton.mp member
      exact ⟨_, rfl⟩
  have laidOut : LaidOut world := by decide +kernel
  exact ⟨rfl, rfl, accepted,
    (discover_sweeps groups (.value 2) (some false) queue world rfl accepted).1 laidOut,
    (discover_sweeps groups (.value 2) (some false) queue (endless queue) rfl accepted).2
      (not_laidOut_endless queue)⟩

end RepoCatalog.Discovery
