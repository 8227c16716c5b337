import RepoCatalog.Proofs.Discovery.Completeness

/-!
# The course of a discovery

What a discovery asks and how it ends, whatever the server answers: either every target is swept to
its end, or the sweep of one target stops at an answer that is a failure or holds a record that
describes no repository. Nothing is asked after that, and nothing is found.
-/

namespace RepoCatalog

/-! ## Answers of a server -/

namespace Server

/-- The server after a number of page requests. -/
def afterAnswers (server : Server) (count : Nat) : Server :=
  { server with answers := server.answers.drop count }

/-- A server answers its next page requests so, in order. -/
def Gives : Server → List (Except Failure Page) → Prop
  | _, [] => True
  | server, answer :: later => server.answer = answer ∧ server.afterAnswer.Gives later

theorem afterAnswers_zero (server : Server) : server.afterAnswers 0 = server := rfl

theorem afterAnswers_afterAnswers (server : Server) (first second : Nat) :
    (server.afterAnswers first).afterAnswers second = server.afterAnswers (first + second) := by
  simp [afterAnswers, List.drop_drop]

theorem afterAnswer_eq (server : Server) : server.afterAnswer = server.afterAnswers 1 := by
  simp [afterAnswer, afterAnswers]

theorem gives_append {server : Server} {first second : List (Except Failure Page)} :
    server.Gives (first ++ second) ↔
      server.Gives first ∧ (server.afterAnswers first.length).Gives second := by
  induction first generalizing server with
  | nil => simp [Gives, afterAnswers_zero]
  | cons answer first induction =>
      rw [List.cons_append, Gives, induction, Gives, and_assoc, afterAnswer_eq,
        afterAnswers_afterAnswers, List.length_cons, Nat.add_comm 1]

/-- What a server gives is the beginning of its answers, and empty pages once they are used up. -/
theorem Gives.isPrefix {server : Server} {given : List (Except Failure Page)}
    (gives : server.Gives given) :
    given <+: server.answers ++ List.replicate given.length (.ok Page.empty) := by
  induction given generalizing server with
  | nil => exact List.nil_prefix
  | cons answer given induction =>
      obtain ⟨rfl, later⟩ := gives
      have rest := induction later
      rcases answers : server.answers with _ | ⟨first, others⟩
      · simp only [afterAnswer, answers, List.tail_nil, List.nil_append] at rest
        simpa [answer, answers, List.replicate_succ] using rest
      · simp only [afterAnswer, answers, List.tail_cons] at rest
        rw [answer, answers, List.head?_cons, Option.getD_some, List.cons_append, List.length_cons,
          List.replicate_succ', ← List.append_assoc, List.cons_prefix_cons]
        exact ⟨rfl, rest.trans (List.prefix_append _ _)⟩

end Server

namespace Discovery

/-! ## Questions -/

/-- A page request and how it was answered. -/
structure Inquiry where
  /-- What was asked. -/
  request : PageRequest
  /-- What was answered. -/
  answer : Except Failure Page

/-- An exchange as an inquiry that was answered with a page. -/
def Exchange.inquiry (exchange : Exchange) : Inquiry :=
  ⟨exchange.request, .ok exchange.page⟩

/-- What page requests did to a world; the records of the run aside. -/
structure Asked (made : List Inquiry) (before after : World) : Prop where
  /-- They follow those made before. -/
  requests : after.requests = before.requests ++ made.map Inquiry.request
  /-- The server answered them. -/
  gives : before.server.Gives (made.map Inquiry.answer)
  /-- The server is ready to answer the next one. -/
  server : after.server = before.server.afterAnswers made.length
  /-- The environment is the same. -/
  environment : after.environment = before.environment

namespace Asked

variable {first second made : List Inquiry} {before middle after : World}

theorem refl (world : World) : Asked [] world world :=
  ⟨by simp, trivial, rfl, rfl⟩

theorem trans (one : Asked first before middle) (two : Asked second middle after) :
    Asked (first ++ second) before after where
  requests := by rw [two.requests, one.requests, List.map_append, List.append_assoc]
  gives := by
    rw [List.map_append, Server.gives_append, List.length_map, ← one.server]
    exact ⟨one.gives, two.gives⟩
  server := by
    rw [two.server, one.server, Server.afterAnswers_afterAnswers, List.length_append]
  environment := two.environment.trans one.environment

theorem reports (asked : Asked made before middle) (reported : middle.Reports after) :
    Asked made before after where
  requests := reported.requests.trans asked.requests
  gives := asked.gives
  server := reported.server.trans asked.server
  environment := reported.environment.trans asked.environment

end Asked

theorem asked_askedFor (request : PageRequest) (world : World) :
    Asked [⟨request, world.server.answer⟩] world (askedFor request world) where
  requests := by simp [askedFor, World.requests, World.events, World.note]
  gives := ⟨rfl, trivial⟩
  server := world.server.afterAnswer_eq
  environment := rfl

/-! ## The course of one sweep -/

/-- A sweep from a page on that is not ended: every answer names a next page, and the last request
is still open. -/
inductive IsOpenSweep (request : Int → PageRequest) :
    Int → List Exchange → PageRequest → Prop
  | last {number : Int} : IsOpenSweep request number [] (request number)
  | next {number next : Int} {page : Page} {later : List Exchange} {last : PageRequest}
      (names : page.next = some next) (differs : next ≠ 0)
      (rest : IsOpenSweep request next later last) :
      IsOpenSweep request number (⟨request number, page⟩ :: later) last

/-- Repositories that an answer describes. -/
def contents (answer : Except Failure Page) : Except Failure (List Repository) :=
  answer.bind fun page => Repository.ofRecords page.records

/-- How a sweep from a page on ends that begins in a world: it finds what its pages describe, or
fails with an answer that cannot be read. -/
inductive SweepCourse (request : Int → PageRequest) (number : Int) (before : World) :
    Except Failure (List Repository) × World → Prop
  | complete {made : List Exchange} {found : List Repository} {after : World}
      (swept : IsSweep request number made)
      (asked : Asked (made.map Exchange.inquiry) before after)
      (described : (made.flatMap fun exchange => exchange.page.records).map Repository.ofRecord =
        found.map .ok) :
      SweepCourse request number before (.ok found, after)
  | broken {made : List Exchange} {last : PageRequest} {answer : Except Failure Page}
      {failure : Failure} {after : World}
      (opened : IsOpenSweep request number made last)
      (asked : Asked (made.map Exchange.inquiry ++ [⟨last, answer⟩]) before after)
      (fails : contents answer = .error failure) :
      SweepCourse request number before (.error failure, after)

/-- A sweep whose first page names another one goes on as the sweep from there. -/
theorem SweepCourse.prepend {request : Int → PageRequest} {number next : Int} {page : Page}
    {here : List Repository} {before middle after : World}
    {outcome : Except Failure (List Repository)} (names : page.next = some next)
    (differs : next ≠ 0) (asked : Asked [⟨request number, .ok page⟩] before middle)
    (described : page.records.map Repository.ofRecord = here.map .ok)
    (course : SweepCourse request next middle (outcome, after)) :
    SweepCourse request number before (outcome.map (here ++ ·), after) := by
  cases course with
  | complete swept askedLater rest =>
      exact .complete (.next names differs swept) (asked.trans askedLater)
        (by simp [described, rest])
  | broken opened askedLater fails =>
      exact .broken (.next names differs opened) (asked.trans askedLater) fails

/-- A sweep that cannot read its next answer. -/
theorem run_sweepFrom_of_failed (request : Int → PageRequest) (fuel : Nat) (number : Int)
    (found : List Repository) {world : World} {failure : Failure}
    (failed : contents world.server.answer = .error failure) :
    (sweepFrom request (fuel + 1) number found).run world =
      (.error failure, askedFor (request number) world) := by
  rw [sweepFrom, Effect.run_bind, run_listPage]
  cases answer : world.server.answer with
  | error other =>
      rw [answer] at failed
      cases failed
      rfl
  | ok page =>
      rw [answer] at failed
      have unread : Repository.ofRecords page.records = .error failure := failed
      simp only [Effect.run_bind, Effect.run_ofExcept, unread]

/-- A page that names a next one is one of the answers of its server. -/
theorem length_afterAnswer_lt {server : Server} {page : Page} {next : Int}
    (answer : server.answer = .ok page) (names : page.next = some next) :
    server.afterAnswer.answers.length < server.answers.length := by
  cases answers : server.answers with
  | nil =>
      rw [Server.answer, answers] at answer
      cases answer
      cases names
  | cons first others => simp [Server.afterAnswer, answers]

theorem course_sweepFrom (request : Int → PageRequest) {fuel : Nat} {world : World}
    (enough : world.server.answers.length < fuel) (number : Int) (found : List Repository) :
    ∃ outcome after,
      (sweepFrom request fuel number found).run world = (outcome.map (found ++ ·), after) ∧
      SweepCourse request number world (outcome, after) := by
  induction fuel generalizing world number found with
  | zero => exact absurd enough (Nat.not_lt_zero _)
  | succ fuel induction =>
      have asked := asked_askedFor (request number) world
      cases read : contents world.server.answer with
      | error failure =>
          exact ⟨.error failure, _, run_sweepFrom_of_failed request fuel number found read,
            .broken .last asked read⟩
      | ok here =>
          cases answer : world.server.answer with
          | error failure => simp [contents, answer, Except.bind] at read
          | ok page =>
              rw [answer] at asked read
              have described : page.records.map Repository.ofRecord = here.map .ok :=
                (ofRecords_eq_ok_iff page.records here).mp read
              have turn := run_sweepFrom_answered request fuel number found answer described
              cases named : page.next? with
              | none =>
                  have swept : IsSweep request number [⟨request number, page⟩] :=
                    .last ((next?_eq_none_iff page).mp named)
                  rw [named] at turn
                  exact ⟨.ok here, _, turn, .complete swept asked (by simpa using described)⟩
              | some next =>
                  obtain ⟨names, differs⟩ := (next?_eq_some_iff page next).mp named
                  have fewer : (askedFor (request number) world).server.answers.length < fuel :=
                    Nat.lt_of_lt_of_le (length_afterAnswer_lt answer names)
                      (Nat.le_of_lt_succ enough)
                  rw [named] at turn
                  obtain ⟨outcome, after, ran, course⟩ := induction fewer next (found ++ here)
                  refine ⟨outcome.map (here ++ ·), after, ?_,
                    course.prepend names differs asked described⟩
                  rw [turn]
                  cases outcome <;> simp [ran, Except.map]

theorem SweepCourse.reports {request : Int → PageRequest} {number : Int}
    {before middle after : World} {outcome : Except Failure (List Repository)}
    (course : SweepCourse request number before (outcome, middle))
    (reported : middle.Reports after) : SweepCourse request number before (outcome, after) := by
  cases course with
  | complete swept asked described => exact .complete swept (asked.reports reported) described
  | broken opened asked fails => exact .broken opened (asked.reports reported) fails

theorem SweepCourse.environment {request : Int → PageRequest} {number : Int}
    {before after : World} {outcome : Except Failure (List Repository)}
    (course : SweepCourse request number before (outcome, after)) :
    after.environment = before.environment := by
  cases course with
  | complete swept asked described => exact asked.environment
  | broken opened asked fails => exact asked.environment

theorem course_sweep {world : World} (laidOut : LaidOut world) (label : String)
    (request : Int → PageRequest) :
    SweepCourse request 1 world ((sweep label request).run world) := by
  obtain ⟨layout, shown⟩ := layout_of_laidOut laidOut
  obtain ⟨outcome, after, ran, course⟩ :=
    course_sweepFrom request (Nat.lt_succ_self world.server.answers.length) 1 []
  have begun : (sweep label request).run world =
      match outcome with
      | .ok found => (.ok found, after.record .debug
        ("Listed " ++ toString found.length ++ " projects from " ++ label ++ "."))
      | .error failure => (.error failure, after) := by
    simp only [sweep, Effect.run_bind, Effect.run_get, Effect.run_ofExcept, shown, ran]
    cases outcome <;> rfl
  rw [begun]
  cases outcome with
  | ok found => exact course.reports (World.reports_record _ _ after)
  | error failure => exact course

/-! ## The course of many sweeps -/

/-- How sweeps end that begin in a world, one for each way to ask: they find what the pages of
complete sweeps describe, or fail with an answer that cannot be read. -/
inductive Course (asks : List (Int → PageRequest)) (before : World) :
    Except Failure (List Repository) × World → Prop
  | complete {sweeps : List (List Exchange)} {found : List Repository} {after : World}
      (inOrder : List.Forall₂ (fun request sweep => IsSweep request 1 sweep) asks sweeps)
      (asked : Asked (sweeps.flatten.map Exchange.inquiry) before after)
      (described : (sweeps.flatten.flatMap fun exchange => exchange.page.records).map
        Repository.ofRecord = found.map .ok) :
      Course asks before (.ok found, after)
  | broken {earlier later : List (Int → PageRequest)} {request : Int → PageRequest}
      {sweeps : List (List Exchange)} {made : List Exchange} {last : PageRequest}
      {answer : Except Failure Page} {failure : Failure} {after : World}
      (split : asks = earlier ++ request :: later)
      (inOrder : List.Forall₂ (fun request sweep => IsSweep request 1 sweep) earlier sweeps)
      (opened : IsOpenSweep request 1 made last)
      (asked : Asked ((sweeps.flatten ++ made).map Exchange.inquiry ++ [⟨last, answer⟩]) before
        after)
      (fails : contents answer = .error failure) :
      Course asks before (.error failure, after)

namespace Course

variable {request : Int → PageRequest} {asks : List (Int → PageRequest)}
  {before middle after : World} {outcome : Except Failure (List Repository)}

theorem reports (course : Course asks before (outcome, middle))
    (reported : middle.Reports after) : Course asks before (outcome, after) := by
  cases course with
  | complete inOrder asked described =>
      exact .complete inOrder (asked.reports reported) described
  | broken split inOrder opened asked fails =>
      exact .broken split inOrder opened (asked.reports reported) fails

/-- The first sweep failed. -/
theorem of_broken {failure : Failure} (asks : List (Int → PageRequest))
    (course : SweepCourse request 1 before (.error failure, after)) :
    Course (request :: asks) before (.error failure, after) := by
  cases course with
  | broken opened asked fails =>
      have before : List.Forall₂ (fun request sweep => IsSweep request 1 sweep) [] [] := .nil
      exact .broken rfl before opened asked fails

/-- There is only one sweep. -/
theorem single {ended : Except Failure (List Repository) × World}
    (course : SweepCourse request 1 before ended) : Course [request] before ended := by
  cases course with
  | complete swept asked described =>
      exact .complete (.cons swept .nil) (by simpa using asked) (by simpa using described)
  | broken opened asked fails => exact .of_broken [] (.broken opened asked fails)

/-- The first sweep is complete. -/
theorem prepend {here : List Repository} (first : SweepCourse request 1 before (.ok here, middle))
    (course : Course asks middle (outcome, after)) :
    Course (request :: asks) before (outcome.map (here ++ ·), after) := by
  cases first with
  | complete swept asked described =>
      cases course with
      | complete inOrder askedLater rest =>
          refine .complete (.cons swept inOrder) ?_ ?_
          · simpa using asked.trans askedLater
          · simp [described, rest]
      | broken split inOrder opened askedLater fails =>
          refine .broken (congrArg (request :: ·) split) (.cons swept inOrder) opened ?_ fails
          simpa using asked.trans askedLater

end Course

theorem course_sweepGroups (perPage : Given Int) (groups : List ProjectGroup) {world : World}
    (laidOut : LaidOut world) :
    Course (groups.map (groupRequest perPage)) world ((sweepGroups perPage groups).run world) := by
  induction groups generalizing world with
  | nil => exact .complete .nil (.refl world) rfl
  | cons group groups induction =>
      have first := course_sweep laidOut ("group: " ++ group.shown) (groupRequest perPage group)
      rw [sweepGroups, Effect.run_bind]
      generalize (sweep ("group: " ++ group.shown) (groupRequest perPage group)).run world = swept
        at first ⊢
      obtain ⟨_ | here, middle⟩ := swept
      · exact .of_broken _ first
      · have laidOutLater : LaidOut middle := by rwa [LaidOut, first.environment]
        have rest := induction laidOutLater
        simp only [Effect.run_bind]
        generalize (sweepGroups perPage groups).run middle = swept at rest ⊢
        obtain ⟨_ | later, after⟩ := swept
        · exact .prepend first rest
        · exact .prepend first rest

theorem course_sweepAll (groups : List ProjectGroup) (perPage : Given Int)
    (archived : Option Bool) {world : World} (laidOut : LaidOut world) :
    Course ((targets groups).map (requestTo perPage archived)) world
      ((sweepAll groups perPage archived).run world) := by
  cases groups with
  | nil =>
      exact .single (course_sweep laidOut "accessible projects" (globalRequest perPage archived))
  | cons group groups =>
      have swept := course_sweepGroups perPage (group :: groups) laidOut
      rw [targets, List.isEmpty_cons, if_neg Bool.false_ne_true, List.map_map]
      exact swept

/-- Failure of a discovery whose sweeps failed. -/
def listingFailure (failure : Failure) : Failure :=
  if failure.isRemote then .listingFailed failure else failure

/-- A discovery ends as its sweeps do; only the failures of the server are reworded. -/
theorem course_discover (groups : List ProjectGroup) (perPage : Given Int)
    (archived : Option Bool) {world : World} (laidOut : LaidOut world) :
    ∃ outcome after,
      (discover groups perPage archived).run world = (outcome.mapError listingFailure, after) ∧
      Course ((targets groups).map (requestTo perPage archived)) world (outcome, after) := by
  have course := course_sweepAll groups perPage archived laidOut
  rcases ran : (sweepAll groups perPage archived).run world with ⟨outcome, after⟩
  rw [ran] at course
  cases outcome with
  | error failure =>
      refine ⟨.error failure, after, ?_, course⟩
      simp only [discover, Effect.run_bind, Effect.run_reword, ran, Except.mapError]
      rfl
  | ok found =>
      refine ⟨.ok found, _, ?_, course.reports (World.reports_record .info ("Discovered "
        ++ toString found.length ++ " projects in " ++ after.clock.elapsed ++ " seconds.") after)⟩
      simp only [discover, Effect.run_bind, Effect.run_reword, ran, Except.mapError, Effect.run_get,
        Effect.run_log, Effect.run_pure]

/-- A discovery that returns found what the pages of complete sweeps describe. -/
theorem sweeps_of_discover {groups : List ProjectGroup} {perPage : Given Int}
    {archived : Option Bool} {found : List Repository} {world after : World}
    (returned : (discover groups perPage archived).run world = (.ok found, after)) :
    ∃ sweeps, List.Forall₂ (fun target sweep => IsSweep (requestTo perPage archived target) 1 sweep)
        (targets groups) sweeps ∧
      Asked (sweeps.flatten.map Exchange.inquiry) world after ∧
      (sweeps.flatten.flatMap fun exchange => exchange.page.records).map Repository.ofRecord =
        found.map .ok := by
  have laidOut : LaidOut world := by
    refine Classical.byContradiction fun unlaid => ?_
    rw [run_discover_of_not_laidOut _ _ _ unlaid] at returned
    cases returned
  obtain ⟨outcome, later, discovers, course⟩ := course_discover groups perPage archived laidOut
  rw [discovers] at returned
  cases course with
  | broken split inOrder opened asked fails => cases returned
  | @complete sweeps repositories _ inOrder asked described =>
      obtain ⟨same, rfl⟩ := Prod.mk.inj returned
      obtain rfl : repositories = found := Except.ok.inj same
      exact ⟨sweeps, List.forall₂_map_left_iff.mp inOrder, asked, described⟩

/-! ## All or nothing -/

/-- Whether a page ends a sweep. -/
def endsSweep (page : Page) : Bool :=
  page.next?.isNone

theorem endsSweep_of_names {page : Page} {next : Int} (names : page.next = some next)
    (differs : next ≠ 0) : endsSweep page = false := by
  rw [endsSweep, (next?_eq_some_iff page next).mpr ⟨names, differs⟩, Option.isNone_some]

theorem IsSweep.countP {request : Int → PageRequest} {number : Int} {made : List Exchange}
    (swept : IsSweep request number made) : (made.map Exchange.page).countP endsSweep = 1 := by
  induction swept with
  | last names =>
      have ends := (next?_eq_none_iff _).mpr names
      simp [endsSweep, ends]
  | next names differs rest induction =>
      rw [List.map_cons, List.countP_cons_of_neg (by simp [endsSweep_of_names names differs]),
        induction]

theorem IsOpenSweep.countP {request : Int → PageRequest} {number : Int} {made : List Exchange}
    {last : PageRequest} (opened : IsOpenSweep request number made last) :
    (made.map Exchange.page).countP endsSweep = 0 := by
  induction opened with
  | last => rfl
  | next names differs rest induction =>
      rw [List.map_cons, List.countP_cons_of_neg (by simp [endsSweep_of_names names differs]),
        induction]

/-- As many pages end a sweep as there are complete sweeps. -/
theorem countP_of_sweeps {asks : List (Int → PageRequest)} {sweeps : List (List Exchange)}
    (inOrder : List.Forall₂ (fun request sweep => IsSweep request 1 sweep) asks sweeps) :
    (sweeps.flatten.map Exchange.page).countP endsSweep = asks.length := by
  induction inOrder with
  | nil => rfl
  | cons swept rest induction =>
      rw [List.flatten_cons, List.map_append, List.countP_append, swept.countP, induction,
        List.length_cons, Nat.add_comm]

/-- Pages that come before anything else in a list of answers come before its first failure. -/
theorem prefix_of_answers {pages queue : List Page} {failure : Failure}
    {later : List (Except Failure Page)}
    (given : pages.map .ok <+: queue.map .ok ++ .error failure :: later) : pages <+: queue := by
  induction pages generalizing queue with
  | nil => exact List.nil_prefix
  | cons page pages induction =>
      cases queue with
      | nil => simp [List.cons_prefix_cons] at given
      | cons first queue =>
          simp only [List.map_cons, List.cons_append, List.cons_prefix_cons, Except.ok.injEq]
            at given
          rw [given.1, List.cons_prefix_cons]
          exact ⟨rfl, induction given.2⟩

theorem answers_of_exchanges (made : List Exchange) :
    (made.map Exchange.inquiry).map Inquiry.answer = (made.map Exchange.page).map .ok := by
  simp [Exchange.inquiry]

theorem requests_of_exchanges (made : List Exchange) :
    (made.map Exchange.inquiry).map Inquiry.request = made.map Exchange.request := by
  simp [Exchange.inquiry]

/-! ## Sweeps of a queue -/

theorem IsSweep.requested {request : Int → PageRequest} {number : Int} {made : List Exchange}
    (swept : IsSweep request number made) :
    ∀ exchange ∈ made, ∃ asked, exchange.request = request asked := by
  induction swept with
  | @last number page names =>
      intro exchange member
      obtain rfl := List.mem_singleton.mp member
      exact ⟨number, rfl⟩
  | @next number next page later names differs rest induction =>
      exact List.forall_mem_cons.mpr ⟨⟨number, rfl⟩, induction⟩

/-- The requests of sweeps are those of their targets. -/
theorem requested_of_sweeps {perPage : Given Int} {archived : Option Bool}
    {targets : List (Option ProjectGroup)} {sweeps : List (List Exchange)}
    (inOrder : List.Forall₂ (fun target sweep => IsSweep (requestTo perPage archived target) 1
      sweep) targets sweeps) :
    ∀ exchange ∈ sweeps.flatten, ∃ target ∈ targets, ∃ number,
      exchange.request = requestTo perPage archived target number := by
  induction inOrder with
  | nil => simp
  | @cons target sweep targets sweeps swept rest induction =>
      intro exchange member
      rcases List.mem_append.mp member with here | later
      · obtain ⟨number, made⟩ := swept.requested exchange here
        exact ⟨target, List.mem_cons_self, number, made⟩
      · obtain ⟨other, among, number, made⟩ := induction exchange later
        exact ⟨other, List.mem_cons_of_mem target among, number, made⟩

/-- Pages that end a number of sweeps are those of the queue, and at most that many empty ones. -/
theorem isPrefix_of_ended {pages queue : List Page} {count : Nat}
    (given : pages <+: queue ++ List.replicate count Page.empty) :
    pages <+: queue ++ List.replicate (pages.countP endsSweep) Page.empty := by
  rcases List.prefix_or_prefix_of_prefix given (List.prefix_append queue _) with early | late
  · exact early.trans (List.prefix_append _ _)
  · obtain ⟨more, rfl⟩ := late
    have empty : more <+: List.replicate count Page.empty :=
      (List.prefix_append_right_inj queue).mp given
    obtain ⟨few, same⟩ := List.prefix_replicate_iff.mp empty
    have ended : more.countP endsSweep = more.length := by
      rw [List.countP_eq_length]
      intro page member
      obtain rfl := List.eq_of_mem_replicate (empty.subset member)
      rfl
    rw [same, List.length_replicate] at ended
    refine (List.prefix_append_right_inj queue).mpr (List.prefix_replicate_iff.mpr ⟨?_, same⟩)
    rw [List.countP_append, same, ended, List.length_replicate]
    exact Nat.le_add_left _ _

/-- Complete sweeps of all targets that a queue of pages answered. -/
theorem sweeps_of_given {groups : List ProjectGroup} {perPage : Given Int}
    {archived : Option Bool} {queue : List Page} {server : Server} {sweeps : List (List Exchange)}
    (served : server.answers = queue.map .ok)
    (inOrder : List.Forall₂ (fun target sweep => IsSweep (requestTo perPage archived target) 1
      sweep) (targets groups) sweeps)
    (gives : server.Gives ((sweeps.flatten.map Exchange.page).map .ok)) :
    Sweeps groups perPage archived queue sweeps := by
  have injective : Function.Injective (Except.ok : Page → Except Failure Page) :=
    fun _ _ => Except.ok.inj
  have asked := requested_of_sweeps inOrder
  have ended : (sweeps.flatten.map Exchange.page).countP endsSweep = max 1 groups.length := by
    rw [← length_targets, ← List.length_map (requestTo perPage archived)]
    exact countP_of_sweeps (List.forall₂_map_left_iff.mpr inOrder)
  have answered : sweeps.flatten.map Exchange.page <+:
      queue ++ List.replicate (max 1 groups.length) Page.empty := by
    have given := gives.isPrefix
    rw [served, ← List.map_replicate, ← List.map_append, List.length_map] at given
    rw [← ended]
    exact isPrefix_of_ended ((List.prefix_map_iff_of_injective injective).mp given)
  refine ⟨inOrder, answered, ?_, fun exchange member => ?_, fun exchange member => ?_⟩
  · simpa only [List.length_map, List.length_append, List.length_replicate] using
      answered.length_le
  · obtain ⟨target, -, number, made⟩ := asked exchange member
    rw [made, requestTo]
  · obtain ⟨target, -, number, made⟩ := asked exchange member
    rw [made, requestTo]
    cases target <;> rfl

/-- An answer whose records each describe a repository can be read. -/
theorem contents_of_accepted {page : Page} {failure : Failure}
    (accepted : ∀ record ∈ page.records,
      ∃ repository, Repository.ofRecord record = .ok repository) :
    contents (.ok page) ≠ .error failure := by
  obtain ⟨repositories, described⟩ := exists_described accepted
  have read : contents (.ok page) = .ok repositories :=
    (ofRecords_eq_ok_iff page.records repositories).mpr described
  simp [read]

/-- Requests of a discovery that a failure ended: every page of the queue was asked for, sweep by
sweep, and one more. -/
structure IsAbandoned (groups : List ProjectGroup) (perPage : Given Int) (archived : Option Bool)
    (queue : List Page) (asked : List PageRequest) : Prop where
  /-- The request that failed comes right after those that were answered. -/
  count : asked.length = queue.length + 1
  /-- The targets before one were swept to their ends, in order, the sweep of that one was open, and
  the ones after it were not asked for. -/
  inOrder : ∃ earlier target later sweeps made last,
    targets groups = earlier ++ target :: later ∧
    List.Forall₂ (fun target sweep => IsSweep (requestTo perPage archived target) 1 sweep) earlier
      sweeps ∧
    IsOpenSweep (requestTo perPage archived target) 1 made last ∧
    (sweeps.flatten ++ made).map Exchange.page = queue ∧
    asked = (sweeps.flatten ++ made).map Exchange.request ++ [last]

/-- An answer after fewer complete sweeps than a queue of pages can end is one of the queue. -/
theorem answer_of_unended {pages queue : List Page} {answer : Except Failure Page}
    {others : List (Except Failure Page)}
    (given : pages.map .ok ++ [answer] <+: queue.map .ok ++ others)
    (unended : pages.countP endsSweep < queue.countP endsSweep) :
    ∃ page ∈ queue, answer = .ok page := by
  have injective : Function.Injective (Except.ok : Page → Except Failure Page) :=
    fun _ _ => Except.ok.inj
  have shorter : pages.length < queue.length := by
    by_contra longer
    have within : queue.map Except.ok <+: pages.map (Except.ok (ε := Failure)) :=
      List.prefix_of_prefix_length_le (List.prefix_append _ _)
        ((List.prefix_append _ _).trans given) (by simpa using longer)
    have fewer := ((List.prefix_map_iff_of_injective injective).mp within).sublist.countP_le
      (p := endsSweep)
    omega
  have within : pages.map .ok ++ [answer] <+: queue.map .ok :=
    List.prefix_of_prefix_length_le given (List.prefix_append _ _) (by simp; omega)
  obtain ⟨page, member, same⟩ := List.mem_map.mp (within.subset (by simp : answer ∈ _ ++ [answer]))
  exact ⟨page, member, same.symm⟩

/-- An answer after the pages of a queue that cannot be read is the failure that follows them. -/
theorem answer_of_failed {pages queue : List Page} {answer : Except Failure Page}
    {first failure : Failure} {later : List (Except Failure Page)}
    (given : pages.map .ok ++ [answer] <+: queue.map .ok ++ .error first :: later)
    (accepted : ∀ page ∈ queue, ∀ record ∈ page.records,
      ∃ repository, Repository.ofRecord record = .ok repository)
    (fails : contents answer = .error failure) : pages = queue ∧ failure = first := by
  obtain ⟨more, rfl⟩ := prefix_of_answers ((List.prefix_append _ _).trans given)
  rw [List.map_append, List.append_assoc, List.prefix_append_right_inj] at given
  cases more with
  | nil =>
      obtain ⟨rfl, -⟩ := List.cons_prefix_cons.mp given
      cases fails
      simp
  | cons page more =>
      obtain ⟨rfl, -⟩ := List.cons_prefix_cons.mp given
      exact absurd fails (contents_of_accepted (accepted page (by simp)))

/-- Sweeps of which one is open leave ends of sweeps to come. -/
theorem countP_of_broken {asks : List (Int → PageRequest)} {sweeps : List (List Exchange)}
    {request : Int → PageRequest} {made : List Exchange} {last : PageRequest}
    (inOrder : List.Forall₂ (fun request sweep => IsSweep request 1 sweep) asks sweeps)
    (opened : IsOpenSweep request 1 made last) :
    ((sweeps.flatten ++ made).map Exchange.page).countP endsSweep = asks.length := by
  rw [List.map_append, List.countP_append, countP_of_sweeps inOrder, opened.countP, Nat.add_zero]

section Course

variable {groups : List ProjectGroup} {perPage : Given Int} {archived : Option Bool}
  {queue : List Page} {world after : World} {outcome : Except Failure (List Repository)}

/-- Sweeps that are not ended when the server fails find nothing and ask nothing more. -/
theorem Course.abandoned {failure : Failure} {later : List (Except Failure Page)}
    (course : Course ((targets groups).map (requestTo perPage archived)) world (outcome, after))
    (served : world.server.answers = queue.map .ok ++ .error failure :: later)
    (accepted : ∀ page ∈ queue, ∀ record ∈ page.records,
      ∃ repository, Repository.ofRecord record = .ok repository)
    (unended : queue.countP endsSweep < (targets groups).length) :
    outcome = .error failure ∧ ∃ asked, IsAbandoned groups perPage archived queue asked ∧
      after.requests = world.requests ++ asked ∧ after.server.answers = later := by
  cases course with
  | complete inOrder asked described =>
      have given := asked.gives.isPrefix
      rw [answers_of_exchanges, served, List.append_assoc, List.cons_append] at given
      have fewer := (prefix_of_answers given).sublist.countP_le (p := endsSweep)
      have ended := countP_of_sweeps inOrder
      rw [List.length_map] at ended
      omega
  | @broken _ _ _ sweeps made last answer other _ split inOrder opened asked fails =>
      have given := asked.gives.isPrefix
      rw [List.map_append, answers_of_exchanges, served, List.append_assoc, List.cons_append]
        at given
      obtain ⟨rfl, rfl⟩ := answer_of_failed given accepted fails
      obtain ⟨earlier, others, within, rfl, rest⟩ := List.map_eq_append_iff.mp split
      obtain ⟨target, remaining, rfl, rfl, rfl⟩ := List.map_eq_cons_iff.mp rest
      refine ⟨rfl, (sweeps.flatten ++ made).map Exchange.request ++ [last], ⟨?_,
        earlier, target, remaining, sweeps, made, last, within,
        List.forall₂_map_left_iff.mp inOrder, opened, rfl, rfl⟩, ?_, ?_⟩
      · rw [List.length_append, List.length_map, List.length_map, List.length_singleton]
      · rw [asked.requests, List.map_append, requests_of_exchanges]
        rfl
      · rw [asked.server, Server.afterAnswers, served, List.length_append, List.length_singleton,
          List.length_map, ← List.drop_drop]
        simp only [← answers_of_exchanges]
        rw [List.drop_left' (by simp only [List.length_map])]
        rfl

/-- Sweeps that are ended before the server fails, or that it never fails, find something. -/
theorem Course.returned {rest : List (Except Failure Page)}
    (course : Course ((targets groups).map (requestTo perPage archived)) world (outcome, after))
    (served : world.server.answers = queue.map .ok ++ rest)
    (accepted : ∀ page ∈ queue, ∀ record ∈ page.records,
      ∃ repository, Repository.ofRecord record = .ok repository)
    (ended : rest = [] ∨ (targets groups).length ≤ queue.countP endsSweep) :
    ∃ found, outcome = .ok found := by
  cases course with
  | complete inOrder asked described => exact ⟨_, rfl⟩
  | @broken earlier later _ sweeps made last answer failure _ split inOrder opened asked fails =>
      have given := asked.gives.isPrefix
      rw [List.map_append, answers_of_exchanges, served, List.append_assoc] at given
      have known : ∃ page, answer = .ok page ∧ ∀ record ∈ page.records,
          ∃ repository, Repository.ofRecord record = .ok repository := by
        rcases ended with rfl | enough
        · have among : answer ∈ queue.map .ok ++ List.replicate _ (.ok Page.empty) :=
            given.subset (by simp)
          rcases List.mem_append.mp among with queued | empty
          · obtain ⟨page, member, rfl⟩ := List.mem_map.mp queued
            exact ⟨page, rfl, accepted page member⟩
          · exact ⟨Page.empty, List.eq_of_mem_replicate empty, by simp [Page.empty]⟩
        · have unended : ((sweeps.flatten ++ made).map Exchange.page).countP endsSweep <
              queue.countP endsSweep := by
            have whole := congrArg List.length split
            rw [List.length_map, List.length_append, List.length_cons] at whole
            rw [countP_of_broken inOrder opened]
            omega
          obtain ⟨page, member, rfl⟩ := answer_of_unended given unended
          exact ⟨page, rfl, accepted page member⟩
      obtain ⟨page, rfl, described⟩ := known
      exact absurd fails (contents_of_accepted described)

end Course

/-- A discovery that the server answers with pages and then a failure returns nothing and asks
nothing more, unless its sweeps are ended by then; the failures of the server are reported, the
others go through. Without a failure it returns, and so it does if its sweeps are ended before. Only
a terminal that is too wide to be laid out keeps it from asking anything. -/
theorem discover_all_or_nothing (groups : List ProjectGroup) (perPage : Given Int)
    (archived : Option Bool) (queue : List Page) (rest : List (Except Failure Page))
    (world : World) (served : world.server.answers = queue.map .ok ++ rest)
    (accepted : ∀ page ∈ queue, ∀ record ∈ page.records,
      ∃ repository, Repository.ofRecord record = .ok repository) :
    (LaidOut world →
      (∀ failure later, rest = .error failure :: later →
        queue.countP endsSweep < (targets groups).length →
          ∃ asked after,
            (discover groups perPage archived).run world =
              (.error (listingFailure failure), after) ∧
            IsAbandoned groups perPage archived queue asked ∧
            after.requests = world.requests ++ asked ∧ after.server.answers = later) ∧
      (rest = [] ∨ (targets groups).length ≤ queue.countP endsSweep →
        ∃ found after, (discover groups perPage archived).run world = (.ok found, after))) ∧
    (¬ LaidOut world →
      (discover groups perPage archived).run world = (.error .overflow, world)) := by
  refine ⟨fun laidOut => ?_, run_discover_of_not_laidOut groups perPage archived⟩
  obtain ⟨outcome, after, ran, course⟩ := course_discover groups perPage archived laidOut
  rw [ran]
  refine ⟨fun failure later failed unended => ?_, fun ended => ?_⟩
  · subst failed
    obtain ⟨rfl, asked, abandoned, requests, answers⟩ :=
      course.abandoned served accepted unended
    exact ⟨asked, after, rfl, abandoned, requests, answers⟩
  · obtain ⟨found, rfl⟩ := course.returned served accepted ended
    exact ⟨found, after, rfl⟩

/-- The second page of the second of three groups cannot be had, so the first page of it and the two
pages of the first group count for nothing. -/
theorem discover_all_or_nothing_refused :
    let record (path : String) : Json := .object [("path_with_namespace", .string path)]
    let queue : List Page := [⟨[record "a/x"], some 2⟩, ⟨[record "a/y"], none⟩,
      ⟨[record "b/x"], some 2⟩]
    let failure : Failure := .request "ReadTimeout" "timed out"
    let groups : List ProjectGroup := [.path (.value "a"), .path (.value "b"), .number 7]
    let world := { Rehearsal.world [("COLUMNS", "80")] [] [] with
      server := ⟨none, none, queue.map .ok ++ [.error failure, .ok Page.empty]⟩ }
    (∀ page ∈ queue, ∀ record ∈ page.records,
      ∃ repository, Repository.ofRecord record = .ok repository) ∧
    ∃ asked after,
      (discover groups (.value 1) none).run world = (.error (.listingFailed failure), after) ∧
      asked.length = 4 ∧ after.requests = world.requests ++ asked ∧
      after.server.answers = [.ok Page.empty] := by
  intro record queue failure groups world
  have accepted : ∀ page ∈ queue, ∀ record ∈ page.records,
      ∃ repository, Repository.ofRecord record = .ok repository := by
    intro page queued found member
    simp only [queue, List.mem_cons, List.not_mem_nil, or_false] at queued
    rcases queued with rfl | rfl | rfl <;> obtain rfl := List.mem_singleton.mp member <;>
      exact ⟨_, rfl⟩
  have laidOut : LaidOut world := by decide +kernel
  obtain ⟨asked, after, ran, abandoned, requests, unread⟩ :=
    ((discover_all_or_nothing groups (.value 1) none queue [.error failure, .ok Page.empty] world
      rfl accepted).1 laidOut).1 failure [.ok Page.empty] rfl (by decide)
  exact ⟨accepted, asked, after, ran, abandoned.count, requests, unread⟩

end Discovery

end RepoCatalog
