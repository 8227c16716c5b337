import Mathlib.Data.List.Forall2
import RepoCatalog.Discovery

/-!
# Sweeps of pages

What a discovery asks and what it is answered. Each target is swept from its first page on, each
later request asks for the page that the answer before it named, and a sweep ends with the first
answer that names none. What is found are the records of the answers, in order.
-/

namespace RepoCatalog.Discovery

/-- A request and the page it was answered with. -/
structure Exchange where
  /-- What was asked. -/
  request : PageRequest
  /-- What was answered. -/
  page : Page

/-- A sweep from a page on, ended by the first answer whose next page is none or zero. -/
inductive IsSweep (request : Int → PageRequest) : Int → List Exchange → Prop
  | last {number : Int} {page : Page} (names : page.next = none ∨ page.next = some 0) :
      IsSweep request number [⟨request number, page⟩]
  | next {number next : Int} {page : Page} {later : List Exchange} (names : page.next = some next)
      (differs : next ≠ 0) (rest : IsSweep request next later) :
      IsSweep request number (⟨request number, page⟩ :: later)

/-- What is swept, in order: every group, or everything if no group is given. -/
def targets (groups : List ProjectGroup) : List (Option ProjectGroup) :=
  if groups.isEmpty then [none] else groups.map some

/-- Request for a page of a target; only the sweep over everything is restricted. -/
def requestTo (perPage : Given Int) (archived : Option Bool) (target : Option ProjectGroup)
    (page : Int) : PageRequest :=
  ⟨target, page, perPage, if target.isNone then archived else none⟩

/-- What a discovery that is answered by a queue of pages asks, sweep by sweep. -/
structure Sweeps (groups : List ProjectGroup) (perPage : Given Int) (archived : Option Bool)
    (queue : List Page) (sweeps : List (List Exchange)) : Prop where
  /-- One sweep from the first page on for each target. -/
  inOrder : List.Forall₂ (fun target sweep => IsSweep (requestTo perPage archived target) 1 sweep)
    (targets groups) sweeps
  /-- The answers are the queue from its start on, and empty pages once it is used up. -/
  answered : sweeps.flatten.map Exchange.page <+:
    queue ++ List.replicate (max 1 groups.length) Page.empty
  /-- There are no more requests than pages and targets. -/
  few : sweeps.flatten.length ≤ queue.length + max 1 groups.length
  /-- Every request states the number of projects per page. -/
  sized : ∀ exchange ∈ sweeps.flatten, exchange.request.perPage = perPage
  /-- Exactly the requests for everything are restricted, if a restriction is asked for. -/
  restricted : ∀ exchange ∈ sweeps.flatten,
    exchange.request.archived = if exchange.request.group = none then archived else none

/-! ## Pages of one sweep -/

/-- The pages a sweep is answered with; a queue that runs out adds an empty one. -/
def sweptPages : List Page → List Page
  | [] => [Page.empty]
  | page :: queue => if page.next?.isNone then [page] else page :: sweptPages queue

/-- What a sweep leaves of a queue of pages. -/
def afterSweep : List Page → List Page
  | [] => []
  | page :: queue => if page.next?.isNone then queue else afterSweep queue

/-- Requests that follow the pages named by the answers. -/
def exchanges (request : Int → PageRequest) : Int → List Page → List Exchange
  | _, [] => []
  | number, page :: later =>
    ⟨request number, page⟩ :: exchanges request (page.next.getD 0) later

theorem page_exchanges (request : Int → PageRequest) (number : Int) (pages : List Page) :
    (exchanges request number pages).map Exchange.page = pages := by
  induction pages generalizing number with
  | nil => rfl
  | cons page later induction => simp [exchanges, induction]

theorem next?_eq_none_iff (page : Page) :
    page.next? = none ↔ page.next = none ∨ page.next = some 0 := by
  cases named : page.next with
  | none => simp [Page.next?, named]
  | some next => simp [Page.next?, named]

theorem next?_eq_some_iff (page : Page) (next : Int) :
    page.next? = some next ↔ page.next = some next ∧ next ≠ 0 := by
  cases named : page.next with
  | none => simp [Page.next?, named]
  | some other =>
      simp only [Page.next?, named, Option.filter_eq_some_iff, Option.some.injEq]
      constructor
      · rintro ⟨rfl, differs⟩
        exact ⟨rfl, by simpa using differs⟩
      · rintro ⟨rfl, differs⟩
        exact ⟨rfl, by simpa using differs⟩

theorem isSweep_exchanges (request : Int → PageRequest) (number : Int) (queue : List Page) :
    IsSweep request number (exchanges request number (sweptPages queue)) := by
  induction queue generalizing number with
  | nil => exact .last (.inl rfl)
  | cons page queue induction =>
      cases named : page.next? with
      | none =>
          simp only [sweptPages, named, Option.isNone_none, if_true, exchanges]
          exact .last ((next?_eq_none_iff page).mp named)
      | some next =>
          obtain ⟨names, differs⟩ := (next?_eq_some_iff page next).mp named
          simp only [sweptPages, named, Option.isNone_some, Bool.false_eq_true, if_false, exchanges,
            names, Option.getD_some]
          exact .next names differs (induction next)

/-- A sweep takes pages from the front of the queue, or the whole queue and an empty page. -/
theorem sweptPages_append_afterSweep (queue : List Page) :
    sweptPages queue ++ afterSweep queue = queue ∨
      sweptPages queue = queue ++ [Page.empty] ∧ afterSweep queue = [] := by
  induction queue with
  | nil => exact .inr ⟨rfl, rfl⟩
  | cons page queue induction =>
      by_cases last : page.next?.isNone = true
      · exact .inl (by simp [sweptPages, afterSweep, last])
      · rcases induction with split | ⟨swept, left⟩
        · exact .inl (by simp [sweptPages, afterSweep, last, split])
        · exact .inr (by simp [sweptPages, afterSweep, last, swept, left])

/-! ## Pages of many sweeps -/

/-- The exchanges of sweeps, one for each way to ask. -/
def sweepsOver : List (Int → PageRequest) → List Page → List (List Exchange)
  | [], _ => []
  | request :: requests, queue =>
    exchanges request 1 (sweptPages queue) :: sweepsOver requests (afterSweep queue)

/-- What a number of sweeps leaves of a queue of pages. -/
def afterSweeps : Nat → List Page → List Page
  | 0, queue => queue
  | count + 1, queue => afterSweeps count (afterSweep queue)

/-- Pages that answer a number of sweeps. -/
def answeredPages : Nat → List Page → List Page
  | 0, _ => []
  | count + 1, queue => sweptPages queue ++ answeredPages count (afterSweep queue)

theorem page_sweepsOver (requests : List (Int → PageRequest)) (queue : List Page) :
    (sweepsOver requests queue).flatten.map Exchange.page =
      answeredPages requests.length queue := by
  induction requests generalizing queue with
  | nil => rfl
  | cons request requests induction =>
      simp [sweepsOver, answeredPages, page_exchanges, induction]

theorem isPrefix_answeredPages (count : Nat) (queue : List Page) :
    answeredPages count queue <+: queue ++ List.replicate count Page.empty := by
  induction count generalizing queue with
  | zero => exact List.nil_prefix
  | succ count induction =>
      have later := induction (afterSweep queue)
      rcases sweptPages_append_afterSweep queue with split | ⟨swept, left⟩
      · have front : answeredPages (count + 1) queue <+:
            sweptPages queue ++ (afterSweep queue ++ List.replicate count Page.empty) :=
          (List.prefix_append_right_inj _).mpr later
        rw [← List.append_assoc, split] at front
        rw [List.replicate_succ', ← List.append_assoc]
        exact front.trans (List.prefix_append _ _)
      · rw [left, List.nil_append] at later
        rw [answeredPages, swept, left, List.append_assoc, List.replicate_succ]
        exact (List.prefix_append_right_inj _).mpr ((List.prefix_append_right_inj _).mpr later)

theorem afterSweep_eq_drop (queue : List Page) :
    afterSweep queue = queue.drop (sweptPages queue).length := by
  rcases sweptPages_append_afterSweep queue with split | ⟨swept, left⟩
  · calc
      afterSweep queue =
          (sweptPages queue ++ afterSweep queue).drop (sweptPages queue).length :=
        List.drop_left.symm
      _ = queue.drop (sweptPages queue).length := by rw [split]
  · simp [swept, left]

theorem afterSweeps_eq_drop (count : Nat) (queue : List Page) :
    afterSweeps count queue = queue.drop (answeredPages count queue).length := by
  induction count generalizing queue with
  | zero => rfl
  | succ count induction =>
      rw [afterSweeps, induction, afterSweep_eq_drop, List.drop_drop, answeredPages,
        List.length_append, ← afterSweep_eq_drop]

theorem forall₂_sweepsOver (perPage : Given Int) (archived : Option Bool)
    (targets : List (Option ProjectGroup)) (queue : List Page) :
    List.Forall₂ (fun target sweep => IsSweep (requestTo perPage archived target) 1 sweep) targets
      (sweepsOver (targets.map (requestTo perPage archived)) queue) := by
  induction targets generalizing queue with
  | nil => exact .nil
  | cons target targets induction =>
      exact .cons (isSweep_exchanges _ 1 queue) (induction (afterSweep queue))

theorem requests_exchanges (request : Int → PageRequest) (number : Int) (pages : List Page) :
    ∀ exchange ∈ exchanges request number pages, ∃ asked, exchange.request = request asked := by
  induction pages generalizing number with
  | nil => simp [exchanges]
  | cons page pages induction =>
      intro exchange member
      rcases List.mem_cons.mp member with rfl | later
      · exact ⟨number, rfl⟩
      · exact induction _ exchange later

theorem requests_sweepsOver (perPage : Given Int) (archived : Option Bool)
    (targets : List (Option ProjectGroup)) (queue : List Page) :
    ∀ exchange ∈ (sweepsOver (targets.map (requestTo perPage archived)) queue).flatten,
      ∃ target number, exchange.request = requestTo perPage archived target number := by
  induction targets generalizing queue with
  | nil => simp [sweepsOver]
  | cons target targets induction =>
      intro exchange member
      rcases List.mem_append.mp member with here | later
      · obtain ⟨number, made⟩ := requests_exchanges _ _ _ exchange here
        exact ⟨target, number, made⟩
      · exact induction (afterSweep queue) exchange later

theorem length_targets (groups : List ProjectGroup) :
    (targets groups).length = max 1 groups.length := by
  cases groups with
  | nil => rfl
  | cons group groups =>
      rw [targets, List.isEmpty_cons, if_neg Bool.false_ne_true, List.length_map]
      exact (Nat.max_eq_right (Nat.succ_pos groups.length)).symm

theorem sweeps_sweepsOver (groups : List ProjectGroup) (perPage : Given Int)
    (archived : Option Bool) (queue : List Page) :
    Sweeps groups perPage archived queue
      (sweepsOver ((targets groups).map (requestTo perPage archived)) queue) := by
  have answered : (sweepsOver ((targets groups).map (requestTo perPage archived)) queue).flatten.map
      Exchange.page <+: queue ++ List.replicate (max 1 groups.length) Page.empty := by
    rw [page_sweepsOver, List.length_map, length_targets]
    exact isPrefix_answeredPages _ queue
  have asked : ∀ exchange ∈ (sweepsOver ((targets groups).map (requestTo perPage archived))
      queue).flatten, ∃ target number,
        exchange.request = requestTo perPage archived target number :=
    requests_sweepsOver perPage archived (targets groups) queue
  refine ⟨forall₂_sweepsOver perPage archived (targets groups) queue, answered, ?_, ?_, ?_⟩
  · simpa only [List.length_map, List.length_append, List.length_replicate] using
      answered.length_le
  · intro exchange member
    obtain ⟨target, number, made⟩ := asked exchange member
    rw [made, requestTo]
  · intro exchange member
    obtain ⟨target, number, made⟩ := asked exchange member
    rw [made, requestTo]
    cases target <;> rfl

end RepoCatalog.Discovery
