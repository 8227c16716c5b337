import RepoCatalog.Locate

/-!
# The course of a search

A search asks its strategies one after the other. It stops at the first one whose proposal can be
used, breaks off over a proposal that cannot be inspected, and falls back on the bare name behind
the last one.
-/

namespace RepoCatalog.Search

/-- A strategy proposes a candidate; an empty text is none. -/
def Proposes (strategy : Strategy) (name invocation candidate : String) : Prop :=
  strategy name invocation = some candidate ∧ candidate ≠ ""

/-- A strategy is passed over: what it proposes, if anything, cannot be used. -/
def PassesOver (usable : String → Except Failure Bool) (name invocation : String)
    (strategy : Strategy) : Prop :=
  ∀ candidate, Proposes strategy name invocation candidate → usable candidate = .ok false

/-- A search gets to a candidate: a strategy proposes it, and those in front are passed over. -/
structure GetsTo (usable : String → Except Failure Bool) (name invocation : String)
    (strategies front : List Strategy) (strategy : Strategy) (candidate : String) : Prop where
  /-- The strategy stands behind those in front. -/
  behind : ∃ rest, strategies = front ++ strategy :: rest
  /-- It proposes the candidate. -/
  proposed : Proposes strategy name invocation candidate
  /-- Those in front come to nothing. -/
  passed : ∀ earlier ∈ front, PassesOver usable name invocation earlier

/-- How a search ends, and which strategies were asked: those up to the one whose candidate ended
it, or all of them. -/
inductive Ends (usable : String → Except Failure Bool) (name invocation : String)
    (strategies : List Strategy) : Search → Prop
  | found {front : List Strategy} {strategy : Strategy} {candidate : String}
      (gets : GetsTo usable name invocation strategies front strategy candidate)
      (seen : usable candidate = .ok true) :
      Ends usable name invocation strategies ⟨front ++ [strategy], .ok candidate⟩
  | broken {front : List Strategy} {strategy : Strategy} {candidate : String} {failure : Failure}
      (gets : GetsTo usable name invocation strategies front strategy candidate)
      (unseen : usable candidate = .error failure) :
      Ends usable name invocation strategies ⟨front ++ [strategy], .error failure⟩
  | exhausted (passed : ∀ strategy ∈ strategies, PassesOver usable name invocation strategy) :
      Ends usable name invocation strategies ⟨strategies, .ok name⟩

variable {usable : String → Except Failure Bool} {name invocation candidate : String}
  {strategies front : List Strategy} {strategy : Strategy}

/-! ## One strategy -/

theorem passesOver_of_none (silent : strategy name invocation = none) :
    PassesOver usable name invocation strategy := by
  rintro candidate ⟨proposed, -⟩
  rw [silent] at proposed
  cases proposed

theorem passesOver_iff (proposes : Proposes strategy name invocation candidate) :
    PassesOver usable name invocation strategy ↔ usable candidate = .ok false := by
  refine ⟨fun passes => passes candidate proposes, fun unusable other again => ?_⟩
  obtain rfl : candidate = other := Option.some.inj (proposes.1.symm.trans again.1)
  exact unusable

/-- A strategy is passed over, or it proposes something that is used or cannot be inspected. -/
theorem passesOver_or (usable : String → Except Failure Bool) (name invocation : String)
    (strategy : Strategy) : PassesOver usable name invocation strategy ∨
      ∃ candidate, Proposes strategy name invocation candidate ∧ usable candidate ≠ .ok false := by
  cases proposed : strategy name invocation with
  | none => exact .inl (passesOver_of_none proposed)
  | some candidate =>
      by_cases empty : candidate = ""
      · refine .inl fun other proposes => ?_
        obtain rfl : candidate = other := Option.some.inj (proposed.symm.trans proposes.1)
        exact absurd empty proposes.2
      · have proposes : Proposes strategy name invocation candidate := ⟨proposed, empty⟩
        by_cases unusable : usable candidate = .ok false
        · exact .inl ((passesOver_iff proposes).mpr unusable)
        · exact .inr ⟨candidate, proposes, unusable⟩

theorem run_cons_of_passesOver (passes : PassesOver usable name invocation strategy)
    (asked rest : List Strategy) :
    run usable name invocation asked (strategy :: rest) =
      run usable name invocation (asked ++ [strategy]) rest := by
  rw [run]
  cases proposed : strategy name invocation with
  | none => rfl
  | some candidate =>
      dsimp only
      split
      · rfl
      · rename_i some
        rw [passes candidate ⟨proposed, some⟩]

theorem run_cons_of_counts (proposes : Proposes strategy name invocation candidate)
    (counts : usable candidate ≠ .ok false) (asked rest : List Strategy) :
    run usable name invocation asked (strategy :: rest) =
      ⟨asked ++ [strategy], (usable candidate).map fun _ => candidate⟩ := by
  simp only [run, proposes.1, if_neg proposes.2]
  cases seen : usable candidate with
  | error failure => rfl
  | ok found =>
      cases found with
      | true => rfl
      | false => exact absurd seen counts

/-! ## The whole search -/

theorem run_append_of_passed (passed : ∀ earlier ∈ front, PassesOver usable name invocation earlier)
    (asked rest : List Strategy) :
    run usable name invocation asked (front ++ rest) =
      run usable name invocation (asked ++ front) rest := by
  induction front generalizing asked with
  | nil => rw [List.append_nil, List.nil_append]
  | cons earlier front induction =>
      rw [List.cons_append, run_cons_of_passesOver (passed earlier List.mem_cons_self),
        induction fun other member => passed other (List.mem_cons_of_mem earlier member),
        List.append_assoc, List.singleton_append]

theorem run_of_passed
    (passed : ∀ strategy ∈ strategies, PassesOver usable name invocation strategy) :
    run usable name invocation [] strategies = ⟨strategies, .ok name⟩ := by
  have whole := run_append_of_passed passed [] []
  rwa [List.append_nil, List.nil_append] at whole

theorem GetsTo.mem (gets : GetsTo usable name invocation strategies front strategy candidate) :
    strategy ∈ strategies := by
  obtain ⟨⟨rest, rfl⟩, -, -⟩ := gets
  simp

/-- A candidate that is not passed over ends the search. -/
theorem GetsTo.run_of_counts
    (gets : GetsTo usable name invocation strategies front strategy candidate)
    (counts : usable candidate ≠ .ok false) :
    run usable name invocation [] strategies =
      ⟨front ++ [strategy], (usable candidate).map fun _ => candidate⟩ := by
  obtain ⟨⟨rest, rfl⟩, proposes, passed⟩ := gets
  rw [run_append_of_passed passed, run_cons_of_counts proposes counts, List.nil_append]

theorem GetsTo.run_of_usable
    (gets : GetsTo usable name invocation strategies front strategy candidate)
    (seen : usable candidate = .ok true) :
    run usable name invocation [] strategies = ⟨front ++ [strategy], .ok candidate⟩ := by
  rw [gets.run_of_counts (by simp [seen]), seen, Except.map]

theorem GetsTo.run_of_unseen {failure : Failure}
    (gets : GetsTo usable name invocation strategies front strategy candidate)
    (unseen : usable candidate = .error failure) :
    run usable name invocation [] strategies = ⟨front ++ [strategy], .error failure⟩ := by
  rw [gets.run_of_counts (by simp [unseen]), unseen, Except.map]

/-- All strategies are passed over, or one of them is the first that is not. -/
theorem passed_or_getsTo (usable : String → Except Failure Bool) (name invocation : String)
    (strategies : List Strategy) :
    (∀ strategy ∈ strategies, PassesOver usable name invocation strategy) ∨
      ∃ front strategy candidate,
        GetsTo usable name invocation strategies front strategy candidate ∧
          usable candidate ≠ .ok false := by
  induction strategies with
  | nil => exact .inl (by simp)
  | cons strategy strategies induction =>
      rcases passesOver_or usable name invocation strategy with
        passes | ⟨candidate, proposes, counts⟩
      · rcases induction with passed | ⟨front, other, candidate, gets, counts⟩
        · exact .inl (List.forall_mem_cons.mpr ⟨passes, passed⟩)
        · obtain ⟨⟨rest, rfl⟩, proposes, passed⟩ := gets
          exact .inr ⟨strategy :: front, other, candidate,
            ⟨⟨rest, rfl⟩, proposes, List.forall_mem_cons.mpr ⟨passes, passed⟩⟩, counts⟩
      · exact .inr ⟨[], strategy, candidate, ⟨⟨strategies, rfl⟩, proposes, by simp⟩, counts⟩

theorem ends_run (usable : String → Except Failure Bool) (name invocation : String)
    (strategies : List Strategy) :
    Ends usable name invocation strategies (run usable name invocation [] strategies) := by
  rcases passed_or_getsTo usable name invocation strategies with
    passed | ⟨front, strategy, candidate, gets, counts⟩
  · rw [run_of_passed passed]
    exact .exhausted passed
  · cases seen : usable candidate with
    | error failure =>
        rw [gets.run_of_unseen seen]
        exact .broken gets seen
    | ok found =>
        cases found with
        | true =>
            rw [gets.run_of_usable seen]
            exact .found gets seen
        | false => exact absurd seen counts

/-! ## Strategies that do not count -/

/-- Where a search stands does not depend on the strategies behind. -/
theorem GetsTo.behind_of
    (gets : GetsTo usable name invocation strategies front strategy candidate)
    (others : List Strategy) :
    GetsTo usable name invocation (front ++ strategy :: others) front strategy candidate :=
  ⟨⟨others, rfl⟩, gets.proposed, gets.passed⟩

/-- Strategies behind a candidate that ends the search are not asked. -/
theorem GetsTo.run_append
    (gets : GetsTo usable name invocation strategies front strategy candidate)
    (counts : usable candidate ≠ .ok false) (others : List Strategy) :
    run usable name invocation [] (front ++ strategy :: others) =
      run usable name invocation [] strategies := by
  rw [gets.run_of_counts counts, (gets.behind_of others).run_of_counts counts]

/-- Unless all strategies come to nothing, those behind the ones that were asked do not count. -/
theorem passed_or_run_asked (usable : String → Except Failure Bool) (name invocation : String)
    (strategies : List Strategy) :
    (∀ strategy ∈ strategies, PassesOver usable name invocation strategy) ∨
      ∀ others, run usable name invocation []
        ((run usable name invocation [] strategies).asked ++ others) =
          run usable name invocation [] strategies := by
  rcases passed_or_getsTo usable name invocation strategies with
    passed | ⟨front, strategy, candidate, gets, counts⟩
  · exact .inl passed
  · refine .inr fun others => ?_
    have asked : (run usable name invocation [] strategies).asked = front ++ [strategy] := by
      rw [gets.run_of_counts counts]
    rw [asked, List.append_assoc, List.singleton_append, gets.run_append counts]

/-- A strategy is of no use behind others if it is passed over where they are. -/
theorem outcome_append_of_passed {other : Strategy}
    (idle : (∀ strategy ∈ strategies, PassesOver usable name invocation strategy) →
      PassesOver usable name invocation other) :
    (run usable name invocation [] (strategies ++ [other])).outcome =
      (run usable name invocation [] strategies).outcome := by
  rcases passed_or_getsTo usable name invocation strategies with
    passed | ⟨front, strategy, candidate, gets, counts⟩
  · have all : ∀ strategy ∈ strategies ++ [other], PassesOver usable name invocation strategy := by
      intro strategy member
      rcases List.mem_append.mp member with early | late
      · exact passed strategy early
      · exact List.mem_singleton.mp late ▸ idle passed
    rw [run_of_passed all, run_of_passed passed]
  · obtain ⟨rest, whole⟩ := gets.behind
    have longer : strategies ++ [other] = front ++ strategy :: (rest ++ [other]) := by
      simp [whole]
    rw [longer, gets.run_append counts]

/-! ## What can be used -/

/-- A test that does not tell the spellings of a path apart. -/
def GoesByNormalForm (usable : String → Except Failure Bool) : Prop :=
  ∀ candidate other, FilePath.ofString candidate = FilePath.ofString other →
    usable candidate = usable other

theorem goesByNormalForm_isUsable (files : FileTree) : GoesByNormalForm (isUsable files) := by
  intro candidate other same
  rw [isUsable, isUsable, same]

/-- A candidate can be used if its normal form leads to something other than a directory. -/
theorem isUsable_eq_true_iff {files : FileTree} {candidate : String} :
    isUsable files candidate = .ok true ↔
      hasNull (FilePath.ofString candidate).text = false ∧
      ∃ place entry, files.resolve .follow (FilePath.ofString candidate).text =
        .ok (.present place entry) ∧ entry ≠ .directory := by
  rw [isUsable]
  cases null : hasNull (FilePath.ofString candidate).text with
  | true => simp
  | false =>
      rw [FileTree.inspect]
      cases resolved : files.resolve .follow (FilePath.ofString candidate).text with
      | error fault => cases means : fault.meansMissing <;> simp [means]
      | ok target =>
          cases target with
          | absent place => simp [FileFault.meansMissing]
          | present place entry =>
              simp only [ne_eq, Except.ok.injEq, decide_eq_true_eq, Target.present.injEq,
                Bool.false_eq_true, if_false, true_and]
              refine ⟨fun differs => ⟨place, entry, ⟨rfl, rfl⟩, differs⟩, ?_⟩
              rintro ⟨_, _, ⟨rfl, rfl⟩, differs⟩
              exact differs

/-- A candidate cannot be inspected if the system has no answer for its normal form. -/
theorem isUsable_eq_error_iff {files : FileTree} {candidate : String} {failure : Failure} :
    isUsable files candidate = .error failure ↔
      hasNull (FilePath.ofString candidate).text = false ∧
      ∃ fault, files.resolve .follow (FilePath.ofString candidate).text = .error fault ∧
        fault.meansMissing = false ∧
        failure = .system (fault.about (FilePath.ofString candidate).text) := by
  rw [isUsable]
  cases null : hasNull (FilePath.ofString candidate).text with
  | true => simp
  | false =>
      rw [FileTree.inspect]
      cases resolved : files.resolve .follow (FilePath.ofString candidate).text with
      | error fault =>
          cases means : fault.meansMissing with
          | true => simp [means]
          | false =>
              simp only [means, Bool.false_eq_true, if_false, Except.error.injEq, true_and]
              refine ⟨fun same => ⟨fault, rfl, means, same.symm⟩, ?_⟩
              rintro ⟨_, rfl, -, same⟩
              exact same.symm
      | ok target => cases target <;> simp [FileFault.meansMissing]

end RepoCatalog.Search
