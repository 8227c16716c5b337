import RepoCatalog.Selection

/-!
# Stable sorting

A list that is ordered by a text and holds, for every text, the elements of another list with that
text in their old order. There is only one such list; leaving elements out before or after sorting
makes no difference.
-/

namespace RepoCatalog.Selection

variable {α β : Type}

/-- A list is another one sorted by a text, elements of equal text in their old order. -/
structure IsStableSort (key : α → String) (input output : List α) : Prop where
  /-- Every element occurs as often as before. -/
  perm : output.Perm input
  /-- No text comes before an earlier one. -/
  ordered : output.Pairwise fun first second => key first ≤ key second
  /-- Elements of one text keep their order. -/
  stable : ∀ text, output.filter (key · = text) = input.filter (key · = text)

/-- A sorted list is determined by its elements of each text. -/
theorem eq_of_ordered_of_filter_eq {key : α → String} {left right : List α}
    (leftOrdered : left.Pairwise fun first second => key first ≤ key second)
    (rightOrdered : right.Pairwise fun first second => key first ≤ key second)
    (same : ∀ text, left.filter (key · = text) = right.filter (key · = text)) : left = right := by
  induction left generalizing right with
  | nil =>
      cases right with
      | nil => rfl
      | cons other right => simpa using same (key other)
  | cons first left induction =>
      cases right with
      | nil => simpa using same (key first)
      | cons other right =>
          obtain ⟨leftLeast, leftRest⟩ := List.pairwise_cons.mp leftOrdered
          obtain ⟨rightLeast, rightRest⟩ := List.pairwise_cons.mp rightOrdered
          -- Each head occurs in the other list, so neither text comes before the other.
          have firstIn : first ∈ (other :: right).filter (key · = key first) := by
            rw [← same]
            simp
          have otherIn : other ∈ (first :: left).filter (key · = key other) := by
            rw [same]
            simp
          have above : key other ≤ key first := by
            rcases List.mem_cons.mp ((List.mem_filter.mp firstIn).1) with rfl | later
            · exact String.le_refl _
            · exact rightLeast first later
          have below : key first ≤ key other := by
            rcases List.mem_cons.mp ((List.mem_filter.mp otherIn).1) with rfl | later
            · exact String.le_refl _
            · exact leftLeast other later
          have equal : key other = key first := String.le_antisymm above below
          have heads := same (key first)
          simp only [List.filter_cons, equal, decide_true, if_true, List.cons.injEq] at heads
          obtain ⟨rfl, -⟩ := heads
          refine congrArg (first :: ·) (induction leftRest rightRest fun text => ?_)
          have here := same text
          by_cases holds : key first = text
          · simpa [List.filter_cons, holds] using here
          · simpa [List.filter_cons, holds] using here

/-- There is one way to sort a list and keep equal texts in their order. -/
theorem IsStableSort.unique {key : α → String} {input first second : List α}
    (one : IsStableSort key input first) (other : IsStableSort key input second) :
    first = second :=
  eq_of_ordered_of_filter_eq one.ordered other.ordered fun text =>
    (one.stable text).trans (other.stable text).symm

/-- Leaving elements out after sorting gives what sorting gives after they were left out. -/
theorem IsStableSort.filter {key : α → String} {input output : List α}
    (sorted : IsStableSort key input output) (keeps : α → Bool) :
    IsStableSort key (input.filter keeps) (output.filter keeps) := by
  refine ⟨sorted.perm.filter keeps, sorted.ordered.filter keeps, fun text => ?_⟩
  calc
    (output.filter keeps).filter (key · = text) =
        (output.filter (key · = text)).filter keeps := by
      simp only [List.filter_filter, Bool.and_comm]
    _ = (input.filter (key · = text)).filter keeps := by rw [sorted.stable]
    _ = (input.filter keeps).filter (key · = text) := by
      simp only [List.filter_filter, Bool.and_comm]

theorem isStableSort_mergeSort (key : α → String) (input : List α) :
    IsStableSort key input (input.mergeSort fun first second => key first ≤ key second) := by
  have transitive : ∀ first second third : α, decide (key first ≤ key second) = true →
      decide (key second ≤ key third) = true → decide (key first ≤ key third) = true := by
    intro first second third below above
    simp only [decide_eq_true_eq] at below above ⊢
    exact String.le_trans below above
  have total : ∀ first second : α,
      (decide (key first ≤ key second) || decide (key second ≤ key first)) = true := by
    intro first second
    simpa using String.le_total (key first) (key second)
  have permuted := List.mergeSort_perm input fun first second => decide (key first ≤ key second)
  refine ⟨permuted, ?_, fun text => ?_⟩
  · simpa only [decide_eq_true_eq] using List.pairwise_mergeSort transitive total input
  · have level : (input.filter (key · = text)).Pairwise fun first second =>
        decide (key first ≤ key second) = true := by
      refine List.pairwise_of_forall_mem_list fun first firstIn second secondIn => ?_
      have firstText : key first = text := by simpa using (List.mem_filter.mp firstIn).2
      have secondText : key second = text := by simpa using (List.mem_filter.mp secondIn).2
      simp [firstText, secondText]
    have kept := (List.sublist_mergeSort transitive total level List.filter_sublist).filter
      (key · = text)
    simp only [List.filter_filter, Bool.and_self] at kept
    exact (kept.eq_of_length (permuted.filter _).length_eq.symm).symm

end RepoCatalog.Selection
