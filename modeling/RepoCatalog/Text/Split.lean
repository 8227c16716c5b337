/-!
# Splitting text

A text is split at every occurrence of a mark; joining the parts with the mark gives it back.
-/

namespace RepoCatalog.Text

/-- What stands between the occurrences of a mark. -/
def split (mark : Char) : List Char → List (List Char)
  | [] => [[]]
  | c :: rest =>
    if c = mark then [] :: split mark rest
    else
      match split mark rest with
      | part :: others => (c :: part) :: others
      | [] => [[c]]

theorem split_ne_nil (mark : Char) (text : List Char) : split mark text ≠ [] := by
  induction text with
  | nil => simp [split]
  | cons c rest induction =>
      by_cases same : c = mark
      · simp [split, same]
      · simp only [split, same, if_false]
        split <;> simp

theorem intercalate_split (mark : Char) (text : List Char) :
    [mark].intercalate (split mark text) = text := by
  induction text with
  | nil => simp [split]
  | cons c rest induction =>
      obtain ⟨part, others, parts⟩ := List.exists_cons_of_ne_nil (split_ne_nil mark rest)
      rw [parts] at induction
      by_cases same : c = mark
      · simpa [split, same, parts, List.intercalate] using induction
      · cases others <;> simp_all [split, List.intercalate]

/-- No part contains the mark. -/
theorem not_mem_of_mem_split {mark : Char} {text part : List Char}
    (member : part ∈ split mark text) : mark ∉ part := by
  induction text generalizing part with
  | nil => simp_all [split]
  | cons c rest induction =>
      by_cases same : c = mark
      · simp only [split, same, if_true, List.mem_cons] at member
        rcases member with rfl | member
        · simp
        · exact induction member
      · obtain ⟨first, others, parts⟩ := List.exists_cons_of_ne_nil (split_ne_nil mark rest)
        simp only [split, same, if_false, parts, List.mem_cons] at member
        rcases member with rfl | member
        · have apart : mark ∉ first := induction (by simp [parts])
          simp [apart, Ne.symm same]
        · exact induction (by simp [parts, member])

end RepoCatalog.Text
