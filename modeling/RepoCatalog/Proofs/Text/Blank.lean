import Mathlib.Data.List.DropRight
import RepoCatalog.Text.Blank

/-!
# Trimmed texts

Stripping a text takes blanks from its ends and nothing else. Blanks that are put around a text do
not count, and what is left has none at its ends.
-/

namespace RepoCatalog.Text

variable {drop : Char → Bool} {text : List Char}

/-! ## The end of a text -/

theorem dropEndWhile_append {tail : List Char} (dropped : ∀ c ∈ tail, drop c = true)
    (text : List Char) : dropEndWhile drop (text ++ tail) = dropEndWhile drop text := by
  have among : ∀ c ∈ tail.reverse, drop c = true :=
    fun c member => dropped c (List.mem_reverse.mp member)
  rw [dropEndWhile, List.reverse_append, List.dropWhile_append_of_pos among, dropEndWhile]

theorem dropEndWhile_eq_self_iff :
    dropEndWhile drop text = text ↔ ∀ c ∈ text.getLast?, drop c = false := by
  have last : dropEndWhile drop text = text ↔ ∀ some : text ≠ [], ¬ drop (text.getLast some) :=
    List.rdropWhile_eq_self_iff
  rw [last]
  rcases List.eq_nil_or_concat text with rfl | ⟨front, c, rfl⟩
  · simp
  · simp [List.concat_eq_append]

theorem isPrefix_dropEndWhile (drop : Char → Bool) (text : List Char) :
    dropEndWhile drop text <+: text :=
  List.rdropWhile_prefix drop text

theorem getLast?_dropEndWhile (drop : Char → Bool) (text : List Char) :
    ∀ c ∈ (dropEndWhile drop text).getLast?, drop c = false :=
  dropEndWhile_eq_self_iff.mp (List.rdropWhile_idempotent drop text)

/-! ## Both ends -/

/-- A text with no blank at either end. -/
structure IsTrimmed (text : List Char) : Prop where
  /-- It does not begin with a blank. -/
  head : ∀ c ∈ text.head?, isBlank c = false
  /-- It does not end with a blank. -/
  last : ∀ c ∈ text.getLast?, isBlank c = false

theorem isTrimmed_iff : IsTrimmed text ↔
    (text.head?.all (!isBlank ·) && text.getLast?.all (!isBlank ·)) = true := by
  rw [Bool.and_eq_true, Option.all_eq_true, Option.all_eq_true]
  simp only [Bool.not_eq_true']
  exact ⟨fun trimmed => ⟨trimmed.head, trimmed.last⟩, fun ends => ⟨ends.1, ends.2⟩⟩

instance : Decidable (IsTrimmed text) :=
  decidable_of_iff _ isTrimmed_iff.symm

theorem IsTrimmed.append {front back : List Char} (first : IsTrimmed front)
    (second : IsTrimmed back) : IsTrimmed (front ++ back) where
  head c member := by
    cases front with
    | nil => exact second.head c member
    | cons other rest => exact first.head c member
  last c member := by
    rcases List.eq_nil_or_concat back with rfl | ⟨rest, other, rfl⟩
    · exact first.last c (by simpa using member)
    · exact second.last c (by simpa using member)

theorem dropWhile_of_head (head : ∀ c ∈ text.head?, isBlank c = false) :
    text.dropWhile isBlank = text := by
  cases text with
  | nil => rfl
  | cons c rest => exact List.dropWhile_cons_of_neg (by simp [head c rfl])

theorem strip_of_isTrimmed (trimmed : IsTrimmed text) : strip text = text := by
  rw [strip, dropWhile_of_head trimmed.head]
  exact dropEndWhile_eq_self_iff.mpr trimmed.last

theorem isInfix_strip (text : List Char) : strip text <:+: text :=
  (isPrefix_dropEndWhile isBlank _).isInfix.trans (List.dropWhile_suffix isBlank).isInfix

theorem isTrimmed_strip (text : List Char) : IsTrimmed (strip text) where
  head c member := by
    have first : (strip text) <+: text.dropWhile isBlank := isPrefix_dropEndWhile isBlank _
    obtain ⟨rest, chars⟩ := List.head?_eq_some_iff.mp member
    obtain ⟨tail, whole⟩ := first
    have found := List.head?_dropWhile_not isBlank text
    rw [← whole, chars] at found
    exact found
  last := getLast?_dropEndWhile isBlank _

theorem strip_eq_self_iff : strip text = text ↔ IsTrimmed text :=
  ⟨fun same => same ▸ isTrimmed_strip text, strip_of_isTrimmed⟩

/-- Blanks around a text do not count. -/
theorem strip_padded {front back : List Char} (leading : ∀ c ∈ front, isBlank c = true)
    (trailing : ∀ c ∈ back, isBlank c = true) (text : List Char) :
    strip (front ++ text ++ back) = strip text := by
  rw [strip, List.append_assoc, List.dropWhile_append_of_pos leading, List.dropWhile_append, strip]
  split
  · rename_i empty
    have none : back.dropWhile isBlank = [] := List.dropWhile_eq_nil_iff.mpr trailing
    rw [none, List.isEmpty_iff.mp empty]
  · exact dropEndWhile_append trailing _

/-- Something is left of a text that is not blank. -/
theorem strip_ne_nil {c : Char} (member : c ∈ text) (visible : isBlank c = false) :
    strip text ≠ [] := by
  intro empty
  have left : text.dropWhile isBlank ≠ [] := by
    intro none
    have blank := List.dropWhile_eq_nil_iff.mp none c member
    rw [visible] at blank
    cases blank
  obtain ⟨first, rest, chars⟩ := List.exists_cons_of_ne_nil left
  have seen := List.head?_dropWhile_not isBlank text
  have all : ∀ other ∈ text.dropWhile isBlank, isBlank other = true :=
    List.rdropWhile_eq_nil_iff.mp empty
  rw [chars] at seen all
  have blank := all first List.mem_cons_self
  rw [show isBlank first = false from seen] at blank
  cases blank

end RepoCatalog.Text
