import Mathlib.Data.List.Chain
import Mathlib.Data.List.DropRight
import RepoCatalog.Proofs.Text.Blank

/-!
# Single spacing

The words of a text with one space between neighbours are the stripped text in which one space
stands for each run of blanks. A text of that form stays as it is when it is spaced again, and so
does every part of it that ends with a word.
-/

namespace RepoCatalog.Text

variable {text : List Char}

/-- Text in which one space stands for each run of blanks. -/
def collapse : List Char → List Char
  | [] => []
  | c :: rest =>
    if isBlank c then
      if rest.head?.any isBlank then collapse rest else ' ' :: collapse rest
    else c :: collapse rest

/-! ## Words -/

theorem words_of_blanks {tail : List Char} (blanks : ∀ c ∈ tail, isBlank c = true) :
    words tail = [] := by
  induction tail with
  | nil => rfl
  | cons c rest induction =>
      rw [words_blank (blanks c List.mem_cons_self)]
      exact induction fun other member => blanks other (List.mem_cons_of_mem c member)

theorem startsWord_append_blanks {tail : List Char} (blanks : ∀ c ∈ tail, isBlank c = true)
    (text : List Char) : startsWord (text ++ tail) = startsWord text := by
  cases text with
  | cons c rest => rfl
  | nil =>
      cases tail with
      | nil => rfl
      | cons c rest => simp [startsWord, blanks c List.mem_cons_self]

theorem words_append_blanks {tail : List Char} (blanks : ∀ c ∈ tail, isBlank c = true)
    (text : List Char) : words (text ++ tail) = words text := by
  induction text with
  | nil => exact words_of_blanks blanks
  | cons c rest induction =>
      simp only [List.cons_append, words, induction, startsWord_append_blanks blanks]

theorem words_dropWhile (text : List Char) : words (text.dropWhile isBlank) = words text := by
  induction text with
  | nil => rfl
  | cons c rest induction =>
      by_cases blank : isBlank c = true
      · rw [List.dropWhile_cons_of_pos blank, words_blank blank, induction]
      · rw [List.dropWhile_cons_of_neg blank]

/-- Blanks around a text belong to no word. -/
theorem words_strip (text : List Char) : words (strip text) = words text := by
  have whole : strip text ++ (text.dropWhile isBlank).rtakeWhile isBlank =
      text.dropWhile isBlank :=
    List.rdropWhile_append_rtakeWhile
  have blanks : ∀ c ∈ (text.dropWhile isBlank).rtakeWhile isBlank, isBlank c = true :=
    fun c member => List.mem_rtakeWhile_imp member
  rw [← words_append_blanks blanks (strip text), whole, words_dropWhile]

theorem words_ne_nil {c : Char} (member : c ∈ text) (visible : isBlank c = false) :
    words text ≠ [] := by
  induction text with
  | nil => cases member
  | cons first rest induction =>
      by_cases blank : isBlank first = true
      · rw [words_blank blank]
        rcases List.mem_cons.mp member with rfl | later
        · rw [visible] at blank
          cases blank
        · exact induction later
      · unfold words
        rw [if_neg blank]
        split
        · split <;> simp
        · simp

/-- A word is not empty and holds no blank. -/
theorem mem_words {word : List Char} (member : word ∈ words text) :
    word ≠ [] ∧ ∀ c ∈ word, isBlank c = false := by
  induction text generalizing word with
  | nil => cases member
  | cons first rest induction =>
      by_cases blank : isBlank first = true
      · rw [words_blank blank] at member
        exact induction member
      · have visible : isBlank first = false := by simpa using blank
        have alone : [first] ≠ [] ∧ ∀ c ∈ [first], isBlank c = false := by simp [visible]
        unfold words at member
        rw [if_neg blank] at member
        split at member
        · split at member
          · rename_i head others found
            rcases List.mem_cons.mp member with rfl | later
            · have inside := (induction (found ▸ List.mem_cons_self)).2
              exact ⟨List.cons_ne_nil _ _, List.forall_mem_cons.mpr ⟨visible, inside⟩⟩
            · exact induction (found ▸ List.mem_cons_of_mem head later)
          · rw [List.mem_singleton.mp member]
            exact alone
        · rcases List.mem_cons.mp member with rfl | later
          · exact alone
          · exact induction later

/-! ## Words joined -/

theorem intercalate_append {first second : List (List Char)} (left : first ≠ [])
    (right : second ≠ []) (mark : List Char) :
    mark.intercalate (first ++ second) =
      mark.intercalate first ++ mark ++ mark.intercalate second := by
  induction first with
  | nil => exact absurd rfl left
  | cons part rest induction =>
      cases rest with
      | nil =>
          obtain ⟨next, others, rfl⟩ := List.exists_cons_of_ne_nil right
          simp [List.intercalate_cons_cons]
      | cons next others =>
          have joined := induction (List.cons_ne_nil next others)
          simp only [List.cons_append, List.intercalate_cons_cons, List.append_assoc] at joined ⊢
          rw [joined]

theorem singleSpaced_blank {c : Char} (blank : isBlank c = true) (rest : List Char) :
    singleSpaced (c :: rest) = singleSpaced rest := by
  rw [singleSpaced, words_blank blank, singleSpaced]

/-- A character that is followed by a word goes in front of it. -/
theorem singleSpaced_within {c d : Char} (first : isBlank c = false) (second : isBlank d = false)
    (rest : List Char) : singleSpaced (c :: d :: rest) = c :: singleSpaced (d :: rest) := by
  obtain ⟨word, others, found⟩ :=
    List.exists_cons_of_ne_nil (words_ne_nil (List.mem_cons_self (a := d) (l := rest)) second)
  have next : words (c :: d :: rest) = (c :: word) :: others := by
    rw [words, if_neg (by simp [first]), if_pos (by simp [startsWord, second]), found]
  rw [singleSpaced, singleSpaced, next, found]
  cases others with
  | nil => simp
  | cons other more => simp [List.intercalate_cons_cons]

/-- A character that ends a word is followed by one space. -/
theorem singleSpaced_before {c d : Char} (first : isBlank c = false) (second : isBlank d = true)
    {rest : List Char} (more : words rest ≠ []) :
    singleSpaced (c :: d :: rest) = c :: ' ' :: singleSpaced (d :: rest) := by
  have next : words (c :: d :: rest) = [c] :: words rest := by
    rw [words, if_neg (by simp [first]), if_neg (by simp [startsWord, second]),
      words_blank second]
  rw [singleSpaced_blank second, singleSpaced, singleSpaced, next]
  exact intercalate_append (List.cons_ne_nil [c] []) more [' ']

/-- Up to its end, a text is single-spaced by collapsing its runs of blanks. -/
theorem collapse_eq (last : ∀ c ∈ text.getLast?, isBlank c = false) :
    collapse text = (if text.head?.any isBlank then [' '] else []) ++ singleSpaced text := by
  induction text with
  | nil => rfl
  | cons c rest induction =>
      cases rest with
      | nil =>
          have visible : isBlank c = false := last c rfl
          simp [collapse, visible, singleSpaced, words, startsWord]
      | cons d more =>
          have joined := induction fun other member => last other (by simpa using member)
          rw [collapse, joined]
          by_cases first : isBlank c = true <;> by_cases second : isBlank d = true
          · simp [first, second, singleSpaced_blank]
          · simp [first, second, singleSpaced_blank]
          · have seen : words more ≠ [] := by
              rcases List.eq_nil_or_concat more with rfl | ⟨front, other, rfl⟩
              · rw [last d rfl] at second
                cases second
              · have ends : (c :: d :: front.concat other).getLast? = some other := by
                  simp [List.getLast?_cons]
                exact words_ne_nil (by simp) (last other ends)
            have visible : isBlank c = false := by simpa using first
            simp [first, second, singleSpaced_before visible second seen]
          · have visible : isBlank c = false := by simpa using first
            have further : isBlank d = false := by simpa using second
            simp [first, second, singleSpaced_within visible further]

/-- The words of a text with single spaces are the stripped text, its runs of blanks collapsed. -/
theorem singleSpaced_eq (text : List Char) : singleSpaced text = collapse (strip text) := by
  have trimmed := isTrimmed_strip text
  have begins : (strip text).head?.any isBlank = false := by
    rw [Option.any_eq_false]
    simpa using trimmed.head
  rw [collapse_eq trimmed.last, begins, singleSpaced, singleSpaced, words_strip]
  rfl

/-! ## Texts that stay as they are -/

/-- A text with one space between neighbouring words and nothing around them. -/
structure IsSingleSpaced (text : List Char) : Prop extends IsTrimmed text where
  /-- Its blanks are spaces. -/
  plain : ∀ c ∈ text, isBlank c = true → c = ' '
  /-- No two blanks stand side by side. -/
  single : text.IsChain fun c next => isBlank c = true → isBlank next = false

variable {front back : List Char}

theorem isSingleSpaced_of_visible (visible : ∀ c ∈ text, isBlank c = false) :
    IsSingleSpaced text where
  head c member := visible c (List.mem_of_head? member)
  last c member := visible c (List.mem_of_getLast? member)
  plain c member blank := by
    rw [visible c member] at blank
    cases blank
  single := by
    induction text with
    | nil => exact .nil
    | cons c rest induction =>
        have later : ∀ other ∈ rest, isBlank other = false :=
          fun other member => visible other (List.mem_cons_of_mem c member)
        exact List.isChain_cons.mpr
          ⟨fun next member _ => later next (List.mem_of_head? member), induction later⟩

/-- One space may stand between texts that are not empty. -/
theorem IsSingleSpaced.join (first : IsSingleSpaced front) (second : IsSingleSpaced back)
    (left : front ≠ []) (right : back ≠ []) : IsSingleSpaced (front ++ ' ' :: back) where
  head c member := first.head c (by simpa [List.head?_append_of_ne_nil front left] using member)
  last c member := by
    obtain ⟨rest, other, rfl⟩ := (List.eq_nil_or_concat back).resolve_left right
    exact second.last c (by simpa [List.getLast?_cons] using member)
  plain c member := by
    intro blank
    rcases List.mem_append.mp member with member | member
    · exact first.plain c member blank
    · rcases List.mem_cons.mp member with same | member
      · exact same
      · exact second.plain c member blank
  single := by
    refine List.isChain_append.mpr ⟨first.single, ?_, ?_⟩
    · exact List.isChain_cons.mpr ⟨fun next member _ => second.head next member, second.single⟩
    · intro c member next _ blank
      rw [first.last c member] at blank
      cases blank

theorem isSingleSpaced_intercalate {parts : List (List Char)}
    (visible : ∀ part ∈ parts, part ≠ [] ∧ ∀ c ∈ part, isBlank c = false) :
    IsSingleSpaced ([' '].intercalate parts) := by
  induction parts with
  | nil => exact isSingleSpaced_of_visible (by simp)
  | cons part others induction =>
      obtain ⟨⟨some, plain⟩, later⟩ := List.forall_mem_cons.mp visible
      have first := isSingleSpaced_of_visible plain
      cases others with
      | nil => rwa [List.intercalate_singleton]
      | cons next more =>
          have left : [' '].intercalate (next :: more) ≠ [] := by
            have nonempty := (later next List.mem_cons_self).1
            cases more <;> simp [List.intercalate_cons_cons, nonempty]
          rw [List.intercalate_cons_cons, List.append_assoc]
          exact first.join (induction later) some left

theorem isSingleSpaced_singleSpaced (text : List Char) : IsSingleSpaced (singleSpaced text) :=
  isSingleSpaced_intercalate fun _ member => mem_words member

theorem collapse_eq_self (plain : ∀ c ∈ text, isBlank c = true → c = ' ')
    (single : text.IsChain fun c next => isBlank c = true → isBlank next = false) :
    collapse text = text := by
  induction text with
  | nil => rfl
  | cons c rest induction =>
      obtain ⟨next, chain⟩ := List.isChain_cons.mp single
      have same := induction (fun other member => plain other (List.mem_cons_of_mem c member)) chain
      by_cases blank : isBlank c = true
      · have visible : rest.head?.any isBlank = false := by
          rw [Option.any_eq_false]
          simpa using fun other member => next other member blank
        rw [collapse, if_pos blank, visible, if_neg Bool.false_ne_true, same,
          plain c List.mem_cons_self blank]
      · rw [collapse, if_neg blank, same]

/-- To space a single-spaced text again changes nothing. -/
theorem IsSingleSpaced.singleSpaced_eq_self (spaced : IsSingleSpaced text) :
    singleSpaced text = text := by
  rw [singleSpaced_eq, strip_of_isTrimmed spaced.toIsTrimmed,
    collapse_eq_self spaced.plain spaced.single]

theorem IsSingleSpaced.of_prefix (spaced : IsSingleSpaced text) (part : front <+: text)
    (last : ∀ c ∈ front.getLast?, isBlank c = false) : IsSingleSpaced front where
  head c member := by
    obtain ⟨rest, rfl⟩ := part
    exact spaced.head c (List.mem_head?_append_of_mem_head? member)
  last := last
  plain c member := spaced.plain c (part.subset member)
  single := spaced.single.prefix part

theorem IsSingleSpaced.concat {c : Char} (spaced : IsSingleSpaced text)
    (visible : isBlank c = false) : IsSingleSpaced (text ++ [c]) where
  toIsTrimmed := by
    have alone : IsSingleSpaced [c] := isSingleSpaced_of_visible (by simpa using visible)
    exact spaced.toIsTrimmed.append alone.toIsTrimmed
  plain other member := by
    rcases List.mem_append.mp member with member | member
    · exact spaced.plain other member
    · intro blank
      rw [List.mem_singleton.mp member, visible] at blank
      cases blank
  single := by
    refine List.isChain_append.mpr ⟨spaced.single, .singleton c, ?_⟩
    intro other member next _ blank
    rw [spaced.last other member] at blank
    cases blank

/-! ## Leading words -/

/-- The first words of a text, one space between neighbours. -/
def leadingWords (count : Nat) (text : List Char) : List Char :=
  [' '].intercalate ((words text).take count)

theorem isSingleSpaced_leadingWords (count : Nat) (text : List Char) :
    IsSingleSpaced (leadingWords count text) :=
  isSingleSpaced_intercalate fun _ member => mem_words (List.mem_of_mem_take member)

/-- After the first words of a text comes a space or nothing. -/
theorem singleSpaced_of_leadingWords {count : Nat} (some : leadingWords count text ≠ []) :
    ∃ rest, singleSpaced text = leadingWords count text ++ rest ∧ ∀ c ∈ rest.head?, c = ' ' := by
  have parted := List.take_append_drop count (words text)
  have first : (words text).take count ≠ [] := by
    intro none
    rw [leadingWords, none] at some
    exact some rfl
  rcases eq_or_ne ((words text).drop count) [] with none | second
  · rw [none, List.append_nil] at parted
    refine ⟨[], ?_, by simp⟩
    rw [singleSpaced, leadingWords, parted, List.append_nil]
  · refine ⟨' ' :: [' '].intercalate ((words text).drop count), ?_, by simp⟩
    have joined := intercalate_append first second [' ']
    rw [parted] at joined
    rw [singleSpaced, leadingWords, joined, List.append_assoc]
    rfl

end RepoCatalog.Text
