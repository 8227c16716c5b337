import Mathlib.Data.List.TakeDrop
import RepoCatalog.CommandLine.Parse

/-!
# Words of a command line

Options in full form: a long spelling with its value attached by an equals sign, or the spelling of
an option that takes none. Such a word is taken for exactly the option it spells.
-/

namespace RepoCatalog.CommandLine

/-- Spellings of an option that start with two hyphens. -/
def Setting.longSpellings (setting : Setting) : List String :=
  setting.spellings.filter fun spelling => ['-', '-'].isPrefixOf spelling.toList

/-- An option in full form. -/
inductive Word
  | setting (setting : Setting) (spelling value : String)
      (spelled : spelling ∈ setting.longSpellings) (proper : value ≠ "--")
  | switch (switch : Switch) (spelling : String) (spelled : spelling ∈ switch.spellings)
  | toggle (toggle : Toggle) (value : Bool)

namespace Word

/-- How a word is written. -/
def text : Word → String
  | setting _ spelling value _ _ => spelling ++ "=" ++ value
  | switch _ spelling _ => spelling
  | toggle option value => if value then option.positive else option.negative

/-- What a word is taken for. -/
def token : Word → Token
  | setting option spelling value _ _ => .option (.setting option) spelling (some value)
  | switch option spelling _ => .option (.switch option) spelling none
  | toggle option value =>
    .option (.toggle option) (if value then option.positive else option.negative) none

end Word

/-! ## Spellings -/

theorem mem_choices (choice : Choice) : choice ∈ choices := by
  cases choice with
  | help => decide
  | setting option => cases option <;> decide
  | switch option => cases option <;> decide
  | toggle option => cases option <;> decide

/-- No two options share a spelling. -/
theorem lookup_of_mem_choices :
    ∀ choice ∈ choices, ∀ spelling ∈ choice.spellings,
      spelledChoices.lookup spelling = some choice := by
  decide +kernel

theorem lookup_of_spelled {choice : Choice} {spelling : String}
    (spelled : spelling ∈ choice.spellings) : spelledChoices.lookup spelling = some choice :=
  lookup_of_mem_choices choice (mem_choices choice) spelling spelled

/-- Spellings start with a hyphen, go on after it, and contain no equals sign. -/
structure IsSpelling (chars : List Char) : Prop where
  /-- It starts with a hyphen, and does not consist of it. -/
  hyphened : chars.head? = some '-' ∧ chars.tail ≠ []
  /-- It ends before any equals sign. -/
  unequal : '=' ∉ chars
  /-- It is not the separator. -/
  proper : chars ≠ ['-', '-']

instance (chars : List Char) : Decidable (IsSpelling chars) :=
  decidable_of_iff
    ((chars.head? = some '-' ∧ chars.tail ≠ []) ∧ '=' ∉ chars ∧ chars ≠ ['-', '-'])
    ⟨fun ⟨one, two, three⟩ => ⟨one, two, three⟩, fun ⟨one, two, three⟩ => ⟨one, two, three⟩⟩

theorem isSpelling_of_mem_choices :
    ∀ choice ∈ choices, ∀ spelling ∈ choice.spellings, IsSpelling spelling.toList := by
  decide +kernel

theorem isSpelling_of_spelled {choice : Choice} {spelling : String}
    (spelled : spelling ∈ choice.spellings) : IsSpelling spelling.toList :=
  isSpelling_of_mem_choices choice (mem_choices choice) spelling spelled

theorem spelled_of_long {setting : Setting} {spelling : String}
    (long : spelling ∈ setting.longSpellings) :
    spelling ∈ (Choice.setting setting).spellings :=
  (List.mem_filter.mp long).1

theorem lookup_of_equals {text : String} (unequal : '=' ∈ text.toList) :
    spelledChoices.lookup text = none := by
  refine List.lookup_eq_none_iff.mpr fun pair member => ?_
  obtain ⟨choice, among, spelled⟩ := List.mem_flatMap.mp member
  obtain ⟨spelling, inChoice, rfl⟩ := List.mem_map.mp spelled
  have differs : text ≠ spelling := by
    rintro rfl
    exact (isSpelling_of_mem_choices choice among text inChoice).unequal unequal
  simpa using differs

/-- A text is cut at its first equals sign. -/
theorem splitEquals_append {before after : List Char} (unequal : '=' ∉ before) :
    splitEquals (before ++ '=' :: after) = some (String.ofList before, String.ofList after) := by
  have taken : ∀ c ∈ before, (c != '=') = true := fun c member =>
    bne_iff_ne.mpr (ne_of_mem_of_not_mem member unequal)
  have cut : (before ++ '=' :: after).span (· != '=') = (before, '=' :: after) := by
    rw [List.span_eq_takeWhile_dropWhile, List.takeWhile_append_of_pos taken,
      List.dropWhile_append_of_pos taken]
    simp
  rw [splitEquals, cut]

/-! ## What words are taken for -/

theorem classifyOne_of_lookup {text : String} {choice : Choice}
    (spelled : text ∈ choice.spellings) :
    classifyOne text = .ok (.option choice text none) := by
  obtain ⟨⟨hyphen, longer⟩, -, -⟩ := isSpelling_of_spelled spelled
  rcases chars : text.toList with _ | ⟨first, _ | ⟨second, rest⟩⟩
  · simp [chars] at hyphen
  · simp [chars] at longer
  · obtain rfl : first = '-' := by simpa [chars] using hyphen
    simp only [classifyOne, chars, lookup_of_spelled spelled]

theorem classifyOne_attached {spelling : String} {choice : Choice}
    (spelled : spelling ∈ choice.spellings) (value : String) :
    classifyOne (spelling ++ "=" ++ value) = .ok (.option choice spelling (some value)) := by
  obtain ⟨⟨hyphen, longer⟩, unequal, -⟩ := isSpelling_of_spelled spelled
  have chars : (spelling ++ "=" ++ value).toList = spelling.toList ++ '=' :: value.toList := by
    simp
  have unlisted : spelledChoices.lookup (spelling ++ "=" ++ value) = none :=
    lookup_of_equals (by simp [chars])
  have cut : splitEquals (spelling.toList ++ '=' :: value.toList) = some (spelling, value) := by
    rw [splitEquals_append unequal, String.ofList_toList, String.ofList_toList]
  rcases shape : spelling.toList with _ | ⟨first, _ | ⟨second, rest⟩⟩
  · simp [shape] at hyphen
  · simp [shape] at longer
  · obtain rfl : first = '-' := by simpa [shape] using hyphen
    rw [shape] at chars cut
    simp only [List.cons_append] at chars cut
    simp only [classifyOne, chars, unlisted, cut, Option.bind_some, lookup_of_spelled spelled,
      Option.map_some]

theorem Toggle.spelled (toggle : Toggle) (value : Bool) :
    (if value then toggle.positive else toggle.negative) ∈ (Choice.toggle toggle).spellings := by
  cases value <;> simp [Choice.spellings, Toggle.spellings]

namespace Word

theorem classifyOne_text (word : Word) : classifyOne word.text = .ok word.token := by
  cases word with
  | setting option spelling value spelled proper =>
      exact classifyOne_attached (spelled_of_long spelled) value
  | switch option spelling spelled =>
      have listed : spelling ∈ (Choice.switch option).spellings := spelled
      exact classifyOne_of_lookup listed
  | toggle option value => exact classifyOne_of_lookup (option.spelled value)

/-- No word is the separator. -/
theorem text_ne (word : Word) : word.text ≠ "--" := by
  intro separator
  have chars : word.text.toList = ['-', '-'] := by
    rw [separator]
    rfl
  cases word with
  | setting option spelling value spelled proper =>
      have equals : '=' ∈ (spelling ++ "=" ++ value).toList := by simp
      rw [text] at chars
      rw [chars] at equals
      simp at equals
  | switch option spelling spelled =>
      have listed : spelling ∈ (Choice.switch option).spellings := spelled
      exact (isSpelling_of_spelled listed).proper chars
  | toggle option value => exact (isSpelling_of_spelled (option.spelled value)).proper chars

end Word

/-- Words are taken for what they spell, whatever their values look like. -/
theorem classify_words (words : List Word) :
    classify (words.map Word.text) = .ok (words.map Word.token) := by
  induction words with
  | nil => rfl
  | cons word words induction =>
      simp only [List.map_cons, classify, word.text_ne, if_false, word.classifyOne_text, induction]
      rfl

end RepoCatalog.CommandLine
