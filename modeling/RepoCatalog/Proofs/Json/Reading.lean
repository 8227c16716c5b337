import RepoCatalog.Proofs.Json.Lexemes

/-!
# Reading what the grammar allows

The reader gives every text of the grammar its meaning, whatever follows a value that does not
continue it.
-/

namespace RepoCatalog.Json

open Grammar

/-! ## Parts of a value -/

theorem readValue_blanks {blanks : List Char} (inside : Blanks blanks) (fuel : Nat)
    (text : List Char) : readValue fuel (blanks ++ text) = readValue fuel text := by
  cases fuel with
  | zero => rfl
  | succ fuel => simp only [readValue, skipBlanks_append inside]

theorem readItems_blanks {blanks : List Char} (inside : Blanks blanks) (fuel : Nat)
    (text : List Char) : readItems fuel (blanks ++ text) = readItems fuel text := by
  cases fuel with
  | zero => rfl
  | succ fuel => simp only [readItems, readValue_blanks inside]

theorem readMembers_blanks {blanks : List Char} (inside : Blanks blanks) (fuel : Nat)
    (text : List Char) : readMembers fuel (blanks ++ text) = readMembers fuel text := by
  cases fuel with
  | zero => rfl
  | succ fuel => simp only [readMembers, skipBlanks_append inside]

/-- Items start with a character that neither is blank nor closes the array. -/
theorem readValue_of_items {c : Char} (solid : ¬ IsBlank c) (goes : c ≠ ']') (fuel : Nat)
    {blanks : List Char} (inside : Blanks blanks) (text : List Char) :
    readValue (fuel + 1) ('[' :: (blanks ++ c :: text)) =
      (readItems fuel (blanks ++ c :: text)).map fun (items, rest) => (array items, rest) := by
  rw [readItems_blanks inside, readValue, skipBlanks_cons (by decide)]
  simp only [skipBlanks_append inside, skipBlanks_cons solid]
  split
  · rename_i same
    exact absurd (List.cons.inj same).1 goes
  · rfl

theorem readValue_of_members (fuel : Nat) {blanks : List Char} (inside : Blanks blanks)
    (text : List Char) :
    readValue (fuel + 1) ('\x7b' :: (blanks ++ '\x22' :: text)) =
      (readMembers fuel (blanks ++ '\x22' :: text)).map fun (members, rest) =>
        (object (mergeMembers members), rest) := by
  rw [readMembers_blanks inside, readValue, skipBlanks_cons (by decide)]
  have quoted := skipBlanks_cons (show ¬ IsBlank '\x22' by decide) text
  simp only [skipBlanks_append inside, quoted]
  rfl

theorem readValue_of_number {c : Char} (starts : IsDigit c ∨ c = '-') (fuel : Nat)
    (text : List Char) : readValue (fuel + 1) (c :: text) = readNumber (c :: text) := by
  have solid : ¬ IsBlank c := by
    rintro (rfl | rfl | rfl | rfl) <;> exact absurd starts (by decide)
  rw [readValue, skipBlanks_cons solid]
  split
  case h_7 => rfl
  all_goals
    rename_i same
    rw [(List.cons.inj same).1] at starts
    exact absurd starts (by decide)

/-- A value starts with a character that neither is blank nor closes an array. -/
theorem head_of_value {text : List Char} {value : Json} (written : Value text value) :
    ∃ c rest, text = c :: rest ∧ ¬ IsBlank c ∧ c ≠ ']' := by
  cases written with
  | number written =>
      obtain ⟨c, rest, rfl, starts⟩ := head_of_numeral written
      refine ⟨c, rest, rfl, ?_, ?_⟩
      · rintro (rfl | rfl | rfl | rfl) <;> exact absurd starts (by decide)
      · rintro rfl
        exact absurd starts (by decide)
  | null | yes | no | string | emptyArray | array | emptyObject | object =>
      exact ⟨_, _, rfl, by decide, by decide⟩

theorem endsNumber_append {blanks : List Char} (inside : Blanks blanks) {text : List Char}
    (ends : EndsNumber text) : EndsNumber (blanks ++ text) := by
  cases blanks with
  | nil => exact ends
  | cons c blanks =>
      intro first here
      cases here
      rcases inside c List.mem_cons_self with rfl | rfl | rfl | rfl <;> decide

theorem assign_of_absent {name : String} {value : Json} {members : List (String × Json)}
    (absent : name ∉ members.map Prod.fst) :
    assign name value members = members ++ [(name, value)] := by
  induction members with
  | nil => rfl
  | cons member members induction =>
      obtain ⟨other, old⟩ := member
      rw [List.map_cons, List.mem_cons, not_or] at absent
      have differs : ¬ other = name := fun same => absent.1 same.symm
      rw [assign, if_neg differs, induction absent.2, List.cons_append]

/-- Nothing is merged when the names differ. -/
theorem mergeMembers_of_distinct {members : List (String × Json)}
    (distinct : (members.map Prod.fst).Nodup) : mergeMembers members = members := by
  have folds : ∀ before : List (String × Json), ((before ++ members).map Prod.fst).Nodup →
      members.foldl (fun merged member => assign member.1 member.2 merged) before =
        before ++ members := by
    clear distinct
    induction members with
    | nil => exact fun before _ => (List.append_nil before).symm
    | cons member members induction =>
        intro before distinct
        have absent : member.1 ∉ before.map Prod.fst := by
          rw [List.map_append, List.map_cons] at distinct
          exact fun member => (List.nodup_append.mp distinct).2.2 _ member _ List.mem_cons_self rfl
        rw [List.append_cons] at distinct ⊢
        rw [List.foldl_cons, assign_of_absent absent]
        exact induction _ distinct
  exact folds [] distinct

/-! ## Items and members -/

section Parts

variable {fuel : Nat} {text later rest after : List Char} {value : Json}

theorem readItems_last (blanksAfter : Blanks after)
    (first : readValue fuel text = some (value, after ++ ']' :: rest)) :
    readItems (fuel + 1) text = some ([value], rest) := by
  have closed := skipBlanks_cons (show ¬ IsBlank ']' by decide) rest
  simp only [readItems, first, skipBlanks_append blanksAfter, closed]

theorem readItems_next {items : List Json} (blanksAfter : Blanks after)
    (first : readValue fuel text = some (value, after ++ ',' :: later))
    (others : readItems fuel later = some (items, rest)) :
    readItems (fuel + 1) text = some (value :: items, rest) := by
  have comma := skipBlanks_cons (show ¬ IsBlank ',' by decide) later
  simp only [readItems, first, skipBlanks_append blanksAfter, comma, others, Option.map_some]

variable {name meant between : List Char}

theorem readMembers_last (named : Characters name meant) (blanksBetween : Blanks between)
    (blanksAfter : Blanks after)
    (first : readValue fuel text = some (value, after ++ '\x7d' :: rest)) :
    readMembers (fuel + 1) ('\x22' :: (name ++ '\x22' :: (between ++ ':' :: text))) =
      some ([(String.ofList meant, value)], rest) := by
  have quote := skipBlanks_cons (show ¬ IsBlank '\x22' by decide)
  have colon := skipBlanks_cons (show ¬ IsBlank ':' by decide)
  have closed := skipBlanks_cons (show ¬ IsBlank '\x7d' by decide)
  simp only [readMembers, quote, readString_append [] named, skipBlanks_append blanksBetween, colon,
    first, skipBlanks_append blanksAfter, closed, List.reverse_nil, List.nil_append]

theorem readMembers_next {members : List (String × Json)} (named : Characters name meant)
    (blanksBetween : Blanks between) (blanksAfter : Blanks after)
    (first : readValue fuel text = some (value, after ++ ',' :: later))
    (others : readMembers fuel later = some (members, rest)) :
    readMembers (fuel + 1) ('\x22' :: (name ++ '\x22' :: (between ++ ':' :: text))) =
      some ((String.ofList meant, value) :: members, rest) := by
  have quote := skipBlanks_cons (show ¬ IsBlank '\x22' by decide)
  have colon := skipBlanks_cons (show ¬ IsBlank ':' by decide)
  have comma := skipBlanks_cons (show ¬ IsBlank ',' by decide)
  simp only [readMembers, quote, readString_append [] named, skipBlanks_append blanksBetween, colon,
    first, skipBlanks_append blanksAfter, comma, others, List.reverse_nil, List.nil_append,
    Option.map_some]

end Parts

/-! ## Whole values -/

/-- Items start with blanks and a character that does not close the array. -/
theorem head_of_items {text : List Char} {items : List Json} (written : Items text items) :
    ∃ blanks c rest, text = blanks ++ c :: rest ∧ Blanks blanks ∧ ¬ IsBlank c ∧ c ≠ ']' := by
  cases written with
  | @last before text after _ blanksBefore written _ =>
      obtain ⟨c, rest, rfl, solid, goes⟩ := head_of_value written
      exact ⟨before, c, rest ++ after, by simp, blanksBefore, solid, goes⟩
  | @next before text after others _ _ blanksBefore written _ _ =>
      obtain ⟨c, rest, rfl, solid, goes⟩ := head_of_value written
      exact ⟨before, c, rest ++ (after ++ ',' :: others), by simp, blanksBefore, solid, goes⟩

theorem head_of_members {text : List Char} {members : List (String × Json)}
    (written : Members text members) :
    ∃ blanks rest, text = blanks ++ '\x22' :: rest ∧ Blanks blanks := by
  cases written with
  | @last before name _ between gap text after _ blanksBefore =>
      exact ⟨before, name ++ '\x22' :: (between ++ ':' :: (gap ++ (text ++ after))), by simp,
        blanksBefore⟩
  | @next before name _ between gap text after others _ _ blanksBefore =>
      exact ⟨before, name ++ '\x22' :: (between ++ ':' :: (gap ++ (text ++ (after ++
        ',' :: others)))), by simp, blanksBefore⟩

theorem endsNumber_cons (c : Char) (ends : ¬ IsDigit c ∧ c ≠ '.' ∧ c ≠ 'e' ∧ c ≠ 'E')
    (text : List Char) : EndsNumber (c :: text) := by
  intro first here
  cases here
  exact ends

/-- Whether fuel suffices for the values no longer than it. -/
def ReadsValues (fuel : Nat) : Prop :=
  ∀ ⦃text rest : List Char⦄ ⦃value : Json⦄, Value text value → text.length ≤ fuel →
    EndsNumber rest → readValue fuel (text ++ rest) = some (value, rest)

/-- Whether fuel suffices for the items shorter than it. -/
def ReadsItems (fuel : Nat) : Prop :=
  ∀ ⦃text : List Char⦄ ⦃items : List Json⦄, Items text items → text.length < fuel →
    ∀ rest, readItems fuel (text ++ ']' :: rest) = some (items, rest)

/-- Whether fuel suffices for the members shorter than it. -/
def ReadsMembers (fuel : Nat) : Prop :=
  ∀ ⦃text : List Char⦄ ⦃members : List (String × Json)⦄, Members text members →
    text.length < fuel → ∀ rest, readMembers fuel (text ++ '\x7d' :: rest) = some (members, rest)

theorem readsValues_succ {fuel : Nat} (readsItems : ReadsItems fuel)
    (readsMembers : ReadsMembers fuel) : ReadsValues (fuel + 1) := by
  intro text rest value written enough ends
  cases written with
  | null | yes | no => rfl
  | number numeral =>
      obtain ⟨c, later, rfl, starts⟩ := head_of_numeral numeral
      rw [List.cons_append, readValue_of_number starts, ← List.cons_append]
      exact readNumber_of_numeral numeral ends
  | string characters =>
      simp [readValue, skipBlanks_cons (show ¬ IsBlank '\x22' by decide),
        readString_append [] characters]
  | emptyArray inside =>
      simp [readValue, skipBlanks_cons (show ¬ IsBlank '[' by decide),
        skipBlanks_append inside, skipBlanks_cons (show ¬ IsBlank ']' by decide)]
  | emptyObject inside =>
      simp [readValue, skipBlanks_cons (show ¬ IsBlank '\x7b' by decide),
        skipBlanks_append inside, skipBlanks_cons (show ¬ IsBlank '\x7d' by decide)]
  | @array text items listed =>
      have shorter : text.length < fuel := by
        simp only [List.length_append, List.length_cons, List.length_nil] at enough
        omega
      have found := readsItems listed shorter rest
      obtain ⟨blanks, c, later, rfl, inside, solid, goes⟩ := head_of_items listed
      have opened := readValue_of_items solid goes fuel inside (later ++ ']' :: rest)
      simp only [List.append_assoc, List.cons_append, List.nil_append] at found opened ⊢
      rw [opened, found, Option.map_some]
  | @object text members named distinct =>
      have shorter : text.length < fuel := by
        simp only [List.length_append, List.length_cons, List.length_nil] at enough
        omega
      have found := readsMembers named shorter rest
      obtain ⟨blanks, later, rfl, inside⟩ := head_of_members named
      have opened := readValue_of_members fuel inside (later ++ '\x7d' :: rest)
      simp only [List.append_assoc, List.cons_append, List.nil_append] at found opened ⊢
      rw [opened, found, Option.map_some, mergeMembers_of_distinct distinct]

theorem readsItems_succ {fuel : Nat} (readsValues : ReadsValues fuel)
    (readsItems : ReadsItems fuel) : ReadsItems (fuel + 1) := by
  intro text items written enough rest
  cases written with
  | @last before text after item blanksBefore written blanksAfter =>
      simp only [List.length_append] at enough
      have first := readsValues written (by omega)
        (endsNumber_append blanksAfter (endsNumber_cons ']' (by decide) rest))
      simp only [List.append_assoc, readItems_blanks blanksBefore]
      exact readItems_last blanksAfter first
  | @next before text after later item items blanksBefore written blanksAfter others =>
      simp only [List.length_append, List.length_cons] at enough
      have first := readsValues written (by omega)
        (endsNumber_append blanksAfter (endsNumber_cons ',' (by decide) (later ++ ']' :: rest)))
      simp only [List.append_assoc, List.cons_append, readItems_blanks blanksBefore]
      exact readItems_next blanksAfter first (readsItems others (by omega) rest)

theorem readsMembers_succ {fuel : Nat} (readsValues : ReadsValues fuel)
    (readsMembers : ReadsMembers fuel) : ReadsMembers (fuel + 1) := by
  intro text members written enough rest
  cases written with
  | @last before name meant between gap text after value blanksBefore named blanksBetween blanksGap
      written blanksAfter =>
      simp only [List.length_append, List.length_cons] at enough
      have first := readsValues written (by omega)
        (endsNumber_append blanksAfter (endsNumber_cons '\x7d' (by decide) rest))
      rw [← readValue_blanks blanksGap] at first
      simp only [List.append_assoc, List.cons_append, readMembers_blanks blanksBefore]
      exact readMembers_last named blanksBetween blanksAfter first
  | @next before name meant between gap text after later value members blanksBefore named
      blanksBetween blanksGap written blanksAfter others =>
      simp only [List.length_append, List.length_cons] at enough
      have first := readsValues written (by omega)
        (endsNumber_append blanksAfter (endsNumber_cons ',' (by decide) (later ++ '\x7d' :: rest)))
      rw [← readValue_blanks blanksGap] at first
      simp only [List.append_assoc, List.cons_append, readMembers_blanks blanksBefore]
      exact readMembers_next named blanksBetween blanksAfter first
        (readsMembers others (by omega) rest)

theorem reads_all (fuel : Nat) : ReadsValues fuel ∧ ReadsItems fuel ∧ ReadsMembers fuel := by
  induction fuel with
  | zero =>
      refine ⟨fun text rest value written enough => ?_, fun _ _ _ enough => ?_,
        fun _ _ _ enough => ?_⟩
      · obtain ⟨c, later, rfl, -⟩ := head_of_value written
        exact absurd enough (Nat.not_succ_le_zero _)
      · exact absurd enough (Nat.not_lt_zero _)
      · exact absurd enough (Nat.not_lt_zero _)
  | succ fuel induction =>
      obtain ⟨values, items, members⟩ := induction
      exact ⟨readsValues_succ items members, readsItems_succ values items,
        readsMembers_succ values members⟩

/-- A whole text of the grammar is read as what it means. -/
theorem read?_of_document {text : List Char} {value : Json} (written : Document text value) :
    read? text = some value := by
  obtain @⟨before, text, after, value, blanksBefore, written, blanksAfter⟩ := written
  have ends : EndsNumber after := by
    have nothing : EndsNumber [] := fun c first => by cases first
    simpa using endsNumber_append blanksAfter nothing
  have found := (reads_all ((before ++ text ++ after).length + 1)).1 written
    (by simp only [List.length_append]; omega) ends
  have finished : skipBlanks after = [] := by
    simpa [skipBlanks] using skipBlanks_append blanksAfter []
  rw [read?, List.append_assoc, readValue_blanks blanksBefore, ← List.append_assoc, found]
  simp [finished]

end RepoCatalog.Json
