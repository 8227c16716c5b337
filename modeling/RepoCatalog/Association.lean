/-!
# Associations

Lists that give values to keys. Assigning keeps a key in its place, so each key occurs once.
-/

namespace RepoCatalog

variable {Key Value : Type} [DecidableEq Key]

/-- An association with one key assigned: in its old place if it occurs, else at the end. -/
def assign (key : Key) (value : Value) : List (Key × Value) → List (Key × Value)
  | [] => [(key, value)]
  | (other, old) :: rest =>
    if other = key then (key, value) :: rest else (other, old) :: assign key value rest

/-- Of two values assigned to a key the second one counts. -/
theorem assign_assign (key : Key) (value later : Value) (entries : List (Key × Value)) :
    assign key later (assign key value entries) = assign key later entries := by
  induction entries with
  | nil => simp [assign]
  | cons entry rest induction =>
      obtain ⟨other, old⟩ := entry
      by_cases same : other = key
      · simp [assign, same]
      · simp [assign, same, induction]

variable [BEq Key] [LawfulBEq Key]

theorem lookup_assign_self (key : Key) (value : Value) (entries : List (Key × Value)) :
    (assign key value entries).lookup key = some value := by
  induction entries with
  | nil => simp [assign]
  | cons entry rest induction =>
      obtain ⟨other, old⟩ := entry
      by_cases same : other = key
      · simp [assign, same]
      · have differs : (key == other) = false := by simp [Ne.symm same]
        simp [assign, same, List.lookup_cons, differs, induction]

theorem lookup_assign_of_ne {key other : Key} (differs : other ≠ key) (value : Value)
    (entries : List (Key × Value)) :
    (assign key value entries).lookup other = entries.lookup other := by
  induction entries with
  | nil =>
      have apart : (other == key) = false := by simp [differs]
      simp [assign, List.lookup_cons, apart]
  | cons entry rest induction =>
      obtain ⟨first, old⟩ := entry
      by_cases same : first = key
      · have apart : (other == key) = false := by simp [differs]
        simp [assign, same, List.lookup_cons, apart]
      · simp only [assign, same, if_false, List.lookup_cons, induction]

end RepoCatalog
