import RepoCatalog.Proofs.Effect

/-!
# Contracts of effects

An effect that starts in a world of some kind leaves one of this kind, returns values of some kind
only and fails in some ways only. The contract of a program follows from those of its parts.
-/

namespace RepoCatalog.Effect

variable {α β : Type} {kept : World → Prop} {fails : Failure → Prop}

/-- What came of an effect is a value or a failure of the given kinds. -/
inductive Meets (returns : α → Prop) (fails : Failure → Prop) : Except Failure α → Prop
  | ok {value : α} (returned : returns value) : Meets returns fails (.ok value)
  | error {failure : Failure} (failed : fails failure) : Meets returns fails (.error failure)

/-- An effect stays among worlds of some kind and gives values and failures of the given kinds. -/
def Ensures (kept : World → Prop) (returns : α → Prop) (fails : Failure → Prop)
    (action : Effect α) : Prop :=
  ∀ world, kept world → kept (action.run world).2 ∧ Meets returns fails (action.run world).1

variable {returns : α → Prop} {gives : β → Prop}

theorem ensures_throw {failure : Failure} (failed : fails failure) :
    Ensures kept returns fails (throw failure) :=
  fun _ here => ⟨here, .error failed⟩

theorem Ensures.bind {action : Effect α} {next : α → Effect β}
    (first : Ensures kept returns fails action)
    (rest : ∀ value, returns value → Ensures kept gives fails (next value)) :
    Ensures kept gives fails (action >>= next) := by
  intro world here
  obtain ⟨there, meets⟩ := first world here
  rw [run_bind]
  rcases ran : action.run world with ⟨outcome, later⟩
  rw [ran] at there meets
  cases meets with
  | ok returned => exact rest _ returned later there
  | error failed => exact ⟨there, .error failed⟩

theorem Ensures.tryCatch {caught : Failure → Prop} {action : Effect α}
    {handle : Failure → Effect α} (first : Ensures kept returns caught action)
    (rest : ∀ failure, caught failure → Ensures kept returns fails (handle failure)) :
    Ensures kept returns fails (tryCatch action handle) := by
  intro world here
  obtain ⟨there, meets⟩ := first world here
  rw [run_tryCatch]
  rcases ran : action.run world with ⟨outcome, later⟩
  rw [ran] at there meets
  cases meets with
  | ok returned => exact ⟨there, .ok returned⟩
  | error failed => exact rest _ failed later there

theorem Ensures.reword {caught : Failure → Prop} {action : Effect α} {concerned : Failure → Bool}
    {words : Failure → Failure} (first : Ensures kept returns caught action)
    (reworded : ∀ failure, caught failure →
      fails (if concerned failure then words failure else failure)) :
    Ensures kept returns fails (reword concerned words action) :=
  first.tryCatch fun failure here => ensures_throw (reworded failure here)

end RepoCatalog.Effect
