import RepoCatalog.Proofs.Effect

/-!
# Pairs of effects

Two effects side by side, each in a world of its own. What the worlds have in common is a relation
that a pair keeps, whatever comes of the effects.
-/

namespace RepoCatalog.Effect

variable {α β : Type} {alike parted : World → World → Prop}

/-- Two effects that ended with the same result or the same failure, in worlds that are alike. -/
structure Concur (alike : World → World → Prop) (first second : Except Failure α × World) :
    Prop where
  /-- They ended in the same way. -/
  outcome : first.1 = second.1
  /-- The worlds are alike. -/
  worlds : alike first.2 second.2

/-- From worlds that are alike, two effects end in the same way and leave worlds of which another
relation holds. -/
def Parts (alike parted : World → World → Prop) (first second : Effect α) : Prop :=
  ∀ one other, alike one other → Concur parted (first.run one) (second.run other)

/-- From worlds that are alike, two effects end in the same way and leave worlds that are alike. -/
def Paired (alike : World → World → Prop) (first second : Effect α) : Prop :=
  Parts alike alike first second

theorem paired_ofExcept (outcome : Except Failure α) :
    Paired alike (ofExcept outcome) (ofExcept outcome) := by
  intro one other related
  rw [run_ofExcept, run_ofExcept]
  exact ⟨rfl, related⟩

theorem paired_pure (value : α) : Paired alike (pure value) (pure value) :=
  fun _ _ related => ⟨rfl, related⟩

theorem paired_throw (failure : Failure) :
    Paired alike (throw failure : Effect α) (throw failure) :=
  fun _ _ related => ⟨rfl, related⟩

/-- Effects concur if their first parts do, and the rest does wherever these end with a result. -/
theorem Concur.bind_of {first second : Effect α} {next follow : α → Effect β} {one other : World}
    (weaker : ∀ later after, alike later after → parted later after)
    (begun : Concur alike (first.run one) (second.run other))
    (rest : ∀ value later after, first.run one = (.ok value, later) →
      second.run other = (.ok value, after) → alike later after →
      Concur parted ((next value).run later) ((follow value).run after)) :
    Concur parted ((first >>= next).run one) ((second >>= follow).run other) := by
  obtain ⟨outcome, worlds⟩ := begun
  rw [run_bind, run_bind]
  rcases ran : first.run one with ⟨firstOutcome, later⟩
  rcases went : second.run other with ⟨secondOutcome, after⟩
  rw [ran, went] at outcome worlds
  obtain rfl : firstOutcome = secondOutcome := outcome
  cases firstOutcome with
  | ok value => exact rest value later after ran went worlds
  | error failure => exact ⟨rfl, weaker later after worlds⟩

theorem Concur.bind {first second : Effect α} {next follow : α → Effect β} {one other : World}
    (begun : Concur alike (first.run one) (second.run other))
    (rest : ∀ value later after, first.run one = (.ok value, later) →
      second.run other = (.ok value, after) → alike later after →
      Concur alike ((next value).run later) ((follow value).run after)) :
    Concur alike ((first >>= next).run one) ((second >>= follow).run other) :=
  begun.bind_of (fun _ _ related => related) rest

theorem Paired.bind {first second : Effect α} {next follow : α → Effect β}
    (begun : Paired alike first second) (rest : ∀ value, Paired alike (next value) (follow value)) :
    Paired alike (first >>= next) (second >>= follow) :=
  fun one other related => (begun one other related).bind
    fun value later after _ _ worlds => rest value later after worlds

/-- Effects part late if their first parts keep the worlds alike. -/
theorem Paired.parts {first second : Effect α} {next follow : α → Effect β}
    (begun : Paired alike first second)
    (weaker : ∀ later after, alike later after → parted later after)
    (rest : ∀ value, Parts alike parted (next value) (follow value)) :
    Parts alike parted (first >>= next) (second >>= follow) :=
  fun one other related => (begun one other related).bind_of weaker
    fun value later after _ _ worlds => rest value later after worlds

/-- Effects that part stay parted by what comes after them. -/
theorem Parts.after {first second : Effect α} {next follow : α → Effect β}
    (begun : Parts alike parted first second)
    (rest : ∀ value, Paired parted (next value) (follow value)) :
    Parts alike parted (first >>= next) (second >>= follow) :=
  fun one other related => (begun one other related).bind
    fun value later after _ _ worlds => rest value later after worlds

/-- What is made of the present world may make use of what worlds that are alike share. -/
theorem parts_get {next follow : World → Effect β}
    (rest : ∀ one other, alike one other → Parts alike parted (next one) (follow other)) :
    Parts alike parted (get >>= next) (get >>= follow) := by
  intro one other related
  rw [run_bind, run_bind]
  exact rest one other related one other related

theorem paired_get {next follow : World → Effect β}
    (rest : ∀ one other, alike one other → Paired alike (next one) (follow other)) :
    Paired alike (get >>= next) (get >>= follow) :=
  parts_get rest

theorem paired_modify {change : World → World}
    (kept : ∀ one other, alike one other → alike (change one) (change other)) :
    Paired alike (modify change : Effect Unit) (modify change) :=
  fun one other related => ⟨rfl, kept one other related⟩

theorem Parts.tryCatch {first second : Effect α} {handle : Failure → Effect α}
    (begun : Parts alike parted first second)
    (rest : ∀ failure, Paired parted (handle failure) (handle failure)) :
    Parts alike parted (tryCatch first handle) (tryCatch second handle) := by
  intro one other related
  obtain ⟨outcome, worlds⟩ := begun one other related
  rw [run_tryCatch, run_tryCatch]
  rcases ran : first.run one with ⟨firstOutcome, later⟩
  rcases went : second.run other with ⟨secondOutcome, after⟩
  rw [ran, went] at outcome worlds
  obtain rfl : firstOutcome = secondOutcome := outcome
  cases firstOutcome with
  | ok value => exact ⟨rfl, worlds⟩
  | error failure => exact rest failure later after worlds

theorem Paired.tryCatch {first second : Effect α} {handle : Failure → Effect α}
    (begun : Paired alike first second)
    (rest : ∀ failure, Paired alike (handle failure) (handle failure)) :
    Paired alike (tryCatch first handle) (tryCatch second handle) :=
  Parts.tryCatch begun rest

theorem Parts.reword {first second : Effect α} (begun : Parts alike parted first second)
    (concerned : Failure → Bool) (words : Failure → Failure) :
    Parts alike parted (reword concerned words first) (reword concerned words second) :=
  begun.tryCatch fun _ => paired_throw _

theorem Paired.reword {first second : Effect α} (begun : Paired alike first second)
    (concerned : Failure → Bool) (words : Failure → Failure) :
    Paired alike (reword concerned words first) (reword concerned words second) :=
  Parts.reword begun concerned words

end RepoCatalog.Effect
