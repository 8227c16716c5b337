import RepoCatalog.World

/-!
# Running effects

What an effect that is built from smaller ones gives, and what it does to the world.
-/

namespace RepoCatalog

namespace World

/-- Reply of the launcher to the next launch. -/
def reply (world : World) (request : Launch) : Reply :=
  world.launcher.reply world.launches world.files world.environment request

/-- The world after a launch: its files are as the program left them, its output is printed. -/
def afterLaunch (request : Launch) (world : World) : World :=
  let left := { world.note (.launched request) with files := (world.reply request).files }
  if (world.reply request).output ≠ "" then left.note (.printed (world.reply request).output)
  else left

end World

namespace Effect

variable {α β : Type}

private theorem state_bind {α β : Type} (first : StateM World α) (rest : α → StateM World β)
    (world : World) : (first >>= rest) world = rest (first world).1 (first world).2 := rfl

theorem ext {first second : Effect α} (same : ∀ world, first.run world = second.run world) :
    first = second :=
  funext same

theorem run_pure (value : α) (world : World) :
    (pure value : Effect α).run world = (.ok value, world) := rfl

theorem run_throw (failure : Failure) (world : World) :
    (throw failure : Effect α).run world = (.error failure, world) := rfl

theorem run_get (world : World) : (get : Effect World).run world = (.ok world, world) := rfl

theorem run_modify (change : World → World) (world : World) :
    (modify change : Effect Unit).run world = (.ok (), change world) := rfl

theorem run_log (level : Level) (message : String) (world : World) :
    (log level message).run world = (.ok (), world.record level message) := rfl

theorem run_note (event : Event) (world : World) :
    (note event).run world = (.ok (), world.note event) := rfl

theorem run_ofExcept (outcome : Except Failure α) (world : World) :
    (ofExcept outcome : Effect α).run world = (outcome, world) := by
  cases outcome <;> rfl

theorem run_bind (action : Effect α) (next : α → Effect β) (world : World) :
    (action >>= next).run world =
      match action.run world with
      | (.ok value, later) => (next value).run later
      | (.error failure, later) => (.error failure, later) := by
  rw [ExceptT.run_bind, state_bind]
  rcases action.run world with ⟨outcome, later⟩
  cases outcome <;> rfl

/-- What leaves the world as it is may follow anything. -/
theorem world_bind {action : Effect α} {next : α → Effect β}
    (idle : ∀ value world, ((next value).run world).2 = world) (world : World) :
    ((action >>= next).run world).2 = (action.run world).2 := by
  rw [run_bind]
  rcases action.run world with ⟨failure | value, later⟩
  · rfl
  · exact idle value later

/-- What returns was returned by its last part, after its first part returned. -/
theorem returned_bind {action : Effect α} {next : α → Effect β} {world after : World} {result : β}
    (ran : (action >>= next).run world = (.ok result, after)) :
    ∃ value middle,
      action.run world = (.ok value, middle) ∧ (next value).run middle = (.ok result, after) := by
  rw [run_bind] at ran
  rcases first : action.run world with ⟨outcome, middle⟩
  rw [first] at ran
  cases outcome with
  | ok value => exact ⟨value, middle, rfl, ran⟩
  | error failure => cases ran

theorem returned_ofExcept {outcome : Except Failure α} {world after : World} {result : α}
    (ran : (ofExcept outcome : Effect α).run world = (.ok result, after)) :
    outcome = .ok result ∧ world = after := by
  rw [run_ofExcept] at ran
  exact Prod.mk.inj ran

theorem run_tryCatch (action : Effect α) (handle : Failure → Effect α) (world : World) :
    (tryCatch action handle).run world =
      match action.run world with
      | (.ok value, later) => (.ok value, later)
      | (.error failure, later) => (handle failure).run later := by
  rw [ExceptT.run_tryCatch, state_bind]
  rcases action.run world with ⟨outcome, later⟩
  cases outcome <;> rfl

/-- Rewording changes nothing but the failure that is reported. -/
theorem run_reword (concerned : Failure → Bool) (words : Failure → Failure) (action : Effect α)
    (world : World) :
    (reword concerned words action).run world =
      ((action.run world).1.mapError fun failure =>
        if concerned failure then words failure else failure, (action.run world).2) := by
  rw [reword, run_tryCatch]
  rcases action.run world with ⟨outcome, later⟩
  cases outcome <;> rfl

/-- Two steps are reworded one after the other. -/
theorem reword_bind (concerned : Failure → Bool) (words : Failure → Failure) (action : Effect α)
    (next : α → Effect β) :
    reword concerned words (action >>= next) =
      reword concerned words action >>= fun value => reword concerned words (next value) := by
  refine ext fun world => ?_
  rw [run_reword, run_bind, run_bind, run_reword]
  rcases action.run world with ⟨outcome, later⟩
  cases outcome with
  | ok value => exact (run_reword concerned words (next value) later).symm
  | error failure => rfl

theorem run_launch (request : Launch) (world : World) :
    (launch request).run world = ((world.reply request).outcome, world.afterLaunch request) := by
  simp only [launch, run_bind, run_get, run_note, run_modify]
  by_cases silent : (world.reply request).output = ""
  · simp only [World.reply] at silent
    simp only [silent, World.afterLaunch, World.reply, ne_eq, not_true_eq_false, if_false]
    exact run_ofExcept _ _
  · simp only [World.reply] at silent
    simp only [silent, World.afterLaunch, World.reply, ne_eq, not_false_eq_true, if_true, run_bind,
      run_note]
    exact run_ofExcept _ _

end Effect

end RepoCatalog
