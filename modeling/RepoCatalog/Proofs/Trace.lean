import RepoCatalog.Proofs.File.Directories
import RepoCatalog.Proofs.History

/-!
# Traces of a run

The stages of a run and the events that belong to them. An effect climbs a list of stages if all it
does belongs to one of them, in their order, and if it touches files only where they allow it.
-/

namespace RepoCatalog

/-- What a run does to the world, in the order in which it may be done. -/
inductive Stage
  | construct
  | authenticate
  | list
  | check
  | prepare
  | clear
  | write
  | delegate
  deriving DecidableEq, Repr

namespace Stage

/-- Position of a stage in a run. -/
def place : Stage → Nat
  | construct => 0
  | authenticate => 1
  | list => 2
  | check => 3
  | prepare => 4
  | clear => 5
  | write => 6
  | delegate => 7

/-- Whether a run may do the same again. -/
def repeats : Stage → Bool
  | list | check => true
  | _ => false

/-- Whether something of one stage may come before something of another. -/
def Precedes (first second : Stage) : Prop :=
  first.place < second.place ∨ first = second ∧ first.repeats = true

instance (first second : Stage) : Decidable (first.Precedes second) :=
  inferInstanceAs (Decidable (_ ∨ _))

/-- All stages, in order. -/
def all : List Stage :=
  [construct, authenticate, list, check, prepare, clear, write, delegate]

/-- The stages up to one. -/
def upTo (stage : Stage) : List Stage :=
  all.filter (·.place ≤ stage.place)

/-- The stages after one. -/
def beyond (stage : Stage) : List Stage :=
  all.filter (stage.place < ·.place)

theorem mem_all (stage : Stage) : stage ∈ all := by
  cases stage <;> decide

theorem mem_upTo {stage other : Stage} : other ∈ stage.upTo ↔ other.place ≤ stage.place := by
  simp [upTo, other.mem_all]

theorem mem_beyond {stage other : Stage} : other ∈ stage.beyond ↔ stage.place < other.place := by
  simp [beyond, other.mem_all]

/-- In a sequence that is ordered, a stage that does not repeat occurs once. -/
theorem count_le_one {stages : List Stage} (ordered : stages.Pairwise Precedes) {stage : Stage}
    (single : stage.repeats = false) : stages.count stage ≤ 1 := by
  induction stages with
  | nil => exact Nat.zero_le 1
  | cons first rest induction =>
      obtain ⟨before, ordered⟩ := List.pairwise_cons.mp ordered
      by_cases same : first = stage
      · subst same
        have absent : first ∉ rest := by
          intro member
          rcases before first member with earlier | ⟨-, repeats⟩
          · exact Nat.lt_irrefl _ earlier
          · simp [single] at repeats
        simp [List.count_cons_self, List.count_eq_zero_of_not_mem absent]
      · rw [List.count_cons_of_ne same]
        exact induction ordered

end Stage

/-- The stage that an event belongs to; records and output belong to none. -/
def Event.stage? : Event → Option Stage
  | .connected _ => some .construct
  | .authenticated => some .authenticate
  | .listed _ => some .list
  | .launched request => some (if request.quiet then .check else .delegate)
  | .preparedDirectory _ => some .prepare
  | .clearedFile _ => some .clear
  | .brokeOff _ => some .write
  | .wroteFile _ => some .write
  | .logged _ _ => none
  | .printed _ => none

/-- Stages of the events of a trace, in order. -/
def stagesOf (trace : List Event) : List Stage :=
  trace.filterMap Event.stage?

theorem stagesOf_append (first second : List Event) :
    stagesOf (first ++ second) = stagesOf first ++ stagesOf second :=
  List.filterMap_append

namespace World

/-- The requests of a world are as before if no page was listed since. -/
theorem requests_of_events {before after : World} {trace : List Event}
    (events : after.events = before.events ++ trace) (unlisted : .list ∉ stagesOf trace) :
    after.requests = before.requests := by
  rw [requests, events, List.filterMap_append, requests, List.append_right_eq_self]
  refine List.filterMap_eq_nil_iff.mpr fun event member => ?_
  cases event with
  | listed request =>
      have listed : Stage.list ∈ stagesOf trace := List.mem_filterMap.mpr ⟨_, member, rfl⟩
      exact absurd listed unlisted
  | _ => rfl

/-- Worlds between which nothing happened but reports. -/
structure Reports (before after : World) : Prop where
  /-- The server gives the same answers. -/
  server : after.server = before.server
  /-- Programs give the same replies. -/
  launcher : after.launcher = before.launcher
  /-- The environment is the same. -/
  environment : after.environment = before.environment
  /-- Records are kept by the same. -/
  recorder : after.recorder = before.recorder
  /-- Texts are written out as before. -/
  encoding : after.encoding = before.encoding
  /-- What happened belongs to no stage. -/
  events : ∃ trace, after.events = before.events ++ trace ∧ stagesOf trace = []

theorem Reports.refl (world : World) : world.Reports world :=
  ⟨rfl, rfl, rfl, rfl, rfl, [], (List.append_nil _).symm, rfl⟩

theorem Reports.trans {before middle after : World} (first : before.Reports middle)
    (second : middle.Reports after) : before.Reports after := by
  obtain ⟨early, earlyEvents, earlyStages⟩ := first.events
  obtain ⟨late, lateEvents, lateStages⟩ := second.events
  refine ⟨second.server.trans first.server, second.launcher.trans first.launcher,
    second.environment.trans first.environment, second.recorder.trans first.recorder,
    second.encoding.trans first.encoding, early ++ late, ?_, ?_⟩
  · rw [lateEvents, earlyEvents, List.append_assoc]
  · rw [stagesOf_append, earlyStages, lateStages, List.append_nil]

theorem Reports.requests {before after : World} (reported : before.Reports after) :
    after.requests = before.requests := by
  obtain ⟨trace, events, stages⟩ := reported.events
  exact requests_of_events events (by simp [stages])

theorem reports_note {event : Event} (report : event.stage? = none) (world : World) :
    world.Reports (world.note event) :=
  ⟨rfl, rfl, rfl, rfl, rfl, [event], events_note event world, by simp [stagesOf, report]⟩

theorem reports_appendLine (place : Location) (line : String) (world : World) :
    world.Reports (world.appendLine place line) := by
  rw [appendLine]
  split
  · exact ⟨rfl, rfl, rfl, rfl, rfl, [], (List.append_nil _).symm, rfl⟩
  · exact .refl world

theorem reports_deliver (record : Record) (handlers : List Handler) (world : World) :
    world.Reports (world.deliver record handlers) := by
  induction handlers generalizing world with
  | nil => exact .refl world
  | cons handler handlers induction =>
      refine Reports.trans ?_ (induction (world.emit record handler))
      rcases world.emit_cases record handler with same | ⟨line, printed⟩ | ⟨place, line, -, appended⟩
      · rw [same]
        exact .refl world
      · rw [printed]
        exact reports_note rfl world
      · rw [appended]
        exact reports_appendLine place line world

theorem reports_record (level : Level) (message : String) (world : World) :
    world.Reports (world.record level message) := by
  have noted : world.Reports (world.note (.logged level message)) := reports_note rfl world
  rw [record]
  split
  · exact noted
  · exact noted.trans (reports_deliver _ _ _)

/-- A world in which only the program changes files: its records are kept by the caller, and other
programs leave files as they are. -/
structure IsTame (world : World) : Prop where
  /-- Records are kept by the caller. -/
  recorder : world.recorder = .caller
  /-- Programs leave files as they are. -/
  launcher : ∀ earlier files environment request,
    (world.launcher.reply earlier files environment request).files = files

/-- A trace of events leads from one world to another, and accounts for what changed. -/
structure Leads (before : World) (trace : List Event) (after : World) : Prop where
  /-- The trace is what happened since. -/
  events : after.events = before.events ++ trace
  /-- Programs give the same replies. -/
  launcher : after.launcher = before.launcher
  /-- The environment is the same. -/
  environment : after.environment = before.environment
  /-- Records are kept by the same. -/
  recorder : after.recorder = before.recorder
  /-- The server gives the same answers unless pages were listed. -/
  server : .list ∉ stagesOf trace → after.server = before.server
  /-- Files are the same unless they were prepared, cleared or written. -/
  files : before.IsTame → .prepare ∉ stagesOf trace → .clear ∉ stagesOf trace →
    .write ∉ stagesOf trace → after.files = before.files
  /-- What was there stayed unless a file was cleared or written. -/
  kept : before.IsTame → .clear ∉ stagesOf trace → .write ∉ stagesOf trace →
    before.files.Extends after.files

theorem Leads.requests {before after : World} {trace : List Event} (led : before.Leads trace after)
    (unlisted : .list ∉ stagesOf trace) : after.requests = before.requests :=
  requests_of_events led.events unlisted

theorem IsTame.leads {before after : World} {trace : List Event} (tame : before.IsTame)
    (led : before.Leads trace after) : after.IsTame :=
  ⟨led.recorder.trans tame.recorder, by rw [led.launcher]; exact tame.launcher⟩

theorem Leads.refl (world : World) : world.Leads [] world :=
  { events := (List.append_nil _).symm
    launcher := rfl
    environment := rfl
    recorder := rfl
    server := fun _ => rfl
    files := fun _ _ _ _ => rfl
    kept := fun _ _ _ => .refl world.files }

theorem Leads.trans {before middle after : World} {early late : List Event}
    (one : before.Leads early middle) (two : middle.Leads late after) :
    before.Leads (early ++ late) after where
  events := by rw [two.events, one.events, List.append_assoc]
  launcher := two.launcher.trans one.launcher
  environment := two.environment.trans one.environment
  recorder := two.recorder.trans one.recorder
  server := by
    intro unlisted
    simp only [stagesOf_append, List.mem_append, not_or] at unlisted
    exact (two.server unlisted.2).trans (one.server unlisted.1)
  files := by
    intro tame unprepared uncleared unwritten
    simp only [stagesOf_append, List.mem_append, not_or] at unprepared uncleared unwritten
    exact (two.files (tame.leads one) unprepared.2 uncleared.2 unwritten.2).trans
      (one.files tame unprepared.1 uncleared.1 unwritten.1)
  kept := by
    intro tame uncleared unwritten
    simp only [stagesOf_append, List.mem_append, not_or] at uncleared unwritten
    exact (one.kept tame uncleared.1 unwritten.1).trans
      (two.kept (tame.leads one) uncleared.2 unwritten.2)

theorem leads_note (event : Event) (world : World) : world.Leads [event] (world.note event) :=
  { events := events_note event world
    launcher := rfl
    environment := rfl
    recorder := rfl
    server := fun _ => rfl
    files := fun _ _ _ _ => rfl
    kept := fun _ _ _ => .refl world.files }

/-- What happened between two worlds belongs to some stages and came in their order. -/
def Climb (stages : List Stage) (before after : World) : Prop :=
  ∃ trace, before.Leads trace after ∧ (stagesOf trace).Pairwise Stage.Precedes ∧
    stagesOf trace ⊆ stages

namespace Climb

variable {stages : List Stage} {before middle after : World}

theorem launcher (climbed : Climb stages before after) : after.launcher = before.launcher := by
  obtain ⟨trace, led, -⟩ := climbed
  exact led.launcher

theorem server (climbed : Climb stages before after) (unlisted : .list ∉ stages) :
    after.server = before.server := by
  obtain ⟨trace, led, -, among⟩ := climbed
  exact led.server fun listed => unlisted (among listed)

theorem requests (climbed : Climb stages before after) (unlisted : .list ∉ stages) :
    after.requests = before.requests := by
  obtain ⟨trace, led, -, among⟩ := climbed
  exact led.requests fun listed => unlisted (among listed)

theorem isTame (climbed : Climb stages before after) (tame : before.IsTame) : after.IsTame := by
  obtain ⟨trace, led, -⟩ := climbed
  exact tame.leads led

theorem files (climbed : Climb stages before after) (tame : before.IsTame)
    (unprepared : .prepare ∉ stages) (uncleared : .clear ∉ stages) (unwritten : .write ∉ stages) :
    after.files = before.files := by
  obtain ⟨trace, led, -, among⟩ := climbed
  exact led.files tame (fun prepared => unprepared (among prepared))
    (fun cleared => uncleared (among cleared)) fun written => unwritten (among written)

theorem extends_files (climbed : Climb stages before after) (tame : before.IsTame)
    (uncleared : .clear ∉ stages) (unwritten : .write ∉ stages) :
    before.files.Extends after.files := by
  obtain ⟨trace, led, -, among⟩ := climbed
  exact led.kept tame (fun cleared => uncleared (among cleared))
    fun written => unwritten (among written)

/-- What is read off the events of a stage is as before where that stage was not reached. -/
theorem filterMap_events {α : Type} {read : Event → Option α} {stage : Stage}
    (belongs : ∀ event value, read event = some value → event.stage? = some stage)
    (climbed : Climb stages before after) (unreached : stage ∉ stages) :
    after.events.filterMap read = before.events.filterMap read := by
  obtain ⟨trace, led, -, among⟩ := climbed
  rw [led.events, List.filterMap_append, List.append_right_eq_self]
  refine List.filterMap_eq_nil_iff.mpr fun event happened => ?_
  cases found : read event with
  | none => rfl
  | some value =>
      have reached : stage ∈ stagesOf trace :=
        List.mem_filterMap.mpr ⟨event, happened, belongs event value found⟩
      exact absurd (among reached) unreached

theorem refl (world : World) : Climb stages world world :=
  ⟨[], .refl world, .nil, List.nil_subset stages⟩

theorem mono {fewer : List Stage} (climbed : Climb fewer before after) (among : fewer ⊆ stages) :
    Climb stages before after := by
  obtain ⟨trace, led, ordered, within⟩ := climbed
  exact ⟨trace, led, ordered, List.Subset.trans within among⟩

theorem trans {early late : List Stage}
    (ordered : ∀ first ∈ early, ∀ second ∈ late, first.Precedes second)
    (one : Climb early before middle) (two : Climb late middle after) :
    Climb (early ++ late) before after := by
  obtain ⟨first, firstLed, firstOrdered, firstAmong⟩ := one
  obtain ⟨second, secondLed, secondOrdered, secondAmong⟩ := two
  refine ⟨first ++ second, firstLed.trans secondLed, ?_, ?_⟩
  · rw [stagesOf_append]
    exact List.pairwise_append.mpr ⟨firstOrdered, secondOrdered, fun stage member later inLate =>
      ordered stage (firstAmong member) later (secondAmong inLate)⟩
  · rw [stagesOf_append]
    exact List.append_subset.mpr ⟨List.Subset.trans firstAmong (List.subset_append_left _ _),
      List.Subset.trans secondAmong (List.subset_append_right _ _)⟩

end Climb

theorem climb_of_leads {event : Event} {before after : World} (led : before.Leads [event] after) :
    Climb event.stage?.toList before after := by
  refine ⟨[event], led, ?_⟩
  cases staged : event.stage? <;> simp [stagesOf, staged]

theorem climb_note (event : Event) (world : World) :
    Climb event.stage?.toList world (world.note event) :=
  climb_of_leads (leads_note event world)

/-- A record is no part of any stage; one that the caller keeps is only noted. -/
theorem climb_record (level : Level) (message : String) (world : World) :
    Climb [] world (world.record level message) := by
  have files : world.IsTame → (world.record level message).files = world.files := by
    intro tame
    rw [record, tame.recorder, note]
  obtain ⟨server, launcher, environment, recorder, -, trace, events, stages⟩ :=
    world.reports_record level message
  have led : world.Leads trace (world.record level message) :=
    { events := events
      launcher := launcher
      environment := environment
      recorder := recorder
      server := fun _ => server
      files := fun tame _ _ _ => files tame
      kept := fun tame _ _ => files tame ▸ .refl world.files }
  exact ⟨trace, led, by simp [stages]⟩

theorem climb_afterLaunch (request : Launch) (world : World) :
    Climb [if request.quiet then .check else .delegate] world (world.afterLaunch request) := by
  have launched : world.Leads [.launched request]
      { world.note (.launched request) with files := (world.reply request).files } :=
    { events := events_note (.launched request) world
      launcher := rfl
      environment := rfl
      recorder := rfl
      server := fun _ => rfl
      files := fun tame _ _ _ => tame.launcher _ _ _ _
      kept := fun tame _ _ => (tame.launcher _ _ _ _).symm ▸ .refl world.files }
  change Climb (Event.launched request).stage?.toList world (world.afterLaunch request)
  rw [afterLaunch]
  split
  · exact (climb_of_leads launched).trans (by simp [Event.stage?]) (climb_note (.printed _) _)
  · exact climb_of_leads launched

end World

namespace Effect

variable {α β : Type} {stages : List Stage}

/-- Whatever comes of it, an action climbs some stages. -/
def Climbs (stages : List Stage) (action : Effect α) : Prop :=
  ∀ world : World, World.Climb stages world (action.run world).2

theorem Climbs.of_run {action : Effect α} (climbs : Climbs stages action) {world after : World}
    {outcome : Except Failure α} (ran : action.run world = (outcome, after)) :
    World.Climb stages world after := by
  have climbed := climbs world
  rwa [ran] at climbed

theorem Climbs.mono {fewer : List Stage} {action : Effect α} (climbs : Climbs fewer action)
    (among : fewer ⊆ stages) : Climbs stages action :=
  fun world => (climbs world).mono among

theorem climbs_pure (value : α) : Climbs stages (pure value : Effect α) :=
  fun world => World.Climb.refl world

theorem climbs_throw (failure : Failure) : Climbs stages (throw failure : Effect α) :=
  fun world => World.Climb.refl world

theorem climbs_get : Climbs stages (get : Effect World) :=
  fun world => World.Climb.refl world

theorem climbs_ofExcept (outcome : Except Failure α) :
    Climbs stages (ofExcept outcome : Effect α) := by
  intro world
  rw [run_ofExcept]
  exact World.Climb.refl world

theorem climbs_log (level : Level) (message : String) : Climbs [] (log level message) :=
  fun world => World.climb_record level message world

theorem climbs_note (event : Event) : Climbs event.stage?.toList (note event) :=
  fun world => World.climb_note event world

theorem climbs_launch (request : Launch) :
    Climbs [if request.quiet then .check else .delegate] (launch request) := by
  intro world
  rw [run_launch]
  exact World.climb_afterLaunch request world

/-- An action and what follows it climb the stages of both, if those of the first come first. -/
theorem Climbs.bind {early late : List Stage} {action : Effect α} {next : α → Effect β}
    (ordered : ∀ first ∈ early, ∀ second ∈ late, first.Precedes second)
    (first : Climbs early action) (rest : ∀ value, Climbs late (next value)) :
    Climbs (early ++ late) (action >>= next) := by
  intro world
  have here := first world
  rw [run_bind]
  rcases ran : action.run world with ⟨outcome, later⟩
  rw [ran] at here
  cases outcome with
  | ok value => exact here.trans ordered (rest value later)
  | error failure => exact here.mono (List.subset_append_left early late)

/-- What does nothing of any stage may come before other things. -/
theorem Climbs.before {action : Effect α} {next : α → Effect β} (first : Climbs [] action)
    (rest : ∀ value, Climbs stages (next value)) : Climbs stages (action >>= next) :=
  first.bind (by simp) rest

/-- What does nothing of any stage may come after other things. -/
theorem Climbs.after {action : Effect α} {next : α → Effect β} (first : Climbs stages action)
    (rest : ∀ value, Climbs [] (next value)) : Climbs stages (action >>= next) := by
  simpa only [List.append_nil] using first.bind (by simp) rest

/-- A stage that repeats may come after itself. -/
theorem Climbs.again {stage : Stage} (repeats : stage.repeats = true) {action : Effect α}
    {next : α → Effect β} (first : Climbs [stage] action)
    (rest : ∀ value, Climbs [stage] (next value)) : Climbs [stage] (action >>= next) := by
  refine (first.bind ?_ rest).mono (by simp)
  intro one early other late
  obtain rfl := List.mem_singleton.mp early
  obtain rfl := List.mem_singleton.mp late
  exact .inr ⟨rfl, repeats⟩

theorem Climbs.tryCatch {action : Effect α} {handle : Failure → Effect α}
    (first : Climbs stages action) (rest : ∀ failure, Climbs [] (handle failure)) :
    Climbs stages (tryCatch action handle) := by
  intro world
  have here := first world
  rw [run_tryCatch]
  rcases ran : action.run world with ⟨outcome, later⟩
  rw [ran] at here
  cases outcome with
  | ok value => exact here
  | error failure =>
      simpa only [List.append_nil] using here.trans (by simp) (rest failure later)

theorem Climbs.reword {action : Effect α} (climbs : Climbs stages action)
    (concerned : Failure → Bool) (words : Failure → Failure) :
    Climbs stages (reword concerned words action) := by
  intro world
  rw [run_reword]
  exact climbs world

/-- A program begins with a part of itself: it fails where the part fails, and otherwise goes on to
climb some stages. -/
structure BeginsWith (late : List Stage) (part : Effect α) (program : Effect β) : Prop where
  /-- If the part fails, nothing more is done. -/
  fails : ∀ world failure reached, part.run world = (.error failure, reached) →
    program.run world = (.error failure, reached)
  /-- If the part succeeds, what is done after it belongs to the stages. -/
  climbs : ∀ world value reached, part.run world = (.ok value, reached) →
    World.Climb late reached (program.run world).2

/-- A program begins with all of itself. -/
theorem BeginsWith.refl {program : Effect α} : BeginsWith stages program program where
  fails := fun _ _ _ ran => ran
  climbs := by
    intro world value reached ran
    rw [ran]
    exact World.Climb.refl reached

theorem beginsWith_bind {part : Effect α} {next : α → Effect β}
    (rest : ∀ value, Climbs stages (next value)) : BeginsWith stages part (part >>= next) where
  fails := by
    intro world failure reached ran
    rw [run_bind, ran]
  climbs := by
    intro world value reached ran
    rw [run_bind, ran]
    exact rest value reached

theorem BeginsWith.after {γ : Type} {first : Effect γ} {part : γ → Effect α}
    {program : γ → Effect β} (begins : ∀ value, BeginsWith stages (part value) (program value)) :
    BeginsWith stages (first >>= part) (first >>= program) where
  fails := by
    intro world failure reached ran
    rw [run_bind] at ran ⊢
    rcases went : first.run world with ⟨outcome, later⟩
    rw [went] at ran
    cases outcome with
    | ok value => exact (begins value).fails later failure reached ran
    | error other =>
        cases ran
        rfl
  climbs := by
    intro world value reached ran
    rw [run_bind] at ran ⊢
    rcases went : first.run world with ⟨outcome, later⟩
    rw [went] at ran
    cases outcome with
    | ok given => exact (begins given).climbs later value reached ran
    | error other => cases ran

theorem BeginsWith.bind {γ : Type} {late : List Stage} {part : Effect α} {program : Effect β}
    {next : β → Effect γ} (begins : BeginsWith stages part program)
    (ordered : ∀ first ∈ stages, ∀ second ∈ late, first.Precedes second)
    (rest : ∀ value, Climbs late (next value)) :
    BeginsWith (stages ++ late) part (program >>= next) where
  fails := by
    intro world failure reached ran
    rw [run_bind, begins.fails world failure reached ran]
  climbs := by
    intro world value reached ran
    have here := begins.climbs world value reached ran
    rw [run_bind]
    rcases went : program.run world with ⟨outcome, later⟩
    rw [went] at here
    cases outcome with
    | ok given => exact here.trans ordered (rest given later)
    | error failure => exact here.mono (List.subset_append_left stages late)

/-- What a part gives does not matter. -/
theorem BeginsWith.discard {part : Effect α} {program : Effect β}
    (begins : BeginsWith stages part program) :
    BeginsWith stages (do let _ ← part) program where
  fails := by
    intro world failure reached ran
    refine begins.fails world failure reached ?_
    rw [run_bind] at ran
    rcases went : part.run world with ⟨outcome, later⟩
    rw [went] at ran
    cases outcome with
    | ok value => cases ran
    | error other =>
        cases ran
        rfl
  climbs := by
    intro world value reached ran
    obtain ⟨given, later, went, last⟩ := returned_bind ran
    cases last
    exact begins.climbs world given reached went

end Effect

end RepoCatalog
