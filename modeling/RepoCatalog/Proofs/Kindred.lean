import RepoCatalog.Proofs.File.Likeness
import RepoCatalog.Proofs.History
import RepoCatalog.Proofs.Pipeline.Selection

/-!
# Worlds in which the same was launched

Two worlds that differ at most in what was listed and recorded, and so in the content of log files.
Nothing that a program does with them makes a difference but through records.
-/

namespace RepoCatalog

/-- A launcher whose outcomes depend on the arguments of a launch only. If there are log files, its
quiet programs make no use of what these hold. -/
structure Launcher.IsPlain (launcher : Launcher) (logs : Location → Prop) : Prop where
  /-- The arguments determine the outcome. -/
  outcome : ∃ answer, launcher.AnswersBy answer
  /-- What quiet programs do to files makes no use of what log files hold. -/
  files : (∃ place, logs place) → ∀ earlier environment request files others,
    request.quiet = true → files.LikeBut logs others →
    (launcher.reply earlier files environment request).files.LikeBut logs
      (launcher.reply earlier others environment request).files

namespace World

/-- A place that records are appended to. -/
def IsLog (world : World) (place : Location) : Prop :=
  ∃ name level, world.recorder = .journal name ∧
    ∃ handler ∈ world.journal.reached name level, handler.outlet = .file place

theorem isLog_eq {one other : World} (journal : one.journal = other.journal)
    (recorder : one.recorder = other.recorder) : one.IsLog = other.IsLog := by
  refine funext fun place => ?_
  rw [IsLog, IsLog, journal, recorder]

theorem isLog_afterLaunch (request : Launch) (world : World) :
    (world.afterLaunch request).IsLog = world.IsLog := by
  unfold afterLaunch
  split <;> exact isLog_eq rfl rfl

/-- Worlds that differ at most in what was listed and recorded and in what is still to be listed. -/
structure Kindred (one other : World) : Prop where
  /-- Files are the same but for the content of log files. -/
  files : one.files.LikeBut one.IsLog other.files
  /-- Without log files they are the same. -/
  same : (∀ place, ¬ one.IsLog place) → one.files = other.files
  /-- The environment is the same. -/
  environment : one.environment = other.environment
  /-- Clients are set up in the same way. -/
  refusal : one.server.refusal = other.server.refusal
  /-- Clients are authenticated in the same way. -/
  rejection : one.server.rejection = other.server.rejection
  /-- Programs give the same replies. -/
  launcher : one.launcher = other.launcher
  /-- The moment is the same. -/
  clock : one.clock = other.clock
  /-- The loggers are the same. -/
  journal : one.journal = other.journal
  /-- Records are kept by the same. -/
  recorder : one.recorder = other.recorder
  /-- Texts are written out in the same way. -/
  encoding : one.encoding = other.encoding
  /-- The same was launched. -/
  launches : one.launches = other.launches

namespace Kindred

variable {one other third : World}

theorem isLog (kindred : Kindred one other) : one.IsLog = other.IsLog :=
  isLog_eq kindred.journal kindred.recorder

theorem refl (world : World) : Kindred world world :=
  ⟨.refl _, fun _ => rfl, rfl, rfl, rfl, rfl, rfl, rfl, rfl, rfl, rfl⟩

theorem symm (kindred : Kindred one other) : Kindred other one :=
  { files := kindred.isLog ▸ kindred.files.symm
    same := fun unlogged => (kindred.same (kindred.isLog ▸ unlogged)).symm
    environment := kindred.environment.symm
    refusal := kindred.refusal.symm
    rejection := kindred.rejection.symm
    launcher := kindred.launcher.symm
    clock := kindred.clock.symm
    journal := kindred.journal.symm
    recorder := kindred.recorder.symm
    encoding := kindred.encoding.symm
    launches := kindred.launches.symm }

theorem trans (first : Kindred one other) (second : Kindred other third) : Kindred one third :=
  { files := first.files.trans (first.isLog ▸ second.files)
    same := fun unlogged =>
      (first.same unlogged).trans (second.same (first.isLog ▸ unlogged))
    environment := first.environment.trans second.environment
    refusal := first.refusal.trans second.refusal
    rejection := first.rejection.trans second.rejection
    launcher := first.launcher.trans second.launcher
    clock := first.clock.trans second.clock
    journal := first.journal.trans second.journal
    recorder := first.recorder.trans second.recorder
    encoding := first.encoding.trans second.encoding
    launches := first.launches.trans second.launches }

/-- Worlds stay kindred while each stays kindred to what it was. -/
theorem congr {left right : World} (kindred : Kindred one other) (first : Kindred one left)
    (second : Kindred other right) : Kindred left right :=
  first.symm.trans (kindred.trans second)

theorem delegations (kindred : Kindred one other) : one.delegations = other.delegations := by
  rw [World.delegations, World.delegations, kindred.launches]

end Kindred

/-! ## What makes no difference -/

theorem kindred_note {event : Event} (unlaunched : event.launch? = none) (world : World) :
    world.Kindred (world.note event) :=
  { Kindred.refl world with
    launches := by
      have same := launches_of_events (events_note event world)
      simpa [unlaunched] using same.symm }

theorem kindred_appendLine {world : World} {place : Location} (log : world.IsLog place)
    (line : String) : world.Kindred (world.appendLine place line) := by
  unfold appendLine
  split
  · rename_i content executable held
    exact { Kindred.refl world with
      files := .refill log held _
      same := fun unlogged => absurd log (unlogged place) }
  · exact .refl world

theorem kindred_emit {world : World} (record : Record) {handler : Handler}
    (logs : ∀ place, handler.outlet = .file place → world.IsLog place) :
    world.Kindred (world.emit record handler) := by
  rcases world.emit_cases record handler with same | ⟨line, printed⟩ | ⟨place, line, outlet, appended⟩
  · rw [same]
    exact .refl world
  · rw [printed]
    exact kindred_note rfl world
  · rw [appended]
    exact kindred_appendLine (logs place outlet) line

theorem kindred_deliver {world : World} (record : Record) {handlers : List Handler}
    (logs : ∀ handler ∈ handlers, ∀ place, handler.outlet = .file place → world.IsLog place) :
    world.Kindred (world.deliver record handlers) := by
  induction handlers generalizing world with
  | nil => exact .refl world
  | cons handler handlers induction =>
      rw [deliver_cons]
      have first := kindred_emit record (logs handler List.mem_cons_self)
      refine first.trans (induction fun other among place outlet => ?_)
      rw [← first.isLog]
      exact logs other (List.mem_cons_of_mem handler among) place outlet

theorem kindred_record (level : Level) (message : String) (world : World) :
    world.Kindred (world.record level message) := by
  have noted : world.Kindred (world.note (.logged level message)) := kindred_note rfl world
  rw [record]
  split
  · exact noted
  · refine noted.trans (kindred_deliver _ fun handler reached place outlet => ?_)
    exact ⟨_, level, ‹_›, handler, reached, outlet⟩

theorem Kindred.launched {one other : World} (kindred : Kindred one other) (request : Launch) :
    Kindred (one.note (.launched request)) (other.note (.launched request)) :=
  { kindred with
    launches := by rw [launches_note_launched, launches_note_launched, kindred.launches] }

/-- Without log files programs give the same replies. -/
theorem Kindred.reply {one other : World} (kindred : Kindred one other)
    (unlogged : ∀ place, ¬ one.IsLog place) (request : Launch) :
    one.reply request = other.reply request := by
  rw [World.reply, World.reply, kindred.launcher, kindred.launches, kindred.environment,
    kindred.same unlogged]

/-- What a plain launcher does to kindred worlds makes no difference between them. -/
theorem Kindred.afterLaunch {one other : World} (kindred : Kindred one other)
    (plain : one.launcher.IsPlain one.IsLog) {request : Launch} (quiet : request.quiet = true) :
    Kindred (one.afterLaunch request) (other.afterLaunch request) := by
  have same (unlogged : ∀ place, ¬ one.IsLog place) :
      (one.reply request).files = (other.reply request).files := by
    rw [kindred.reply unlogged request]
  have files : (one.reply request).files.LikeBut one.IsLog (other.reply request).files := by
    by_cases logged : ∃ place, one.IsLog place
    · rw [World.reply, World.reply, ← kindred.launcher, ← kindred.launches, ← kindred.environment]
      exact plain.files logged _ _ _ _ _ quiet kindred.files
    · rw [same (not_exists.mp logged)]
      exact .refl _
  have left : Kindred { one.note (.launched request) with files := (one.reply request).files }
      { other.note (.launched request) with files := (other.reply request).files } :=
    { kindred.launched request with files := files, same := same }
  have printed : ∀ world : World, Kindred
      { world.note (.launched request) with files := (world.reply request).files }
      (world.afterLaunch request) := by
    intro world
    unfold World.afterLaunch
    split
    · exact kindred_note rfl _
    · exact .refl _
  exact left.congr (printed one) (printed other)

end World

end RepoCatalog
