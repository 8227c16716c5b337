import RepoCatalog.Proofs.Effect

/-!
# What a world remembers

Launches and records after each thing that a program does. Handlers print lines and append to files;
they neither launch nor record.
-/

namespace RepoCatalog

namespace Event

/-- The launch that an event is, if it is one. -/
def launch? : Event → Option Launch
  | launched request => some request
  | _ => none

/-- The record that an event is, if it is one. -/
def record? : Event → Option (Level × String)
  | logged level message => some (level, message)
  | _ => none

end Event

namespace World

/-- Launches whose output is not thrown away. -/
def delegations (world : World) : List Launch :=
  world.launches.filter (!·.quiet)

/-! ## One more event -/

theorem launches_eq (world : World) : world.launches = world.events.filterMap Event.launch? := by
  refine congrArg (List.filterMap · world.events) (funext fun event => ?_)
  cases event <;> rfl

theorem records_eq (world : World) : world.records = world.events.filterMap Event.record? := by
  refine congrArg (List.filterMap · world.events) (funext fun event => ?_)
  cases event <;> rfl

theorem launches_of_events {before after : World} {trace : List Event}
    (events : after.events = before.events ++ trace) :
    after.launches = before.launches ++ trace.filterMap Event.launch? := by
  rw [launches_eq, launches_eq, events, List.filterMap_append]

theorem records_of_events {before after : World} {trace : List Event}
    (events : after.events = before.events ++ trace) :
    after.records = before.records ++ trace.filterMap Event.record? := by
  rw [records_eq, records_eq, events, List.filterMap_append]

theorem launches_note_launched (request : Launch) (world : World) :
    (world.note (.launched request)).launches = world.launches ++ [request] :=
  launches_of_events (events_note _ world)

theorem records_note_launched (request : Launch) (world : World) :
    (world.note (.launched request)).records = world.records :=
  (records_of_events (events_note _ world)).trans (List.append_nil _)

theorem launches_note_printed (text : String) (world : World) :
    (world.note (.printed text)).launches = world.launches :=
  (launches_of_events (events_note _ world)).trans (List.append_nil _)

theorem records_note_printed (text : String) (world : World) :
    (world.note (.printed text)).records = world.records :=
  (records_of_events (events_note _ world)).trans (List.append_nil _)

/-! ## Records -/

theorem events_appendLine (place : Location) (line : String) (world : World) :
    (world.appendLine place line).events = world.events := by
  unfold appendLine
  split <;> rfl

theorem journal_appendLine (place : Location) (line : String) (world : World) :
    (world.appendLine place line).journal = world.journal := by
  unfold appendLine
  split <;> rfl

theorem encoding_appendLine (place : Location) (line : String) (world : World) :
    (world.appendLine place line).encoding = world.encoding := by
  unfold appendLine
  split <;> rfl

/-- A handler writes nothing, prints a line, or appends one to its file. -/
theorem emit_cases (record : Record) (handler : Handler) (world : World) :
    world.emit record handler = world ∨
      (∃ line, world.emit record handler = world.note (.printed line)) ∨
      ∃ place line, handler.outlet = .file place ∧
        world.emit record handler = world.appendLine place line := by
  unfold emit
  cases handler.line? world.clock record with
  | none => exact .inl rfl
  | some line =>
      dsimp only
      split
      · cases outlet : handler.outlet with
        | console => exact .inr (.inl ⟨line, rfl⟩)
        | file place => exact .inr (.inr ⟨place, line, rfl, rfl⟩)
      · exact .inl rfl

theorem deliver_cons (record : Record) (handler : Handler) (handlers : List Handler)
    (world : World) :
    world.deliver record (handler :: handlers) =
      (world.emit record handler).deliver record handlers := rfl

/-- Handlers do nothing but print lines, as far as a world remembers. -/
theorem events_deliver (record : Record) (handlers : List Handler) (world : World) :
    ∃ lines : List String,
      (world.deliver record handlers).events = world.events ++ lines.map .printed := by
  induction handlers generalizing world with
  | nil => exact ⟨[], (List.append_nil _).symm⟩
  | cons handler handlers induction =>
      rw [deliver_cons]
      obtain ⟨lines, events⟩ := induction (world.emit record handler)
      rcases world.emit_cases record handler with same | ⟨line, printed⟩ | ⟨place, line, -, appended⟩
      · rw [same] at events ⊢
        exact ⟨lines, events⟩
      · refine ⟨line :: lines, events.trans ?_⟩
        rw [printed, events_note, List.append_assoc]
        rfl
      · exact ⟨lines, events.trans (by rw [appended, events_appendLine])⟩

theorem events_record (level : Level) (message : String) (world : World) :
    ∃ lines : List String, (world.record level message).events =
      world.events ++ .logged level message :: lines.map .printed := by
  have noted : (world.note (.logged level message)).events =
      world.events ++ [.logged level message] := events_note _ world
  rw [record]
  cases world.recorder with
  | caller => exact ⟨[], noted⟩
  | journal name =>
      obtain ⟨lines, events⟩ := events_deliver ⟨name, level, .plain message⟩
        ((world.note (.logged level message)).journal.reached name level)
        (world.note (.logged level message))
      refine ⟨lines, events.trans ?_⟩
      rw [noted, List.append_assoc]
      rfl

theorem launches_record (level : Level) (message : String) (world : World) :
    (world.record level message).launches = world.launches := by
  obtain ⟨lines, events⟩ := events_record level message world
  have nothing : (lines.map Event.printed).filterMap Event.launch? = [] := by
    simp [Event.launch?]
  rw [launches_of_events events, List.filterMap_cons_none rfl, nothing, List.append_nil]

theorem records_record (level : Level) (message : String) (world : World) :
    (world.record level message).records = world.records ++ [(level, message)] := by
  obtain ⟨lines, events⟩ := events_record level message world
  have nothing : (lines.map Event.printed).filterMap Event.record? = [] := by
    simp [Event.record?]
  have first : Event.record? (.logged level message) = some (level, message) := rfl
  rw [records_of_events events, List.filterMap_cons_some first, nothing]

/-! ## Launches -/

theorem launches_afterLaunch (request : Launch) (world : World) :
    (world.afterLaunch request).launches = world.launches ++ [request] := by
  unfold afterLaunch
  split
  · exact (launches_note_printed _ _).trans (launches_note_launched request world)
  · exact launches_note_launched request world

theorem records_afterLaunch (request : Launch) (world : World) :
    (world.afterLaunch request).records = world.records := by
  unfold afterLaunch
  split
  · exact (records_note_printed _ _).trans (records_note_launched request world)
  · exact records_note_launched request world

theorem files_afterLaunch (request : Launch) (world : World) :
    (world.afterLaunch request).files = (world.reply request).files := by
  unfold afterLaunch
  split <;> rfl

theorem launcher_afterLaunch (request : Launch) (world : World) :
    (world.afterLaunch request).launcher = world.launcher := by
  unfold afterLaunch
  split <;> rfl

end World

end RepoCatalog
