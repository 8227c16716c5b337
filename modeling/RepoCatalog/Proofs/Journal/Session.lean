import Mathlib.Data.List.Basic
import RepoCatalog.Proofs.History
import RepoCatalog.Proofs.Journal.Setup
import RepoCatalog.Rehearsal

/-!
# Sessions of a journal

Loggers are set up one after another, each with records sent to it before the next one. However
they are named and wherever they write, a record goes to what the latest of them was set up with,
once, and nowhere else.
-/

namespace RepoCatalog

/-- An entry with bytes appended, if it is a file. -/
def Entry.append (bytes : List UInt8) : Entry → Entry
  | .file content executable => .file (content ++ bytes) executable
  | entry => entry

@[simp] theorem Entry.append_nil (entry : Entry) : entry.append [] = entry := by
  cases entry <;> simp [Entry.append]

theorem Entry.map_append_nil (held : Option Entry) : held.map (Entry.append []) = held := by
  cases held <;> simp

theorem Entry.append_append (first second : List UInt8) (entry : Entry) :
    (entry.append first).append second = entry.append (first ++ second) := by
  cases entry <;> simp [Entry.append]

theorem Entry.IsOpenable.append {entry : Entry} (openable : entry.IsOpenable)
    (bytes : List UInt8) : (entry.append bytes).IsOpenable := by
  cases openable with
  | file content executable => exact .file (content ++ bytes) executable
  | special isSpecial =>
      cases isSpecial with
      | device device => exact .special (.device device)
      | tool program => exact .special (.tool program)

/-! ## Sending a record -/

namespace Journal

/-- A record sent to the latest logger. -/
structure Call where
  /-- When it is sent. -/
  moment : Clock
  /-- How important it is. -/
  level : Level
  /-- What it says. -/
  message : Message

/-- A logger that was set up, with what was sent to it while it was the latest one. -/
structure Chapter where
  /-- How it was set up. -/
  options : LoggerOptions
  /-- Where its file is, if it has one. -/
  place : Option Location
  /-- The records sent to it, earliest first. -/
  calls : List Call

/-- Bytes of lines. -/
def bytesOf (lines : List String) : List UInt8 :=
  lines.flatMap fun line => Text.encodeUtf8 line.toList

theorem bytesOf_append (first second : List String) :
    bytesOf (first ++ second) = bytesOf first ++ bytesOf second :=
  List.flatMap_append

namespace Chapter

/-- Record of a call. -/
def record (chapter : Chapter) (call : Call) : Record :=
  ⟨properName chapter.options.name, call.level, call.message⟩

/-- The world after a call. -/
def send (chapter : Chapter) (call : Call) (world : World) : World :=
  { world with clock := call.moment }.send (chapter.record call)

/-- Line of a call: none below the level of the logger, and none if it cannot be formatted. -/
def line? (chapter : Chapter) (call : Call) : Option String :=
  if chapter.options.level ≤ call.level then
    (chapter.options.handler .console).line? call.moment (chapter.record call)
  else none

/-- Lines of a call that an outlet takes. -/
def linesOn (chapter : Chapter) (takes : Outlet → String → Bool) (outlet : Outlet) (call : Call) :
    List String :=
  (chapter.line? call).toList.filter (takes outlet)

/-- Lines that a call appends at a place. -/
def linesAt (chapter : Chapter) (takes : Outlet → String → Bool) (place : Location) (call : Call) :
    List String :=
  if chapter.place = some place then chapter.linesOn takes (.file place) call else []

/-- The line of a call, if there is one, is taken wherever the logger writes it. -/
def IsTaken (chapter : Chapter) (takes : Outlet → String → Bool) (call : Call) : Prop :=
  ∀ line, chapter.line? call = some line → takes .console line = true ∧
    ∀ place, chapter.place = some place → takes (.file place) line = true

/-- The logger is the one that was set up: it has its level, exactly its own handlers, and hands
nothing on. -/
structure IsSetUp (chapter : Chapter) (world : World) : Prop where
  /-- What the logger is. -/
  logger : world.journal.logger (properName chapter.options.name) =
    ⟨chapter.options.level, false, chapter.options.handlersFor chapter.place⟩
  /-- It has a file if it names one. -/
  named : chapter.place.isSome = chapter.options.namesFile

/-- What a call does: its line, if there is one, is printed once and appended once to the file of
the logger, each if it is taken there, and nothing else changes. -/
structure Writes (chapter : Chapter) (takes : Outlet → String → Bool) (call : Call)
    (before after : World) : Prop where
  /-- What is printed. -/
  events : after.events = before.events ++ (chapter.linesOn takes .console call).map .printed
  /-- What is appended. -/
  files : ∀ place, after.files.get? place =
    (before.files.get? place).map (Entry.append (bytesOf (chapter.linesAt takes place call)))
  /-- Loggers stay as they are. -/
  journal : after.journal = before.journal
  /-- Texts are written out as before. -/
  encoding : after.encoding = before.encoding

end Chapter

theorem exists_chain (name : String) : ∃ above, chain name = name :: above := by
  unfold chain
  split
  · rename_i root
    exact ⟨[], by rw [root]⟩
  · exact ⟨_, rfl⟩

/-- A logger that hands nothing on and has a level of its own reaches its handlers. -/
theorem reached_of_logger {journal : Journal} {name : String} {own : Level}
    {handlers : List Handler} (logger : journal.logger name = ⟨own, false, handlers⟩)
    (positive : 1 ≤ own) (levels : ∀ handler ∈ handlers, handler.level = own) (level : Level) :
    journal.reached name level = if own ≤ level then handlers else [] := by
  obtain ⟨above, chain⟩ := exists_chain name
  have effective : journal.effectiveLevel name = own := by
    have set : own ≠ 0 := by
      rintro rfl
      exact absurd positive (by decide)
    simp [effectiveLevel, chain, logger, set]
  have all : journal.reachedFrom (Journal.chain name) = handlers := by
    simp [chain, reachedFrom, logger]
  rw [reached, effective, all]
  by_cases enough : own ≤ level
  · have above : 0 < level := Int.lt_of_lt_of_le Int.zero_lt_one (Int.le_trans positive enough)
    simp only [above, enough, decide_true, Bool.and_self, if_true]
    exact List.filter_eq_self.mpr fun handler member => by simp [levels handler member, enough]
  · simp [enough]

end Journal

theorem World.get?_appendLine (place other : Location) (line : String) (world : World) :
    (world.appendLine place line).files.get? other =
      (world.files.get? other).map
        (Entry.append (if place = other then Text.encodeUtf8 line.toList else [])) := by
  unfold appendLine
  split
  · rename_i content executable held
    by_cases here : place = other
    · subst here
      have below : place ≠ [] := by
        rintro rfl
        cases held
      rw [held, FileTree.get?_put_self _ below, if_pos rfl]
      rfl
    · rw [FileTree.get?_put_of_ne _ (Ne.symm here), if_neg here, Entry.map_append_nil]
  · rename_i noFile
    by_cases here : place = other
    · subst here
      cases held : world.files.get? place with
      | none => rfl
      | some entry =>
          cases entry with
          | file content executable => exact absurd held (noFile content executable)
          | _ => rfl
    · rw [if_neg here, Entry.map_append_nil]

namespace Journal

/-- The world after the console handler of a logger wrote a line. -/
def shown (takes : Outlet → String → Bool) (line : String) (world : World) : World :=
  if takes .console line then world.note (.printed line) else world

/-- The world after the handlers of a logger wrote a line. -/
def Chapter.written (chapter : Chapter) (takes : Outlet → String → Bool) (line : String)
    (world : World) : World :=
  match chapter.place with
  | none => shown takes line world
  | some place =>
    if takes (.file place) line then (shown takes line world).appendLine place line
    else shown takes line world

theorem shown_cases (takes : Outlet → String → Bool) (line : String) (world : World) :
    shown takes line world =
      { world with history := (shown takes line world).history } ∧
    (shown takes line world).events =
      world.events ++ ([line].filter (takes .console)).map .printed := by
  unfold shown
  cases taken : takes .console line with
  | true => exact ⟨rfl, by simp [taken]⟩
  | false => exact ⟨rfl, by simp [taken]⟩

/-- The handlers of a logger write the same line, or none. -/
theorem Chapter.deliver_handlersFor (chapter : Chapter) (record : Record) (world : World) :
    world.deliver record (chapter.options.handlersFor chapter.place) =
      match (chapter.options.handler .console).line? world.clock record with
      | none => world
      | some line => chapter.written world.encoding.takes line world := by
  rw [LoggerOptions.handlersFor, World.deliver_cons]
  cases formatted : (chapter.options.handler .console).line? world.clock record with
  | none =>
      rw [World.emit, formatted]
      cases chapter.place with
      | none => rfl
      | some place =>
          have same : (chapter.options.handler (.file place)).line? world.clock record = none :=
            formatted
          rw [Option.map_some, Option.toList_some, World.deliver_cons, World.emit, same]
          rfl
  | some line =>
      have first : world.emit record (chapter.options.handler .console) =
          shown world.encoding.takes line world := by
        rw [World.emit, formatted]
        rfl
      rw [first]
      unfold written
      cases chapter.place with
      | none => rfl
      | some place =>
          obtain ⟨same, -⟩ := shown_cases world.encoding.takes line world
          have again : (chapter.options.handler (.file place)).line?
              (shown world.encoding.takes line world).clock record = some line := by
            rw [same]
            exact formatted
          have takes : (shown world.encoding.takes line world).encoding = world.encoding := by
            rw [same]
          dsimp only
          rw [Option.map_some, Option.toList_some, World.deliver_cons, World.emit, again, takes]
          rfl

theorem Chapter.writes_nothing {chapter : Chapter} {takes : Outlet → String → Bool} {call : Call}
    {before after : World} (none : chapter.line? call = none) (files : after.files = before.files)
    (events : after.events = before.events) (journal : after.journal = before.journal)
    (encoding : after.encoding = before.encoding) : chapter.Writes takes call before after := by
  have nothing (outlet : Outlet) : chapter.linesOn takes outlet call = [] := by
    simp [linesOn, none]
  refine ⟨by rw [events, nothing]; exact (List.append_nil _).symm, fun place => ?_, journal,
    encoding⟩
  have lines : chapter.linesAt takes place call = [] := by simp [linesAt, nothing]
  rw [files, lines]
  exact (Entry.map_append_nil _).symm

theorem Chapter.writes_written {chapter : Chapter} {takes : Outlet → String → Bool} {call : Call}
    {line : String} (some : chapter.line? call = some line) (world : World) :
    chapter.Writes takes call world (chapter.written takes line world) := by
  obtain ⟨same, events⟩ := shown_cases takes line world
  have lines (outlet : Outlet) :
      chapter.linesOn takes outlet call = [line].filter (takes outlet) := by
    rw [linesOn, some]
    rfl
  unfold written
  cases placed : chapter.place with
  | none =>
      refine ⟨by rw [events, lines], fun place => ?_, by rw [same], by rw [same]⟩
      have nothing : chapter.linesAt takes place call = [] := by simp [linesAt, placed]
      rw [same, nothing]
      exact (Entry.map_append_nil _).symm
  | some place =>
      have bytes (other : Location) : bytesOf (chapter.linesAt takes other call) =
          if place = other ∧ takes (.file place) line = true then Text.encodeUtf8 line.toList
          else [] := by
        by_cases here : place = other
        · subst here
          cases taken : takes (.file place) line <;> simp [linesAt, placed, lines, taken, bytesOf]
        · simp [linesAt, placed, here, bytesOf]
      dsimp only
      by_cases taken : takes (.file place) line = true
      · rw [if_pos taken]
        refine ⟨by rw [World.events_appendLine, events, lines], fun other => ?_,
          by rw [World.journal_appendLine, same], by rw [World.encoding_appendLine, same]⟩
        rw [World.get?_appendLine, bytes, same]
        simp [taken]
      · rw [if_neg taken]
        refine ⟨by rw [events, lines], fun other => ?_, by rw [same], by rw [same]⟩
        rw [bytes, if_neg fun both => taken both.2, Entry.map_append_nil, same]

theorem Chapter.Writes.at_moment {chapter : Chapter} {takes : Outlet → String → Bool} {call : Call}
    {world after : World} {moment : Clock}
    (writes : chapter.Writes takes call { world with clock := moment } after) :
    chapter.Writes takes call world after :=
  ⟨writes.events, writes.files, writes.journal, writes.encoding⟩

/-- A call at the logger that was set up last writes where that logger writes. -/
theorem Chapter.IsSetUp.writes {chapter : Chapter} {world : World}
    (isSetUp : chapter.IsSetUp world) (positive : 1 ≤ chapter.options.level) (call : Call) :
    chapter.Writes world.encoding.takes call world (chapter.send call world) := by
  have reached := reached_of_logger isSetUp.logger positive
    (chapter.options.level_of_mem_handlersFor chapter.place) call.level
  have sent : chapter.send call world =
      World.deliver (chapter.record call) (if chapter.options.level ≤ call.level then
        chapter.options.handlersFor chapter.place else []) { world with clock := call.moment } :=
    congrArg (World.deliver (chapter.record call) · { world with clock := call.moment }) reached
  rw [sent]
  by_cases enough : chapter.options.level ≤ call.level
  · have line : chapter.line? call =
        (chapter.options.handler .console).line? call.moment (chapter.record call) :=
      if_pos enough
    rw [if_pos enough, deliver_handlersFor, ← line]
    cases written : chapter.line? call with
    | none => exact writes_nothing written rfl rfl rfl rfl
    | some text => exact (writes_written written { world with clock := call.moment }).at_moment
  · rw [if_neg enough]
    exact writes_nothing (if_neg enough) rfl rfl rfl rfl

/-! ## Sessions -/

/-- A chapter with one more call. -/
def Chapter.add (chapter : Chapter) (call : Call) : Chapter :=
  { chapter with calls := chapter.calls ++ [call] }

/-- Loggers that are set up one after another in a world, latest first, each with the records sent
to it while it was the latest, and the world they leave. -/
inductive Session (start : World) : List Chapter → World → Prop
  | start : Session start [] start
  | build {chapters : List Chapter} {world later : World} {name : String}
      (session : Session start chapters world) (options : LoggerOptions)
      (ran : (Journal.build options).run world = (.ok name, later)) :
      Session start
        (⟨options, options.place? world.environment world.files later.files, []⟩ :: chapters) later
  | log {chapter : Chapter} {earlier : List Chapter} {world : World}
      (session : Session start (chapter :: earlier) world) (call : Call) :
      Session start (chapter.add call :: earlier) (chapter.send call world)

/-- Everything is taken everywhere. -/
def everything (_ : Outlet) (_ : String) : Bool := true

/-- Lines of the records that were sent to a logger, as far as an outlet takes them. -/
def Chapter.lines (chapter : Chapter) (takes : Outlet → String → Bool) (outlet : Outlet) :
    List String :=
  chapter.calls.flatMap (chapter.linesOn takes outlet)

/-- Lines of a session that are printed, earliest first. -/
def linesOf (takes : Outlet → String → Bool) : List Chapter → List String
  | [] => []
  | chapter :: earlier => linesOf takes earlier ++ chapter.lines takes .console

/-- Lines of a session that are appended to the file at a place, earliest first: those sent to a
logger with its file there. -/
def linesTo (takes : Outlet → String → Bool) (place : Location) : List Chapter → List String
  | [] => []
  | chapter :: earlier =>
    linesTo takes place earlier ++
      if chapter.place = some place then chapter.lines takes (.file place) else []

/-- What a session leaves behind. -/
structure Chronicle (start : World) (takes : Outlet → String → Bool) (chapters : List Chapter)
    (world : World) : Prop where
  /-- The latest logger is as it was set up. -/
  latest : ∀ chapter ∈ chapters.head?, chapter.IsSetUp world
  /-- Each line that the console takes was printed once. -/
  printed : world.events = start.events ++ (linesOf takes chapters).map .printed
  /-- What was there still is, with the lines appended that were sent to it. -/
  appended : ∀ place entry, start.files.get? place = some entry →
    world.files.get? place = some (entry.append (bytesOf (linesTo takes place chapters)))
  /-- What is new is a log file that holds just the lines that were sent to it, or a directory. -/
  new : ∀ place entry, start.files.get? place = none → world.files.get? place = some entry →
    entry = if ∃ chapter ∈ chapters, chapter.place = some place then
      .file (bytesOf (linesTo takes place chapters)) false else .directory
  /-- Texts are written out as at the start. -/
  encoding : world.encoding = start.encoding
  /-- All log files are there. -/
  held : ∀ chapter ∈ chapters, ∀ place, chapter.place = some place →
    ∃ entry, world.files.get? place = some entry ∧ entry.IsOpenable

/-! ### One step -/

variable {takes : Outlet → String → Bool}

theorem linesTo_of_unnamed {place : Location} {chapters : List Chapter}
    (unnamed : ∀ chapter ∈ chapters, chapter.place ≠ some place) :
    linesTo takes place chapters = [] := by
  induction chapters with
  | nil => rfl
  | cons chapter earlier induction =>
      rw [linesTo, if_neg (unnamed chapter List.mem_cons_self),
        induction fun other member => unnamed other (List.mem_cons_of_mem chapter member)]
      rfl

/-- Setting a logger up adds no lines. -/
theorem linesTo_build (options : LoggerOptions) (at? : Option Location) (chapters : List Chapter)
    (place : Location) :
    linesTo takes place (⟨options, at?, []⟩ :: chapters) = linesTo takes place chapters := by
  simp [linesTo, Chapter.lines]

theorem Chapter.lines_add (chapter : Chapter) (call : Call) (outlet : Outlet) :
    (chapter.add call).lines takes outlet =
      chapter.lines takes outlet ++ chapter.linesOn takes outlet call := by
  have whole : (chapter.add call).lines takes outlet =
      (chapter.calls ++ [call]).flatMap (chapter.linesOn takes outlet) := rfl
  rw [whole, List.flatMap_append, lines, List.flatMap_singleton]

theorem linesTo_log (chapter : Chapter) (earlier : List Chapter) (call : Call) (place : Location) :
    linesTo takes place (chapter.add call :: earlier) =
      linesTo takes place (chapter :: earlier) ++ chapter.linesAt takes place call := by
  have same : (chapter.add call).place = chapter.place := rfl
  rw [linesTo, linesTo, same, Chapter.linesAt, Chapter.lines_add]
  split <;> simp

theorem Chronicle.build {start world later : World} {chapters : List Chapter}
    {options : LoggerOptions} {at? : Option Location}
    (chronicle : Chronicle start takes chapters world) (setsUp : options.SetsUp world later at?) :
    Chronicle start takes (⟨options, at?, []⟩ :: chapters) later where
  latest := by
    rintro _ ⟨⟩
    exact ⟨setsUp.logger, setsUp.named⟩
  printed := by
    rw [setsUp.events, chronicle.printed]
    simp [linesOf, Chapter.lines]
  appended place entry there := by
    rw [linesTo_build]
    exact setsUp.opens.more.holds _ _ (chronicle.appended place entry there)
  new place entry free there := by
    rw [linesTo_build]
    cases before : world.files.get? place with
    | none =>
        have unnamed : ∀ chapter ∈ chapters, chapter.place ≠ some place := by
          intro chapter member named
          obtain ⟨_, held, -⟩ := chronicle.held chapter member place named
          rw [before] at held
          cases held
        rw [setsUp.opens.new place entry before there, linesTo_of_unnamed unnamed]
        have only : (∃ chapter ∈ (⟨options, at?, []⟩ :: chapters : List Chapter),
            chapter.place = some place) ↔ at? = some place := by
          simpa using fun chapter member named => absurd named (unnamed chapter member)
        simp only [only]
        rfl
    | some old =>
        have kept := setsUp.opens.more.holds place old before
        rw [there] at kept
        obtain rfl := Option.some.inj kept
        have whole := chronicle.new place entry free before
        by_cases named : ∃ chapter ∈ chapters, chapter.place = some place
        · obtain ⟨chapter, member, placed⟩ := named
          rw [if_pos ⟨chapter, List.mem_cons_of_mem _ member, placed⟩]
          rwa [if_pos ⟨chapter, member, placed⟩] at whole
        · rw [if_neg named] at whole
          rw [if_neg, whole]
          rintro ⟨chapter, member, placed⟩
          rcases List.mem_cons.mp member with rfl | member
          · obtain ⟨_, held, openable⟩ := setsUp.opens.held place placed
            rw [there, whole] at held
            obtain rfl := Option.some.inj held
            exact Entry.not_isOpenable_directory openable
          · exact named ⟨chapter, member, placed⟩
  encoding := setsUp.encoding.trans chronicle.encoding
  held chapter member place placed := by
    rcases List.mem_cons.mp member with rfl | member
    · exact setsUp.opens.held place placed
    · obtain ⟨entry, held, openable⟩ := chronicle.held chapter member place placed
      exact ⟨entry, setsUp.opens.more.holds place entry held, openable⟩

theorem Chronicle.log {start world later : World} {chapter : Chapter} {earlier : List Chapter}
    {call : Call} (chronicle : Chronicle start takes (chapter :: earlier) world)
    (writes : chapter.Writes takes call world later) :
    Chronicle start takes (chapter.add call :: earlier) later where
  latest := by
    rintro _ ⟨⟩
    have isSetUp := chronicle.latest chapter rfl
    exact ⟨writes.journal ▸ isSetUp.logger, isSetUp.named⟩
  printed := by
    rw [writes.events, chronicle.printed]
    simp [linesOf, Chapter.lines_add]
  appended place entry there := by
    rw [writes.files, chronicle.appended place entry there, linesTo_log, bytesOf_append,
      ← Entry.append_append]
    rfl
  new place entry free there := by
    have same : (∃ other ∈ chapter.add call :: earlier, other.place = some place) ↔
        ∃ other ∈ chapter :: earlier, other.place = some place := by
      simp [Chapter.add]
    rw [writes.files] at there
    obtain ⟨old, before, rfl⟩ := Option.map_eq_some_iff.mp there
    rw [chronicle.new place old free before, linesTo_log, bytesOf_append]
    simp only [same]
    split <;> rfl
  encoding := writes.encoding.trans chronicle.encoding
  held other member place placed := by
    have before : ∃ entry, world.files.get? place = some entry ∧ entry.IsOpenable := by
      rcases List.mem_cons.mp member with rfl | member
      · exact chronicle.held chapter List.mem_cons_self place placed
      · exact chronicle.held other (List.mem_cons_of_mem chapter member) place placed
    obtain ⟨entry, held, openable⟩ := before
    exact ⟨_, by rw [writes.files, held]; rfl, openable.append _⟩

/-! ### Lines that are taken -/

theorem Chapter.IsTaken.linesOn {chapter : Chapter} {call : Call}
    (isTaken : chapter.IsTaken takes call) :
    chapter.linesOn takes .console call = chapter.linesOn everything .console call ∧
      ∀ place, chapter.place = some place →
        chapter.linesOn takes (.file place) call = chapter.linesOn everything (.file place) call := by
  have kept {outlet : Outlet} (taken : ∀ line, chapter.line? call = some line →
      takes outlet line = true) :
      chapter.linesOn takes outlet call = chapter.linesOn everything outlet call := by
    refine List.filter_congr fun line member => ?_
    rw [taken line (Option.mem_toList.mp member), everything]
  exact ⟨kept fun line some => (isTaken line some).1,
    fun place placed => kept fun line some => (isTaken line some).2 place placed⟩

end Journal

end RepoCatalog
