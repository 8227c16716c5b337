import Mathlib.Data.List.Forall2
import RepoCatalog.Pipeline
import RepoCatalog.Proofs.History
import RepoCatalog.Proofs.Pairing

/-!
# Worlds that differ in a token

Two worlds in which the same happened, except that clients were set up with one token or another and
that delegates found one or another in their environment.
-/

namespace RepoCatalog

/-- Launches that differ at most in the token that the delegate finds in its environment. -/
inductive Launch.Twins (first second : String) : Launch → Launch → Prop
  | same (request : Launch) : Twins first second request request
  | delegate (arguments : List (Given String)) (environment : Environment) :
      Twins first second ⟨arguments, some (assign tokenVariable first environment), false⟩
        ⟨arguments, some (assign tokenVariable second environment), false⟩

/-- Events that differ at most in the token of a client or in that of a delegate. -/
inductive Event.Twins (first second : String) : Event → Event → Prop
  | same (event : Event) : Twins first second event event
  | connected (address : String) (timeout : Option (Given Int)) (verifies : Bool)
      (proxies : Option Proxies) :
      Twins first second (.connected ⟨address, some first, timeout, verifies, proxies⟩)
        (.connected ⟨address, some second, timeout, verifies, proxies⟩)
  | launched {request response : Launch} (twins : Launch.Twins first second request response) :
      Twins first second (.launched request) (.launched response)

/-- Worlds that are equal but for a token in what happened, and whose programs do not tell one token
from the other. -/
structure World.Twins (first second : String) (one other : World) : Prop where
  /-- Files are the same. -/
  files : one.files = other.files
  /-- The environment is the same. -/
  environment : one.environment = other.environment
  /-- The server gives the same answers. -/
  server : one.server = other.server
  /-- The moment is the same. -/
  clock : one.clock = other.clock
  /-- The loggers are the same. -/
  journal : one.journal = other.journal
  /-- Records are kept by the same. -/
  recorder : one.recorder = other.recorder
  /-- Programs give the same replies. -/
  launcher : ∀ earlier others files environment request response,
    List.Forall₂ (Launch.Twins first second) earlier others →
    Launch.Twins first second request response →
    one.launcher.reply earlier files environment request =
      other.launcher.reply others files environment response
  /-- Texts are written out in the same way. -/
  encoding : one.encoding = other.encoding
  /-- The same happened but for the token. -/
  history : List.Forall₂ (Event.Twins first second) one.history other.history

namespace World.Twins

variable {first second : String} {one other : World}

/-- A world differs from itself in nothing, if its programs do not tell the tokens apart. -/
theorem refl (world : World)
    (blind : ∀ earlier others files environment request response,
      List.Forall₂ (Launch.Twins first second) earlier others →
      Launch.Twins first second request response →
      world.launcher.reply earlier files environment request =
        world.launcher.reply others files environment response) :
    Twins first second world world :=
  { files := rfl
    environment := rfl
    server := rfl
    clock := rfl
    journal := rfl
    recorder := rfl
    launcher := blind
    encoding := rfl
    history := List.forall₂_same.mpr fun event _ => .same event }

/-! ## What happened -/

theorem events (twins : Twins first second one other) :
    List.Forall₂ (Event.Twins first second) one.events other.events :=
  List.rel_reverse twins.history

theorem launches (twins : Twins first second one other) :
    List.Forall₂ (Launch.Twins first second) one.launches other.launches := by
  have launched : ∀ event response, Event.Twins first second event response →
      Option.Rel (Launch.Twins first second) event.launch? response.launch? := by
    intro event response alike
    cases alike with
    | same event =>
        cases event with
        | launched request => exact .some (.same request)
        | _ => exact .none
    | connected => exact .none
    | launched twins => exact .some twins
  rw [launches_eq, launches_eq]
  exact List.rel_filterMap launched twins.events

/-- What is seen of events without seeing tokens is the same. -/
theorem filterMap_events {Seen : Type} {see : Event → Option Seen}
    (blind : ∀ event response, Event.Twins first second event response →
      see event = see response) (twins : Twins first second one other) :
    one.events.filterMap see = other.events.filterMap see := by
  have seen : ∀ event response, Event.Twins first second event response →
      Option.Rel Eq (see event) (see response) := by
    intro event response alike
    rw [blind event response alike]
    cases see response with
    | none => exact .none
    | some _ => exact .some rfl
  rw [← List.forall₂_eq_eq_eq]
  exact List.rel_filterMap seen twins.events

theorem records (twins : Twins first second one other) : one.records = other.records :=
  twins.filterMap_events fun _ _ alike => by cases alike <;> rfl

theorem requests (twins : Twins first second one other) : one.requests = other.requests :=
  twins.filterMap_events fun _ _ alike => by cases alike <;> rfl

theorem output (twins : Twins first second one other) : one.output = other.output :=
  congrArg String.join (twins.filterMap_events fun _ _ alike => by cases alike <;> rfl)

/-! ## What may happen -/

theorem note {event response : Event} (alike : Event.Twins first second event response)
    (twins : Twins first second one other) :
    Twins first second (one.note event) (other.note response) :=
  { twins with history := .cons alike twins.history }

theorem withFiles (files : FileTree) (twins : Twins first second one other) :
    Twins first second { one with files := files } { other with files := files } :=
  { twins with files := rfl }

theorem withJournal (journal : Journal) (twins : Twins first second one other) :
    Twins first second { one with journal := journal } { other with journal := journal } :=
  { twins with journal := rfl }

theorem withServer (server : Server) (twins : Twins first second one other) :
    Twins first second { one with server := server } { other with server := server } :=
  { twins with server := rfl }

theorem appendLine (place : Location) (line : String) (twins : Twins first second one other) :
    Twins first second (one.appendLine place line) (other.appendLine place line) := by
  unfold World.appendLine
  rw [← twins.files]
  split
  · exact twins.withFiles _
  · exact twins

theorem emit (record : Record) (handler : Handler) (twins : Twins first second one other) :
    Twins first second (one.emit record handler) (other.emit record handler) := by
  unfold World.emit
  rw [← twins.clock, ← twins.encoding]
  split
  · exact twins
  · split
    · split
      · exact twins.note (.same _)
      · exact twins.appendLine _ _
    · exact twins

theorem deliver (record : Record) (handlers : List Handler)
    (twins : Twins first second one other) :
    Twins first second (one.deliver record handlers) (other.deliver record handlers) := by
  induction handlers generalizing one other with
  | nil => exact twins
  | cons handler handlers induction =>
      rw [deliver_cons, deliver_cons]
      exact induction (twins.emit record handler)

theorem record (level : Level) (message : String) (twins : Twins first second one other) :
    Twins first second (one.record level message) (other.record level message) := by
  have noted := twins.note (.same (.logged level message))
  unfold World.record
  rw [← twins.recorder]
  split
  · exact noted
  · rw [World.send, World.send, ← noted.journal]
    exact noted.deliver _ _

theorem reply {request response : Launch} (alike : Launch.Twins first second request response)
    (twins : Twins first second one other) : one.reply request = other.reply response := by
  rw [World.reply, World.reply, ← twins.files, ← twins.environment]
  exact twins.launcher _ _ _ _ _ _ twins.launches alike

theorem afterLaunch {request response : Launch}
    (alike : Launch.Twins first second request response) (twins : Twins first second one other) :
    Twins first second (one.afterLaunch request) (other.afterLaunch response) := by
  unfold World.afterLaunch
  rw [← twins.reply alike]
  have launched := (twins.note (.launched alike)).withFiles (one.reply request).files
  split
  · exact launched.note (.same _)
  · exact launched

end World.Twins

end RepoCatalog
