import RepoCatalog.Pipeline
import RepoCatalog.Proofs.Discovery.Completeness
import RepoCatalog.Proofs.File.Writing
import RepoCatalog.Proofs.History
import RepoCatalog.Proofs.Text.Encoding

/-!
# The stages of a run

Which stages each part of a run climbs. A part that fails climbs no further than where it fails.
-/

namespace RepoCatalog

open Effect

/-! ## Connecting -/

namespace Connection

/-- Sets up a client and gives its address; what a connection does before it authenticates. -/
def setUp (connection : Connection) : Effect String := do
  let address ← ofExcept connection.root
  log .debug ("Connecting to GitLab: " ++ address)
  let proxy ← ofExcept connection.proxy?
  if !connection.verifies then
    log .warning ("TLS certificate verification is disabled for " ++ address)
  reword Failure.isRemote .clientUnavailable (construct (connection.settings address proxy))
  return address

/-- Authenticates a client that is set up, if there is a token. -/
def logIn (connection : Connection) (address : String) : Effect Unit :=
  reword Failure.isRemote .clientUnavailable do
    if connection.token ≠ "" then authenticate address

theorem connect_eq (connection : Connection) :
    connection.connect = connection.setUp >>= connection.logIn := by
  unfold connect setUp logIn
  simp only [bind_assoc]
  refine congrArg _ (funext fun address => congrArg _ (funext fun _ =>
    congrArg _ (funext fun proxy => ?_)))
  cases connection.verifies <;>
    simp only [Bool.not_false, Bool.not_true, Bool.false_eq_true, if_true, if_false, bind_assoc,
      reword_bind, pure_bind]

theorem climbs_construct (settings : ClientSettings) :
    Climbs [.construct] (construct settings) := by
  refine (climbs_note (.connected settings)).after fun _ => climbs_get.before fun world => ?_
  cases world.server.refusal with
  | none => exact climbs_pure ()
  | some failure => exact climbs_throw failure

theorem climbs_authenticate (address : String) : Climbs [.authenticate] (authenticate address) := by
  refine (climbs_note .authenticated).after fun _ => climbs_get.before fun world => ?_
  cases world.server.rejection with
  | none => exact climbs_log _ _
  | some failure => exact climbs_throw failure

theorem climbs_setUp (connection : Connection) : Climbs [.construct] connection.setUp := by
  refine (climbs_ofExcept _).before fun address => (climbs_log _ _).before fun _ =>
    (climbs_ofExcept _).before fun proxy => ?_
  have last : Climbs [.construct] (do
      reword Failure.isRemote .clientUnavailable (construct (connection.settings address proxy))
      return address) :=
    ((climbs_construct _).reword _ _).after fun _ => climbs_pure address
  by_cases trusting : (!connection.verifies) = true
  · simp only [trusting, if_true]
    exact (climbs_log _ _).before fun _ => last
  · simp only [trusting]
    exact last

theorem climbs_logIn (connection : Connection) (address : String) :
    Climbs [.authenticate] (connection.logIn address) := by
  refine Climbs.reword ?_ _ _
  split
  · exact climbs_authenticate address
  · exact climbs_pure ()

/-- Without a token nothing is authenticated. -/
theorem climbs_logIn_of_no_token {connection : Connection} (anonymous : connection.token = "")
    (address : String) : Climbs [] (connection.logIn address) := by
  refine Climbs.reword ?_ _ _
  simp only [anonymous, ne_eq, not_true_eq_false, if_false]
  exact climbs_pure ()

theorem climbs_connect (connection : Connection) :
    Climbs [.construct, .authenticate] connection.connect := by
  rw [connect_eq]
  exact connection.climbs_setUp.bind (by decide) connection.climbs_logIn

theorem climbs_connect_of_no_token {connection : Connection} (anonymous : connection.token = "") :
    Climbs [.construct] connection.connect := by
  rw [connect_eq]
  exact connection.climbs_setUp.after (climbs_logIn_of_no_token anonymous)

end Connection

/-! ## Listing -/

namespace Discovery

theorem climbs_listPage (request : PageRequest) : Climbs [.list] (listPage request) := by
  intro world
  have led : world.Leads [.listed request] (askedFor request world) :=
    { events := World.events_note (.listed request) world
      launcher := rfl
      environment := rfl
      recorder := rfl
      server := fun unlisted => absurd List.mem_cons_self unlisted
      files := fun _ _ _ _ => rfl
      kept := fun _ _ _ => .refl world.files }
  rw [run_listPage]
  exact World.climb_of_leads led

theorem climbs_sweepFrom (request : Int → PageRequest) (fuel : Nat) (number : Int)
    (found : List Repository) : Climbs [.list] (sweepFrom request fuel number found) := by
  induction fuel generalizing number found with
  | zero => exact climbs_pure found
  | succ fuel induction =>
      refine (climbs_listPage _).again rfl fun page => (climbs_ofExcept _).before fun _ => ?_
      cases page.next? with
      | none => exact climbs_pure _
      | some next => exact induction next _

theorem climbs_sweep (label : String) (request : Int → PageRequest) :
    Climbs [.list] (sweep label request) :=
  climbs_get.before fun _ => (climbs_ofExcept _).before fun _ =>
    (climbs_sweepFrom request _ _ _).after fun _ => (climbs_log _ _).before fun _ => climbs_pure _

theorem climbs_sweepGroups (perPage : Given Int) (groups : List ProjectGroup) :
    Climbs [.list] (sweepGroups perPage groups) := by
  induction groups with
  | nil => exact climbs_pure []
  | cons group groups induction =>
      exact (climbs_sweep _ _).again rfl fun _ => induction.after fun _ => climbs_pure _

theorem climbs_discover (groups : List ProjectGroup) (perPage : Given Int)
    (archived : Option Bool) : Climbs [.list] (discover groups perPage archived) := by
  refine Climbs.after (Climbs.reword ?_ _ _) fun found => climbs_get.before fun _ =>
    (climbs_log _ _).before fun _ => climbs_pure found
  unfold sweepAll
  split
  · exact climbs_sweep _ _
  · exact climbs_sweepGroups perPage groups

end Discovery

/-! ## Selecting and checking -/

theorem Selection.climbs_select (policy : Policy) (repositories : List Repository) :
    Climbs [] (Selection.select policy repositories) := by
  induction repositories with
  | nil => exact climbs_pure []
  | cons repository repositories induction =>
      rw [Selection.select]
      split
      · exact induction.before fun _ => climbs_pure _
      · exact (climbs_log _ _).before fun _ => induction
      · exact induction
      · exact climbs_throw _

theorem Revision.climbs_isPresent (root path : String) (revision : Given String) :
    Climbs [.check] (Revision.isPresent root path revision) := by
  have launch : Climbs [.check] (launch (Revision.checkLaunch root path revision)) :=
    climbs_launch (Revision.checkLaunch root path revision)
  refine (launch.after fun _ => climbs_pure _).tryCatch fun failure => ?_
  split
  · exact (climbs_log _ _).before fun _ => climbs_pure _
  · exact climbs_throw failure

namespace Specification

theorem climbs_passes (checkRoot : Option (Given String)) (path : String)
    (revision : Given String) : Climbs [.check] (passes checkRoot path revision) := by
  rcases checkRoot with _ | root | _
  · exact climbs_pure true
  · exact Revision.climbs_isPresent root path revision
  · exact climbs_throw _

theorem climbs_entries (options : EntryOptions) (checkRoot : Option (Given String))
    (repositories : List Repository) :
    Climbs [.check] (entries options checkRoot repositories) := by
  induction repositories with
  | nil => exact climbs_pure []
  | cons repository repositories induction =>
      refine (climbs_ofExcept _).before fun entry =>
        (climbs_passes _ _ _).again rfl fun passed => ?_
      cases passed with
      | true => exact induction.after fun _ => climbs_pure _
      | false => exact (climbs_log _ _).before fun _ => induction

theorem climbs_build (name : String) (options : EntryOptions) (checkRoot : Option (Given String))
    (repositories : List Repository) :
    Climbs [.check] (build name options checkRoot repositories) :=
  (climbs_entries _ _ _).after fun _ => climbs_pure _

end Specification

/-! ## Storing -/

namespace Specification

/-- The world after a directory was prepared. -/
def afterPreparing (directory : FilePath) (world : World) : World :=
  World.note (.preparedDirectory directory)
    { world with files := (world.files.ensureDirectory directory).1 }

/-- The world after a file was opened and emptied. -/
def afterClearing (path : FilePath) (opened : FileTree) (world : World) : World :=
  World.note (.clearedFile path) { world with files := opened }

/-- The world after a content was written to a file that was opened, as far as it got. -/
def afterFilling (path : FilePath) (place : Location) (text : String) (content : List UInt8)
    (world : World) : World :=
  let filled := world.files.fill place content
  match filled.2 with
  | some _ => World.note (.brokeOff path) { world with files := filled.1 }
  | none =>
    let written := World.note (.wroteFile path) { world with files := filled.1 }
    if filled.1.get? place = some (.device .output) then written.note (.printed text) else written

theorem run_prepareDirectory (directory : FilePath) (world : World) :
    (prepareDirectory directory).run world =
      if hasNull directory.text = true then (.error .embeddedNull, world)
      else
        (match (world.files.ensureDirectory directory).2 with
          | some error => .error (.directoryNotCreated directory error)
          | none => .ok (), afterPreparing directory world) := by
  cases null : hasNull directory.text with
  | true => simp only [prepareDirectory, null, if_true, run_bind, run_throw]
  | false =>
      simp only [prepareDirectory, null, Bool.false_eq_true, if_false, run_bind, run_get,
        run_modify, run_note]
      cases (world.files.ensureDirectory directory).2 <;> rfl

theorem files_afterFilling (path : FilePath) (place : Location) (text : String)
    (content : List UInt8) (world : World) :
    (afterFilling path place text content world).files = (world.files.fill place content).1 := by
  simp only [afterFilling]
  split
  · rfl
  · split <;> rfl

theorem events_afterClearing (path : FilePath) (opened : FileTree) (world : World) :
    (afterClearing path opened world).events = world.events ++ [.clearedFile path] :=
  World.events_note _ _

theorem run_clearFile (path : FilePath) (world : World) :
    (clearFile path).run world =
      if hasNull path.text = true then (.error .embeddedNull, world)
      else
        match world.files.openFile true path.text with
        | .error fault => (.error (.fileNotWritten path (fault.about path.text)), world)
        | .ok (opened, place) => (.ok place, afterClearing path opened world) := by
  cases null : hasNull path.text with
  | true => simp only [clearFile, null, if_true, run_bind, run_throw]
  | false =>
      simp only [clearFile, null, Bool.false_eq_true, if_false, run_bind, run_get]
      cases world.files.openFile true path.text with
      | error fault => rfl
      | ok opened => rfl

theorem run_fillFile (path : FilePath) (place : Location) (text : String) (world : World) :
    (fillFile path place text).run world =
      match world.encoding.encode text with
      | .error failure => (.error failure, world)
      | .ok content =>
        (match (world.files.fill place content).2 with
          | some fault => .error (.fileNotWritten path fault.bare)
          | none => .ok (), afterFilling path place text content world) := by
  simp only [fillFile, run_bind, run_get, run_ofExcept]
  cases world.encoding.encode text with
  | error failure => rfl
  | ok content =>
      simp only [run_modify, afterFilling]
      cases (world.files.fill place content).2 with
      | some fault => rfl
      | none =>
          simp only [run_bind, run_note]
          split <;> rfl

/-- A file that cannot be opened leaves the world as it is. -/
theorem eq_of_uncleared {file : FilePath} {failure : Failure} {world after : World}
    (ran : (clearFile file).run world = (.error failure, after)) : after = world := by
  rw [run_clearFile] at ran
  split at ran
  · cases ran
    rfl
  · split at ran
    · cases ran
      rfl
    · cases ran

theorem cleared_of_run {file : FilePath} {place : Location} {world after : World}
    (ran : (clearFile file).run world = (.ok place, after)) :
    hasNull file.text = false ∧ ∃ opened,
      world.files.openFile true file.text = .ok (opened, place) ∧
        after = afterClearing file opened world := by
  rw [run_clearFile] at ran
  split at ran
  · cases ran
  · rename_i named
    refine ⟨Bool.not_eq_true _ ▸ named, ?_⟩
    split at ran
    · cases ran
    · rename_i opened there opens
      cases ran
      exact ⟨opened, opens, rfl⟩

theorem filled_of_run {file : FilePath} {place : Location} {text : String} {world after : World}
    (ran : (fillFile file place text).run world = (.ok (), after)) :
    world.encoding.stray? text.toList = none ∧
      world.files.fill place (Text.encodeUtf8 text.toList) = (after.files, none) ∧
      after = afterFilling file place text (Text.encodeUtf8 text.toList) world := by
  rw [run_fillFile] at ran
  split at ran
  · cases ran
  · rename_i content encoded
    obtain ⟨sound, rfl⟩ := Encoding.encode_eq_ok_iff.mp encoded
    cases problem : (world.files.fill place (Text.encodeUtf8 text.toList)).2 with
    | some fault =>
        rw [problem] at ran
        cases ran
    | none =>
        rw [problem] at ran
        cases ran
        exact ⟨sound, by rw [files_afterFilling, ← problem], rfl⟩

/-- A text that was written is in the file. -/
theorem written_of_run {file : FilePath} {text : String} {world after : World}
    (ran : (writeText file text).run world = (.ok (), after)) :
    hasNull file.text = false ∧ world.encoding.stray? text.toList = none ∧
      world.files.writeContent file.text (Text.encodeUtf8 text.toList) = .ok after.files := by
  obtain ⟨place, cleared, clears, fills⟩ := returned_bind ran
  obtain ⟨named, opened, opens, rfl⟩ := cleared_of_run clears
  obtain ⟨sound, filled, -⟩ := filled_of_run fills
  refine ⟨named, sound, ?_⟩
  simp only [FileTree.writeContent, opens]
  rw [show opened.fill place (Text.encodeUtf8 text.toList) = (after.files, none) from filled]

/-- Whatever comes of a text that is written, everything stays that its path does not lead to. -/
theorem get?_writeText {file : FilePath} {world : World} {other : Location}
    (apart : ∀ target, world.files.resolve .create file.text = .ok target → target.place ≠ other)
    (text : String) :
    ((writeText file text).run world).2.files.get? other = world.files.get? other := by
  rw [writeText, run_bind]
  rcases clears : (clearFile file).run world with ⟨failure | place, cleared⟩
  · rw [eq_of_uncleared clears]
  · obtain ⟨-, opened, opens, rfl⟩ := cleared_of_run clears
    obtain ⟨target, resolved, rfl⟩ := FileTree.exists_place_of_openFile opens
    have differs : other ≠ target.place := (apart target resolved).symm
    have kept : opened.get? other = world.files.get? other :=
      FileTree.get?_openFile_of_ne opens differs
    dsimp only
    rw [run_fillFile]
    split
    · exact kept
    · rw [files_afterFilling]
      exact (FileTree.get?_fill_of_ne differs _).trans kept

/-- Whatever comes of storing, what is there stays once the directory is prepared, unless the path
leads to it. -/
theorem get?_store {specification : Specification} {path : String} {world prepared : World}
    {other : Location}
    (prepares : (prepareDirectory (FilePath.ofString path).parent).run world = (.ok (), prepared))
    (apart : ∀ target, prepared.files.resolve .create (FilePath.ofString path).text = .ok target →
      target.place ≠ other) :
    ((specification.store path).run world).2.files.get? other = prepared.files.get? other := by
  rw [store, run_bind, prepares]
  dsimp only
  rw [run_bind, run_ofExcept]
  cases specification.render with
  | error failure => rfl
  | ok text =>
      dsimp only
      rw [world_bind fun _ _ => rfl]
      exact get?_writeText apart text

/-- What was stored was written behind prepared directories. -/
theorem returned_store_parts {specification : Specification} {path : String}
    {world after : World} {stored : FilePath}
    (ran : (specification.store path).run world = (.ok stored, after)) :
    stored = FilePath.ofString path ∧ ∃ text prepared, specification.render = .ok text ∧
      (prepareDirectory stored.parent).run world = (.ok (), prepared) ∧
      (writeText stored text).run prepared = (.ok (), after) := by
  obtain ⟨_, prepared, prepares, ran⟩ := returned_bind ran
  obtain ⟨text, _, attempted, ran⟩ := returned_bind ran
  obtain ⟨renders, rfl⟩ := returned_ofExcept attempted
  obtain ⟨_, written, writes, ran⟩ := returned_bind ran
  cases ran
  exact ⟨rfl, text, prepared, renders, prepares, writes⟩

theorem climbs_prepareDirectory (directory : FilePath) :
    Climbs [.prepare] (prepareDirectory directory) := by
  intro world
  have led : world.Leads [.preparedDirectory directory] (afterPreparing directory world) :=
    { events := World.events_note (.preparedDirectory directory) world
      launcher := rfl
      environment := rfl
      recorder := rfl
      server := fun _ => rfl
      files := fun _ unprepared => absurd List.mem_cons_self unprepared
      kept := fun _ _ _ => FileTree.extends_ensureDirectory world.files directory }
  rw [run_prepareDirectory]
  split
  · exact World.Climb.refl world
  · exact World.climb_of_leads led

theorem climb_afterClearing (path : FilePath) (opened : FileTree) (world : World) :
    World.Climb [.clear] world (afterClearing path opened world) := by
  have cleared : world.Leads [.clearedFile path] (afterClearing path opened world) :=
    { events := World.events_note (.clearedFile path) world
      launcher := rfl
      environment := rfl
      recorder := rfl
      server := fun _ => rfl
      files := fun _ _ uncleared => absurd List.mem_cons_self uncleared
      kept := fun _ uncleared => absurd List.mem_cons_self uncleared }
  exact World.climb_of_leads cleared

theorem climb_afterFilling (path : FilePath) (place : Location) (text : String)
    (content : List UInt8) (world : World) :
    World.Climb [.write] world (afterFilling path place text content world) := by
  have written {event : Event} (writes : event.stage? = some .write) (files : FileTree) :
      World.Climb [.write] world (World.note event { world with files := files }) := by
    have among : .write ∈ stagesOf [event] := by simp [stagesOf, writes]
    have led : world.Leads [event] (World.note event { world with files := files }) :=
      { events := World.events_note event world
        launcher := rfl
        environment := rfl
        recorder := rfl
        server := fun _ => rfl
        files := fun _ _ _ unwritten => absurd among unwritten
        kept := fun _ _ unwritten => absurd among unwritten }
    have climbed := World.climb_of_leads led
    rwa [writes] at climbed
  simp only [afterFilling]
  split
  · exact written rfl _
  · split
    · exact (written rfl _).trans (by simp) (World.climb_note (.printed text) _)
    · exact written rfl _

theorem climbs_clearFile (path : FilePath) : Climbs [.clear] (clearFile path) := by
  intro world
  rw [run_clearFile]
  split
  · exact World.Climb.refl world
  · split
    · exact World.Climb.refl world
    · exact climb_afterClearing path _ world

theorem climbs_fillFile (path : FilePath) (place : Location) (text : String) :
    Climbs [.write] (fillFile path place text) := by
  intro world
  rw [run_fillFile]
  split
  · exact World.Climb.refl world
  · exact climb_afterFilling path place text _ world

theorem climbs_writeText (path : FilePath) (text : String) :
    Climbs [.clear, .write] (writeText path text) :=
  (climbs_clearFile path).bind (by decide) fun place => climbs_fillFile path place text

theorem climbs_store (specification : Specification) (path : String) :
    Climbs [.prepare, .clear, .write] (specification.store path) :=
  (climbs_prepareDirectory _).bind (by decide) fun _ => (climbs_ofExcept _).before fun text =>
    (climbs_writeText _ text).after fun _ => climbs_pure _

end Specification

/-! ## Delegating -/

theorem World.Climb.delegations {stages : List Stage} {before after : World}
    (climbed : Climb stages before after) (undelegated : .delegate ∉ stages) :
    after.delegations = before.delegations := by
  obtain ⟨trace, led, -, among⟩ := climbed
  have none : (trace.filterMap Event.launch?).filter (!·.quiet) = [] := by
    refine List.filter_eq_nil_iff.mpr fun request launched loud => undelegated (among ?_)
    obtain ⟨event, happened, launches⟩ := List.mem_filterMap.mp launched
    refine List.mem_filterMap.mpr ⟨event, happened, ?_⟩
    cases event with
    | launched other =>
        obtain rfl := Option.some.inj launches
        simpa [Event.stage?] using loud
    | _ => cases launches
  rw [World.delegations, launches_of_events led.events, List.filter_append, none, List.append_nil,
    World.delegations]

theorem Delegate.climbs_run (program : String) (arguments : List (Given String)) (token : String) :
    Climbs [.delegate] (Delegate.run program arguments token) := by
  refine (climbs_log _ _).before fun _ => climbs_get.before fun world => ?_
  have launch : Climbs [.delegate] (launch ⟨.value program :: arguments,
      environmentFor token world.environment, false⟩) :=
    climbs_launch ⟨.value program :: arguments, environmentFor token world.environment, false⟩
  refine (launch.reword _ _).after fun status => ?_
  split
  · exact climbs_throw _
  · exact climbs_pure ()

/-! ## The run -/

namespace Pipeline

theorem climbs_choose (policy : Policy) (discovered : List Repository) :
    Climbs [] (choose policy discovered) :=
  (Selection.climbs_select policy discovered).before fun _ => climbs_ofExcept _

theorem climbs_delegate (configuration : Configuration) (invocation : String) :
    Climbs [.delegate] (delegate configuration invocation) :=
  climbs_get.before fun _ => (climbs_ofExcept _).before fun program =>
    (climbs_ofExcept _).before fun arguments => Delegate.climbs_run program arguments _

end Pipeline

end RepoCatalog
