import RepoCatalog.Proofs.Pipeline.Stages
import RepoCatalog.Rehearsal

/-!
# Stages and failures of a run

A run does what belongs to its stages in their order, and nothing after the stage in which it fails:
files are as they were until all revisions are checked, and the delegate is launched last, when the
specification is written.
-/

namespace RepoCatalog.Pipeline

open Effect

/-- The part of a run up to the end of a stage. -/
def upTo (configuration : Configuration) (invocation : String) : Stage → Effect Unit
  | .construct => do
    let _ ← ofExcept (configuration.policy (← get).files)
    let _ ← configuration.connection.setUp
  | .authenticate => do
    let _ ← ofExcept (configuration.policy (← get).files)
    configuration.connection.connect
  | .list => do
    let policy ← ofExcept (configuration.policy (← get).files)
    let _ ← discover configuration policy
  | .check => do
    let _ ← specify configuration
  | .prepare => do
    let _ ← specify configuration
    Specification.prepareDirectory (FilePath.ofString configuration.specificationPath).parent
  | .clear => do
    let specification ← specify configuration
    Specification.prepareDirectory (FilePath.ofString configuration.specificationPath).parent
    let _ ← ofExcept specification.render
    let _ ← Specification.clearFile (FilePath.ofString configuration.specificationPath)
  | .write => do
    let specification ← specify configuration
    let _ ← specification.store configuration.specificationPath
  | .delegate => do
    let _ ← run configuration invocation

/-! ## Which stages are climbed -/

/-- Stages among others come before what those come before. -/
theorem precedes_of_subset {fewer stages early late : List Stage} (among : fewer ⊆ stages)
    (ordered : ∀ first ∈ stages ++ early, ∀ second ∈ late, first.Precedes second) :
    ∀ first ∈ fewer ++ early, ∀ second ∈ late, first.Precedes second := by
  intro first member
  rcases List.mem_append.mp member with here | later
  · exact ordered first (List.mem_append_left early (among here))
  · exact ordered first (List.mem_append_right _ later)

variable {configuration : Configuration} {connecting : List Stage}

/-- What a run makes of the repositories it discovered. -/
def choosing (configuration : Configuration) (policy : Policy) (discovered : List Repository) :
    Effect Specification := do
  let chosen ← choose policy discovered
  Specification.build (configuration.name.getD "") configuration.entryOptions
    configuration.checkRoot chosen

/-- What a run does once its specification is written. -/
def handing (configuration : Configuration) (invocation : String) (specification : Specification)
    (path : FilePath) : Effect Specification := do
  log .info ("Wrote index specification with " ++ toString specification.repositories.length
    ++ " repositories: " ++ path.text)
  delegate configuration invocation
  return specification

/-- What a run does with its specification. -/
def finishing (configuration : Configuration) (invocation : String)
    (specification : Specification) : Effect Specification := do
  let path ← specification.store configuration.specificationPath
  handing configuration invocation specification path

theorem climbs_discover (connects : Climbs connecting configuration.connection.connect)
    (among : connecting ⊆ [.construct, .authenticate]) (policy : Policy) :
    Climbs (connecting ++ [.list]) (discover configuration policy) := by
  have ordered : ∀ first ∈ [Stage.construct, .authenticate], ∀ second ∈ [Stage.list],
      first.Precedes second := by
    decide
  exact connects.bind (fun first early => ordered first (among early)) fun _ =>
    Discovery.climbs_discover _ _ _

theorem climbs_choosing (configuration : Configuration) (policy : Policy)
    (discovered : List Repository) : Climbs [.check] (choosing configuration policy discovered) :=
  (climbs_choose policy discovered).before fun _ => Specification.climbs_build _ _ _ _

theorem climbs_specify (connects : Climbs connecting configuration.connection.connect)
    (among : connecting ⊆ [.construct, .authenticate]) :
    Climbs (connecting ++ [.list, .check]) (specify configuration) := by
  refine climbs_get.before fun world => (climbs_ofExcept _).before fun policy => ?_
  have climbs := (climbs_discover connects among policy).bind
    (precedes_of_subset among (by decide)) (climbs_choosing configuration policy)
  rw [List.append_assoc] at climbs
  exact climbs

theorem climbs_handing (configuration : Configuration) (invocation : String)
    (specification : Specification) (path : FilePath) :
    Climbs [.delegate] (handing configuration invocation specification path) :=
  (climbs_log _ _).before fun _ =>
    (climbs_delegate configuration invocation).after fun _ => climbs_pure specification

theorem climbs_finishing (configuration : Configuration) (invocation : String)
    (specification : Specification) :
    Climbs [.prepare, .clear, .write, .delegate] (finishing configuration invocation specification) :=
  (Specification.climbs_store specification _).bind (by decide)
    (climbs_handing configuration invocation specification)

theorem climbs_run (connects : Climbs connecting configuration.connection.connect)
    (among : connecting ⊆ [.construct, .authenticate]) (invocation : String) :
    Climbs (connecting ++ [.list, .check, .prepare, .clear, .write, .delegate])
      (run configuration invocation) := by
  have climbs := (climbs_specify connects among).bind
    (precedes_of_subset among (by decide)) (climbs_finishing configuration invocation)
  rw [List.append_assoc] at climbs
  exact climbs

/-- A run does nothing but what its stages are. -/
theorem climbs_all (configuration : Configuration) (invocation : String) :
    Climbs Stage.all (run configuration invocation) :=
  climbs_run configuration.connection.climbs_connect (List.Subset.refl _) invocation

/-- Without a token a run does not authenticate. -/
theorem climbs_of_no_token (anonymous : configuration.token.getD "" = "") (invocation : String) :
    Climbs [.construct, .list, .check, .prepare, .clear, .write, .delegate]
      (run configuration invocation) :=
  climbs_run (Connection.climbs_connect_of_no_token anonymous) (by decide) invocation

theorem climbs_upTo (configuration : Configuration) (invocation : String) (stage : Stage) :
    Climbs stage.upTo (upTo configuration invocation stage) := by
  have connects := configuration.connection.climbs_connect
  have specifies := climbs_specify connects (List.Subset.refl _)
  cases stage with
  | construct =>
      exact climbs_get.before fun _ => (climbs_ofExcept _).before fun _ =>
        configuration.connection.climbs_setUp.after fun _ => climbs_pure ()
  | authenticate =>
      exact climbs_get.before fun _ => (climbs_ofExcept _).before fun _ => connects
  | list =>
      exact climbs_get.before fun _ => (climbs_ofExcept _).before fun policy =>
        (climbs_discover connects (List.Subset.refl _) policy).after fun _ => climbs_pure ()
  | check => exact specifies.after fun _ => climbs_pure ()
  | prepare =>
      exact specifies.bind (by decide) fun _ => Specification.climbs_prepareDirectory _
  | clear =>
      have clears (specification : Specification) : Climbs [.prepare, .clear] (do
          Specification.prepareDirectory
            (FilePath.ofString configuration.specificationPath).parent
          let _ ← ofExcept specification.render
          let _ ← Specification.clearFile
            (FilePath.ofString configuration.specificationPath)) :=
        (Specification.climbs_prepareDirectory _).bind (by decide) fun _ =>
          (climbs_ofExcept _).before fun _ =>
            (Specification.climbs_clearFile _).after fun _ => climbs_pure ()
      exact specifies.bind (by decide) clears
  | write =>
      exact specifies.bind (by decide) fun specification =>
        (Specification.climbs_store specification _).after fun _ => climbs_pure ()
  | delegate => exact (climbs_all configuration invocation).after fun _ => climbs_pure ()

/-! ## Where a run stops -/

/-- A run begins with what its discovery begins with, once the policy is read. -/
theorem beginsWith_of_discover {stages : List Stage} {part : Policy → Effect Unit}
    (begins : ∀ policy, BeginsWith stages (part policy) (discover configuration policy))
    (among : stages ⊆ [.authenticate, .list]) (invocation : String) :
    BeginsWith (stages ++ [.check, .prepare, .clear, .write, .delegate])
      (do part (← ofExcept (configuration.policy (← get).files)))
      (run configuration invocation) := by
  have ordered : ∀ first ∈ [Stage.authenticate, .list], ∀ second ∈ [Stage.check],
      first.Precedes second := by
    decide
  have specifies : BeginsWith (stages ++ [.check])
      (do part (← ofExcept (configuration.policy (← get).files))) (specify configuration) :=
    .after fun world => .after fun policy =>
      (begins policy).bind (fun first early => ordered first (among early))
        (climbs_choosing configuration policy)
  have runs := specifies.bind (precedes_of_subset among (by decide))
    (climbs_finishing configuration invocation)
  rw [List.append_assoc] at runs
  exact runs

/-- A run begins with its part up to any stage; what it does afterwards belongs to later stages. -/
theorem beginsWith_upTo (configuration : Configuration) (invocation : String) (stage : Stage) :
    BeginsWith stage.beyond (upTo configuration invocation stage)
      (run configuration invocation) := by
  cases stage with
  | construct =>
      have begins : ∀ policy, BeginsWith [.authenticate, .list]
          (do let _ ← configuration.connection.setUp) (discover configuration policy) := by
        intro policy
        unfold discover
        rw [Connection.connect_eq]
        exact ((beginsWith_bind (Connection.climbs_logIn _)).bind (by decide)
          fun _ => Discovery.climbs_discover _ _ _).discard
      exact beginsWith_of_discover begins (by decide) invocation
  | authenticate =>
      have begins : ∀ policy, BeginsWith [.list] configuration.connection.connect
          (discover configuration policy) := fun policy =>
        beginsWith_bind fun _ => Discovery.climbs_discover _ _ _
      exact beginsWith_of_discover begins (by decide) invocation
  | list =>
      have begins : ∀ policy, BeginsWith [] (do let _ ← discover configuration policy)
          (discover configuration policy) := fun policy => .discard .refl
      exact beginsWith_of_discover begins (by decide) invocation
  | check => exact (beginsWith_bind (climbs_finishing configuration invocation)).discard
  | prepare =>
      refine .after fun specification => ?_
      have stores : BeginsWith [.clear, .write]
          (Specification.prepareDirectory
            (FilePath.ofString configuration.specificationPath).parent)
          (specification.store configuration.specificationPath) :=
        beginsWith_bind fun _ => (climbs_ofExcept _).before fun text =>
          (Specification.climbs_writeText _ text).after fun _ => climbs_pure _
      exact stores.bind (by decide) (climbs_handing configuration invocation specification)
  | clear =>
      refine .after fun specification => ?_
      have fills (path : FilePath) (text : String) :
          BeginsWith ([.write] ++ []) (Specification.clearFile path)
            (do Specification.writeText path text; return path) :=
        (beginsWith_bind fun place => Specification.climbs_fillFile path place text).bind
          (by decide) fun _ => climbs_pure path
      have stores : BeginsWith [.write] (do
          Specification.prepareDirectory
            (FilePath.ofString configuration.specificationPath).parent
          let _ ← ofExcept specification.render
          let _ ← Specification.clearFile
            (FilePath.ofString configuration.specificationPath))
          (specification.store configuration.specificationPath) :=
        .after fun _ => .after fun text => (fills _ text).discard
      exact stores.bind (by decide) (climbs_handing configuration invocation specification)
  | write =>
      refine .after fun specification => ?_
      have stores : BeginsWith [] (do
          let _ ← specification.store configuration.specificationPath)
          (specification.store configuration.specificationPath) := .discard .refl
      exact stores.bind (by decide) (climbs_handing configuration invocation specification)
  | delegate => exact .discard .refl

/-! ## What a run does to the world -/

/-- The world when a stage has ended, or when the run has failed before that. -/
def worldAt (configuration : Configuration) (invocation : String) (stage : Stage)
    (world : World) : World :=
  ((upTo configuration invocation stage).run world).2

/-- A trace of a run is cut by the end of a stage. -/
structure IsCut (configuration : Configuration) (invocation : String) (world : World)
    (trace : List Event) (stage : Stage) : Prop where
  /-- What was done until then belongs to this stage and those before it; what is done afterwards
  belongs to later stages, and after a failure nothing is done. -/
  splits : ∃ early late, trace = early ++ late ∧
    (worldAt configuration invocation stage world).events = world.events ++ early ∧
    (∀ other ∈ stagesOf early, other.place ≤ stage.place) ∧
    (∀ other ∈ stagesOf late, stage.place < other.place) ∧
    ∀ failure, ((upTo configuration invocation stage).run world).1 = .error failure →
      late = [] ∧ (run configuration invocation).run world =
        (.error failure, worldAt configuration invocation stage world)
  /-- Until revisions are checked, files are as they were. -/
  files : stage.place ≤ Stage.check.place →
    (worldAt configuration invocation stage world).files = world.files
  /-- Until the file of the specification is opened, every path leads to what it led to before. -/
  kept : stage.place ≤ Stage.prepare.place → ∀ path entry, world.files.inspect path = .ok entry →
    (worldAt configuration invocation stage world).files.inspect path = .ok entry

/-- A specification was written completely before the delegate was launched, and is what files hold
after the run. -/
def IsWritten (configuration : Configuration) (invocation : String) (world : World) : Prop :=
  let path := FilePath.ofString configuration.specificationPath
  let before := worldAt configuration invocation .prepare world
  let after := ((run configuration invocation).run world).2
  ∃ specification specified text,
    (specify configuration).run world = (.ok specification, specified) ∧
    specification.render = .ok text ∧
    before.files.writeContent path.text (Text.encodeUtf8 text.toList) = .ok after.files ∧
    ((∀ place entry, before.files.resolve .create path.text = .ok (.present place entry) →
        ∃ old mode, entry = .file old mode) →
      after.files.contentOf path.text = .ok (Text.encodeUtf8 text.toList))

/-- How a run proceeds. -/
structure Proceeds (configuration : Configuration) (invocation : String) (world : World)
    (trace : List Event) : Prop where
  /-- The trace is what the run did. -/
  events : ((run configuration invocation).run world).2.events = world.events ++ trace
  /-- Everything is done in the order of its stages. -/
  ordered : (stagesOf trace).Pairwise Stage.Precedes
  /-- Everything but listing pages and checking revisions is done once. -/
  once : ∀ stage, stage.repeats = false → (stagesOf trace).count stage ≤ 1
  /-- Without a token nothing is authenticated. -/
  anonymous : configuration.token.getD "" = "" → .authenticate ∉ stagesOf trace
  /-- The end of every stage cuts the trace. -/
  cuts : ∀ stage, IsCut configuration invocation world trace stage
  /-- Unless the file of the specification is opened, every path leads to what it led to before. -/
  kept : .clear ∉ stagesOf trace → ∀ path entry, world.files.inspect path = .ok entry →
    ((run configuration invocation).run world).2.files.inspect path = .ok entry
  /-- What the path of the specification does not lead to stays, whatever becomes of that file. -/
  elsewhere : ∀ place entry, world.files.get? place = some entry →
    (∀ target, (worldAt configuration invocation .prepare world).files.resolve .create
      (FilePath.ofString configuration.specificationPath).text = .ok target →
        target.place ≠ place) →
    ((run configuration invocation).run world).2.files.get? place = some entry
  /-- The delegate is launched only when the specification is written. -/
  written : .delegate ∈ stagesOf trace → IsWritten configuration invocation world

section Leads

variable {invocation : String} {world : World} {trace : List Event} (tame : world.IsTame)
  (led : world.Leads trace ((run configuration invocation).run world).2)

include tame led

theorem isCut_of_leads (stage : Stage) : IsCut configuration invocation world trace stage := by
  obtain ⟨early, earlyLed, -, earlyAmong⟩ := climbs_upTo configuration invocation stage world
  have begins := beginsWith_upTo configuration invocation stage
  have before {other : Stage} (early : stage.place < other.place) : other ∉ stagesOf _ :=
    fun member => absurd (Stage.mem_upTo.mp (earlyAmong member)) (by omega)
  refine ⟨?_, fun unchanged => earlyLed.files tame (before ?_) (before ?_) (before ?_),
    fun unopened _ _ => (earlyLed.kept tame (before ?_) (before ?_)).inspect⟩
  · rcases ran : (upTo configuration invocation stage).run world with ⟨outcome, reached⟩
    simp only [worldAt, ran] at earlyLed ⊢
    cases outcome with
    | error failure =>
        have stops := begins.fails world failure reached ran
        rw [stops] at led
        have all : trace = early :=
          List.append_cancel_left (led.events.symm.trans earlyLed.events)
        refine ⟨early, [], by simp [all], earlyLed.events,
          fun other member => Stage.mem_upTo.mp (earlyAmong member), by simp [stagesOf], ?_⟩
        rintro _ ⟨rfl⟩
        exact ⟨rfl, stops⟩
    | ok _ =>
        obtain ⟨late, lateLed, -, lateAmong⟩ := begins.climbs world _ reached ran
        have all : trace = early ++ late :=
          List.append_cancel_left (led.events.symm.trans (earlyLed.trans lateLed).events)
        exact ⟨early, late, all, earlyLed.events,
          fun other member => Stage.mem_upTo.mp (earlyAmong member),
          fun other member => Stage.mem_beyond.mp (lateAmong member), by simp⟩
  all_goals simp only [Stage.place] at *; omega

/-- A run that does not open the file of the specification does not write to it. -/
theorem extends_of_unopened (unopened : .clear ∉ stagesOf trace) :
    world.files.Extends ((run configuration invocation).run world).2.files := by
  obtain ⟨early, late, rfl, events, among, -, stops⟩ := (isCut_of_leads tame led .clear).splits
  rcases ran : (upTo configuration invocation .clear).run world with ⟨failure | _, reached⟩
  · obtain ⟨rfl, -⟩ := stops failure (by rw [ran])
    refine led.kept tame unopened fun written => ?_
    rw [List.append_nil] at written
    exact absurd (among .write written) (by decide)
  · -- the last thing that was done is to open the file
    obtain ⟨specification, specified, specifies, rest⟩ := returned_bind ran
    obtain ⟨_, prepared, prepares, rest⟩ := returned_bind rest
    obtain ⟨text, _, renders, rest⟩ := returned_bind rest
    obtain ⟨-, rfl⟩ := returned_ofExcept renders
    obtain ⟨place, cleared, clears, last⟩ := returned_bind rest
    cases last
    obtain ⟨-, opened, -, rfl⟩ := Specification.cleared_of_run clears
    obtain ⟨first, firstLed, -⟩ :=
      (climbs_specify configuration.connection.climbs_connect (List.Subset.refl _)).of_run specifies
    obtain ⟨second, secondLed, -⟩ := (Specification.climbs_prepareDirectory _).of_run prepares
    have all : early = first ++ second ++
        [.clearedFile (FilePath.ofString configuration.specificationPath)] := by
      refine List.append_cancel_left (events.symm.trans ?_)
      rw [worldAt, ran]
      dsimp only
      rw [Specification.events_afterClearing, (firstLed.trans secondLed).events,
        List.append_assoc]
    refine absurd ?_ unopened
    simp [all, stagesOf, Event.stage?]

omit led in
/-- What the path of the specification does not lead to stays. -/
theorem get?_of_elsewhere {place : Location} {entry : Entry}
    (held : world.files.get? place = some entry)
    (apart : ∀ target, (worldAt configuration invocation .prepare world).files.resolve .create
      (FilePath.ofString configuration.specificationPath).text = .ok target →
        target.place ≠ place) :
    ((run configuration invocation).run world).2.files.get? place = some entry := by
  have begins := beginsWith_upTo configuration invocation .prepare
  have paved : world.files.Extends (worldAt configuration invocation .prepare world).files :=
    (climbs_upTo configuration invocation .prepare world).extends_files tame (by decide) (by decide)
  have there := paved.holds place entry held
  rcases ran : (upTo configuration invocation .prepare).run world with ⟨failure | _, reached⟩
  · rw [begins.fails world failure reached ran]
    rwa [worldAt, ran] at there
  · obtain ⟨specification, specified, specifies, prepares⟩ := returned_bind ran
    rw [worldAt, ran] at there apart
    have stores : ((specification.store configuration.specificationPath).run
        specified).2.files.get? place = some entry :=
      (Specification.get?_store prepares apart).trans there
    rw [run, run_bind, specifies]
    dsimp only
    rw [run_bind]
    rcases stored : (specification.store configuration.specificationPath).run specified with
      ⟨failure | path, written⟩
    · rwa [stored] at stores
    · rw [stored] at stores
      have tameSpecified := ((climbs_specify configuration.connection.climbs_connect
        (List.Subset.refl _)).of_run specifies).isTame tame
      have tameWritten := ((Specification.climbs_store specification _).of_run stored).isTame
        tameSpecified
      have files := (climbs_handing configuration invocation specification path written).files
        tameWritten (by decide) (by decide) (by decide)
      exact (congrArg (·.get? place) files).trans stores

end Leads

/-- What was stored is what files hold where the specification is written. -/
theorem returned_store {specification : Specification} {path : String} {world after : World}
    {stored : FilePath}
    (returned : (specification.store path).run world = (.ok stored, after)) :
    ∃ text, specification.render = .ok text ∧
      ((Specification.prepareDirectory (FilePath.ofString path).parent).run
        world).2.files.writeContent (FilePath.ofString path).text (Text.encodeUtf8 text.toList) =
          .ok after.files := by
  obtain ⟨rfl, text, prepared, renders, prepares, writes⟩ :=
    Specification.returned_store_parts returned
  refine ⟨text, renders, ?_⟩
  rw [prepares]
  exact (Specification.written_of_run writes).2.2

theorem isWritten_of_delegated {configuration : Configuration} {invocation : String}
    {world : World} (tame : world.IsTame) {trace : List Event}
    (led : world.Leads trace ((run configuration invocation).run world).2)
    (delegated : .delegate ∈ stagesOf trace) : IsWritten configuration invocation world := by
  obtain ⟨early, earlyLed, -, earlyAmong⟩ := climbs_upTo configuration invocation .write world
  have begins := beginsWith_upTo configuration invocation .write
  rcases ran : (upTo configuration invocation .write).run world with ⟨failure | _, reached⟩
  · rw [ran] at earlyLed
    rw [begins.fails world failure reached ran] at led
    have all : trace = early := List.append_cancel_left (led.events.symm.trans earlyLed.events)
    rw [all] at delegated
    exact absurd (earlyAmong delegated) (by decide)
  · rw [ran] at earlyLed
    have files : ((run configuration invocation).run world).2.files = reached.files :=
      (begins.climbs world _ reached ran).files (tame.leads earlyLed) (by decide) (by decide)
        (by decide)
    obtain ⟨specification, specified, specifies, ran⟩ := returned_bind ran
    obtain ⟨stored, written, stores, last⟩ := returned_bind ran
    cases last
    obtain ⟨text, renders, wrote⟩ := returned_store stores
    have before : worldAt configuration invocation .prepare world =
        ((Specification.prepareDirectory
          (FilePath.ofString configuration.specificationPath).parent).run specified).2 := by
      rw [worldAt, upTo, run_bind, specifies]
    refine ⟨specification, specified, text, specifies, renders, ?_, fun plain => ?_⟩
    · rw [before, files, wrote]
    · rw [files]
      rw [before] at plain
      exact FileTree.contentOf_writeContent wrote plain

/-- However a run of a tame world ends, it proceeds by its stages: each is begun only when those
before it have succeeded, and a stage that fails is the last. -/
theorem run_proceeds (configuration : Configuration) (invocation : String) (world : World)
    (tame : world.IsTame) : ∃ trace, Proceeds configuration invocation world trace := by
  obtain ⟨trace, led, ordered, -⟩ := climbs_all configuration invocation world
  refine ⟨trace, led.events, ordered, fun _ => Stage.count_le_one ordered, fun anonymous => ?_,
    isCut_of_leads tame led, fun unopened _ _ => (extends_of_unopened tame led unopened).inspect,
    fun _ _ => get?_of_elsewhere tame, isWritten_of_delegated tame led⟩
  obtain ⟨other, otherLed, -, among⟩ := climbs_of_no_token anonymous invocation world
  have same : other = trace := List.append_cancel_left (otherLed.events.symm.trans led.events)
  rw [← same]
  exact fun authenticated => absurd (among authenticated) (by decide)

/-- Runs with a specification left by an earlier run: one that is interrupted at its second page, and
one that finds the disk full when the first byte is written. -/
theorem run_proceeds_interrupted :
    let configuration := { Configuration.initial "secret" with
      specificationPath := "specification.json", fetchReindex := some "fetch" }
    let start := Rehearsal.world [("COLUMNS", "80")] [("specification.json", [91, 93])] []
    let interrupted := { start with
      server := ⟨none, none, [.ok ⟨[], some 2⟩, .error .interrupted]⟩ }
    let full := { start with
      server := ⟨none, none, [.ok ⟨[], none⟩]⟩
      files := { start.files with
        medium := { Medium.ample with breaksOff := fun _ _ => some (1, .noSpace) } } }
    let left (world : World) :=
      ((run configuration "").run world).2.files.contentOf "specification.json"
    (interrupted.IsTame ∧ (∃ trace, Proceeds configuration "" interrupted trace) ∧
        left interrupted = .ok [91, 93]) ∧
      full.IsTame ∧ (∃ trace, Proceeds configuration "" full trace) ∧ left full = .ok [123] := by
  intro configuration start interrupted full left
  have tame : interrupted.IsTame := ⟨rfl, fun _ _ _ _ => rfl⟩
  have tameToo : full.IsTame := ⟨rfl, fun _ _ _ _ => rfl⟩
  exact ⟨⟨tame, run_proceeds configuration "" interrupted tame, by decide +kernel⟩, tameToo,
    run_proceeds configuration "" full tameToo, by decide +kernel⟩

end RepoCatalog.Pipeline
