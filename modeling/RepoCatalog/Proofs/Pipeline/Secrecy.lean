import RepoCatalog.Program
import RepoCatalog.Proofs.Pipeline.Pairs
import RepoCatalog.Proofs.Specification.RoundTrip
import RepoCatalog.Proofs.Twins

/-!
# The token of a run

Runs with different tokens end in the same way and do the same, except that their clients and their
delegates are told different tokens. The entries of a specification name the variable under which
the delegate finds the token.
-/

namespace RepoCatalog

open Effect

/-! ## Twins side by side -/

namespace World.Twins

variable {first second : String}

theorem paired_log (level : Level) (message : String) :
    Paired (Twins first second) (log level message) (log level message) :=
  paired_modify fun _ _ twins => twins.record level message

theorem paired_note {event response : Event} (alike : Event.Twins first second event response) :
    Paired (Twins first second) (Effect.note event) (Effect.note response) :=
  fun _ _ twins => ⟨rfl, twins.note alike⟩

theorem paired_launch {request response : Launch}
    (alike : Launch.Twins first second request response) :
    Paired (Twins first second) (launch request) (launch response) := by
  intro one other twins
  rw [run_launch, run_launch, twins.reply alike]
  exact ⟨rfl, twins.afterLaunch alike⟩

theorem paired_prepareDirectory (directory : FilePath) :
    Paired (Twins first second) (Specification.prepareDirectory directory)
      (Specification.prepareDirectory directory) := by
  intro one other twins
  rw [Specification.run_prepareDirectory, Specification.run_prepareDirectory, ← twins.files]
  split
  · exact ⟨rfl, twins⟩
  · refine ⟨rfl, ?_⟩
    rw [Specification.afterPreparing, Specification.afterPreparing, ← twins.files]
    exact (twins.withFiles _).note (.same _)

theorem paired_clearFile (path : FilePath) :
    Paired (Twins first second) (Specification.clearFile path) (Specification.clearFile path) := by
  intro one other twins
  rw [Specification.run_clearFile, Specification.run_clearFile, ← twins.files]
  split
  · exact ⟨rfl, twins⟩
  · split
    · exact ⟨rfl, twins⟩
    · exact ⟨rfl, (twins.withFiles _).note (.same (.clearedFile path))⟩

theorem paired_fillFile (path : FilePath) (place : Location) (text : String) :
    Paired (Twins first second) (Specification.fillFile path place text)
      (Specification.fillFile path place text) := by
  intro one other twins
  rw [Specification.run_fillFile, Specification.run_fillFile, ← twins.files, ← twins.encoding]
  split
  · exact ⟨rfl, twins⟩
  · rename_i content _
    have filled := twins.withFiles (one.files.fill place content).1
    refine ⟨rfl, ?_⟩
    simp only [Specification.afterFilling, ← twins.files]
    split
    · exact filled.note (.same _)
    · split
      · exact (filled.note (.same _)).note (.same _)
      · exact filled.note (.same _)

theorem paired_listPage (request : PageRequest) :
    Paired (Twins first second) (Discovery.listPage request) (Discovery.listPage request) := by
  intro one other twins
  rw [Discovery.run_listPage, Discovery.run_listPage, Discovery.askedFor, Discovery.askedFor,
    ← twins.server]
  exact ⟨rfl, (twins.note (.same _)).withServer _⟩

theorem listingKeeps : ListingKeeps (Twins first second) where
  environment := fun _ _ twins => twins.environment
  answers := fun _ _ twins => congrArg Server.answers twins.server
  clock := fun _ _ twins => twins.clock
  log := paired_log
  listPage := paired_listPage

/-! ## Two runs -/

theorem runsKeep (configuration : Configuration) (toldFirst : first ≠ "")
    (toldSecond : second ≠ "") :
    RunsKeep { configuration with token := .value first }
      { configuration with token := .value second } (Twins first second) (Twins first second) where
  resembles := ⟨.value second, configuration.groups, configuration.perPage, rfl⟩
  anonymous := iff_of_false toldFirst toldSecond
  environment := fun _ _ twins => twins.environment
  usable := fun _ _ twins => by rw [twins.files]
  log := paired_log
  refusal := fun _ _ twins => congrArg Server.refusal twins.server
  rejection := fun _ _ twins => congrArg Server.rejection twins.server
  connected := by
    intro address proxy
    refine paired_note ?_
    simp only [Connection.settings, Configuration.connection, Given.getD, toldFirst, toldSecond,
      if_false]
    exact .connected _ _ _ _
  authenticated := paired_note (.same _)
  check := fun _ _ _ => paired_launch (.same _)
  prepare := paired_prepareDirectory
  clear := paired_clearFile
  fill := paired_fillFile
  weaker := fun _ _ twins => twins
  delegate := by
    intro arguments environment
    refine paired_launch ?_
    simp only [Delegate.environmentFor, Given.getD, toldFirst, toldSecond, if_false]
    exact .delegate _ _

theorem setUpKeeps : Journal.SetUpKeeps (Twins first second) where
  files := fun _ _ twins => twins.files
  environment := fun _ _ twins => twins.environment
  journal := fun _ _ twins => twins.journal
  withFiles := fun _ _ files twins => twins.withFiles files
  withJournal := fun _ _ journal twins => twins.withJournal journal

theorem paired_run (configuration : Configuration) (toldFirst : first ≠ "")
    (toldSecond : second ≠ "") (invocation : String) :
    Paired (Twins first second)
      (Pipeline.run { configuration with token := .value first } invocation)
      (Pipeline.run { configuration with token := .value second } invocation) := by
  have keeps := runsKeep configuration toldFirst toldSecond
  have specifies : Paired (Twins first second)
      (Pipeline.specify { configuration with token := .value first })
      (Pipeline.specify { configuration with token := .value second }) := by
    refine paired_get fun one other twins => ?_
    rw [← twins.files]
    exact (paired_ofExcept _).bind fun policy =>
      (keeps.connect.bind fun _ => listingKeeps.discover _ _ _).bind fun discovered =>
        keeps.choosing policy discovered
  exact specifies.parts (fun _ _ twins => twins) (keeps.finishing invocation)

theorem paired_runConfigured (configuration : Configuration) (toldFirst : first ≠ "")
    (toldSecond : second ≠ "") (invocation : String) :
    Paired (Twins first second)
      (Program.runConfigured { configuration with token := .value first } invocation)
      (Program.runConfigured { configuration with token := .value second } invocation) :=
  (paired_ofExcept _).bind fun options => (setUpKeeps.build options).bind fun _ =>
    (paired_run configuration toldFirst toldSecond invocation).bind fun _ => paired_pure ()

end World.Twins

/-! ## The variable of the token -/

/-- Name of the variable that an entry, as it is written, says to hold the clone password. -/
def RepositoryEntry.passwordVariable? (entry : RepositoryEntry) : Option Json :=
  (entry.toJson.field? "clone_options").bind (Json.field? "password_env")

theorem CloneOptions.field?_toJson (options : CloneOptions) :
    options.toJson.field? "password_env" =
      if options.passwordVariable = "" then none else some (.string options.passwordVariable) := by
  have found : options.toJson.field? "password_env" =
      (some (Json.string options.passwordVariable)).filter Json.isTruthy :=
    lookup_dropEmpty (by simp) "password_env"
  rw [found]
  by_cases unnamed : options.passwordVariable = "" <;> simp [unnamed, Json.isTruthy, Option.filter]

theorem RepositoryEntry.passwordVariable?_eq {entry : RepositoryEntry} {options : CloneOptions}
    (cloned : entry.cloneOptions = some options) :
    entry.passwordVariable? =
      if options.passwordVariable = "" then none else some (.string options.passwordVariable) := by
  have found : entry.toJson.field? "clone_options" =
      (some ((entry.cloneOptions.map CloneOptions.toJson).getD .null)).filter Json.isTruthy :=
    lookup_dropEmpty (by simp) "clone_options"
  rw [passwordVariable?, found, cloned, Option.map_some, Option.getD_some, ← options.field?_toJson]
  cases truthy : options.toJson.isTruthy with
  | true => rw [Option.filter_some_pos truthy, Option.bind_some]
  | false =>
      rw [Option.filter_some_neg truthy, Option.bind_none, CloneOptions.eq_zero_of_falsy truthy]
      rfl

/-- The entries of a specification are cloned as their options say. -/
theorem Specification.cloneOptions_of_returned {options : EntryOptions}
    {checkRoot : Option (Given String)} {repositories : List Repository} {world after : World}
    {made : List RepositoryEntry}
    (returned : (entries options checkRoot repositories).run world = (.ok made, after)) :
    ∀ entry ∈ made,
      entry.cloneOptions = some ⟨options.depth, options.username, options.passwordVariable⟩ := by
  induction repositories generalizing made world with
  | nil =>
      cases returned
      simp
  | cons repository repositories induction =>
      obtain ⟨first, _, attempted, returned⟩ := returned_bind returned
      obtain ⟨entered, rfl⟩ := returned_ofExcept attempted
      obtain ⟨passed, middle, checked, returned⟩ := returned_bind returned
      cases passed with
      | true =>
          obtain ⟨others, _, ran, last⟩ := returned_bind returned
          cases last
          refine List.forall_mem_cons.mpr ⟨?_, induction ran⟩
          unfold EntryOptions.entry at entered
          split at entered
          · cases entered
            rfl
          · cases entered
      | false =>
          obtain ⟨_, _, -, ran⟩ := returned_bind returned
          exact induction ran

/-! ## The environment of the delegate -/

/-- A launch whose environment is the parent's, except that a token is passed on if there is one. -/
def Launch.PassesOn (token : String) (parent : Environment) (request : Launch) : Prop :=
  if token = "" then request.environment = none
  else ∃ environment, request.environment = some environment ∧
    environment.lookup tokenVariable = some token ∧
    ∀ name, name ≠ tokenVariable → environment.lookup name = parent.lookup name

theorem Delegate.passesOn (arguments : List (Given String)) (token : String)
    (parent : Environment) :
    Launch.PassesOn token parent ⟨arguments, environmentFor token parent, false⟩ := by
  unfold Launch.PassesOn environmentFor
  split
  · rfl
  · exact ⟨_, rfl, lookup_assign_self _ _ _, fun _ differs => lookup_assign_of_ne differs _ _⟩

theorem World.Climb.environment {stages : List Stage} {before after : World}
    (climbed : Climb stages before after) : after.environment = before.environment := by
  obtain ⟨trace, led, -⟩ := climbed
  exact led.environment

namespace Effect

variable {α β : Type} {token : String} {stages : List Stage}

/-- An effect that launches at most one delegate, which a token is passed on to. -/
def DelegatesOnce (token : String) (action : Effect α) : Prop :=
  ∀ world : World, (action.run world).2.delegations = world.delegations ∨
    ∃ request, (action.run world).2.delegations = world.delegations ++ [request] ∧
      request.PassesOn token world.environment

theorem Climbs.bind_delegatesOnce {action : Effect α} {next : α → Effect β}
    (first : Climbs stages action) (undelegated : .delegate ∉ stages)
    (rest : ∀ value, DelegatesOnce token (next value)) : DelegatesOnce token (action >>= next) := by
  intro world
  have climbed := first world
  rw [run_bind]
  rcases ran : action.run world with ⟨failure | value, later⟩ <;> rw [ran] at climbed
  · exact .inl (climbed.delegations undelegated)
  · rw [← climbed.delegations undelegated, ← climbed.environment]
    exact rest value later

/-- What does nothing of any stage may come before a delegate. -/
theorem Climbs.before_delegatesOnce {action : Effect α} {next : α → Effect β}
    (first : Climbs [] action) (rest : ∀ value, DelegatesOnce token (next value)) :
    DelegatesOnce token (action >>= next) :=
  first.bind_delegatesOnce (by simp) rest

theorem DelegatesOnce.bind {action : Effect α} {next : α → Effect β}
    (first : DelegatesOnce token action) (rest : ∀ value, Climbs [] (next value)) :
    DelegatesOnce token (action >>= next) := by
  intro world
  have delegated := first world
  rw [run_bind]
  rcases ran : action.run world with ⟨failure | value, later⟩ <;> rw [ran] at delegated
  · exact delegated
  · simp only
    rwa [(rest value later).delegations (by simp)]

theorem delegatesOnce_run (program : String) (arguments : List (Given String)) :
    DelegatesOnce token (Delegate.run program arguments token) := by
  refine (climbs_log _ _).before_delegatesOnce fun _ world => .inr ?_
  refine ⟨_, ?_, Delegate.passesOn (.value program :: arguments) token world.environment⟩
  have launched : (world.afterLaunch ⟨.value program :: arguments,
      Delegate.environmentFor token world.environment, false⟩).delegations =
        world.delegations ++ [⟨.value program :: arguments,
          Delegate.environmentFor token world.environment, false⟩] := by
    rw [World.delegations, World.launches_afterLaunch, List.filter_append, World.delegations]
    rfl
  simp only [run_bind, run_get, run_reword, run_launch]
  cases (world.reply _).outcome with
  | error failure => exact launched
  | ok status =>
      simp only [Except.mapError]
      split <;> exact launched

end Effect

namespace Pipeline

theorem delegatesOnce_run (configuration : Configuration) (invocation : String) :
    DelegatesOnce (configuration.token.getD "") (run configuration invocation) := by
  have specifies := climbs_specify configuration.connection.climbs_connect (List.Subset.refl _)
  refine specifies.bind_delegatesOnce (by decide) fun specification =>
    (Specification.climbs_store _ _).bind_delegatesOnce (by decide) fun path =>
      (climbs_log _ _).before_delegatesOnce fun _ => ?_
  have delegates : DelegatesOnce (configuration.token.getD "")
      (delegate configuration invocation) :=
    climbs_get.before_delegatesOnce fun _ =>
      (climbs_ofExcept _).before_delegatesOnce fun program =>
        (climbs_ofExcept _).before_delegatesOnce fun arguments =>
          Effect.delegatesOnce_run program arguments
  exact delegates.bind fun _ => climbs_pure _

/-- Every entry that a run makes names the variable that the delegate finds the token under, or none
if there is no token. -/
theorem passwordVariable?_of_returned {configuration : Configuration} {world after : World}
    {specification : Specification}
    (returned : (specify configuration).run world = (.ok specification, after)) :
    ∀ entry ∈ specification.repositories, entry.passwordVariable? =
      if configuration.token.getD "" = "" then none else some (.string tokenVariable) := by
  obtain ⟨_, _, -, returned⟩ := returned_bind returned
  obtain ⟨_, _, -, returned⟩ := returned_bind returned
  obtain ⟨_, _, -, returned⟩ := returned_bind returned
  obtain ⟨_, _, -, returned⟩ := returned_bind returned
  obtain ⟨made, _, entered, last⟩ := returned_bind returned
  cases last
  intro entry among
  rw [RepositoryEntry.passwordVariable?_eq
    (Specification.cloneOptions_of_returned entered entry among)]
  by_cases anonymous : configuration.token.getD "" = "" <;>
    simp [Configuration.entryOptions, passwordVariableFor, anonymous, tokenVariable]

/-- Two runs cannot be told apart but by the tokens that their clients and delegates are given. -/
structure Indistinct {Result : Type} (first second : String)
    (one other : Except Failure Result × World) : Prop where
  /-- They end in the same way. -/
  outcome : one.1 = other.1
  /-- They leave the same files. -/
  files : one.2.files = other.2.files
  /-- They emit the same records. -/
  records : one.2.records = other.2.records
  /-- They ask for the same pages. -/
  requests : one.2.requests = other.2.requests
  /-- They print the same. -/
  output : one.2.output = other.2.output
  /-- They launch the same programs, whose environments differ at most in the token. -/
  launches : List.Forall₂ (Launch.Twins first second) one.2.launches other.2.launches
  /-- Nothing else happens that differs in more than the token of a client or of a delegate. -/
  worlds : World.Twins first second one.2 other.2

theorem indistinct_of_paired {Result : Type} {first second : String} {left right : Effect Result}
    (paired : Paired (World.Twins first second) left right) {one other : World}
    (twins : World.Twins first second one other) :
    Indistinct first second (left.run one) (right.run other) := by
  obtain ⟨outcome, later⟩ := paired one other twins
  exact ⟨outcome, later.files, later.records, later.requests, later.output, later.launches, later⟩

/-- Runs with different tokens, in worlds that differ in the token at most, cannot be told apart but
by what their clients and delegates are told; with a logger of its own or without. In every run the
entries name the variable that the delegate finds the token under, and the environment of the
delegate is otherwise the parent's; without a token no entry names a variable and the environment is
inherited. -/
theorem run_hides_token (configuration : Configuration) (invocation : String) :
    (∀ first second one other, first ≠ "" → second ≠ "" → World.Twins first second one other →
      Indistinct first second
        ((run { configuration with token := .value first } invocation).run one)
        ((run { configuration with token := .value second } invocation).run other) ∧
      Indistinct first second
        ((Program.runConfigured { configuration with token := .value first } invocation).run one)
        ((Program.runConfigured { configuration with token := .value second } invocation).run
          other)) ∧
    (∀ world after specification,
      (specify configuration).run world = (.ok specification, after) →
      ∀ entry ∈ specification.repositories, entry.passwordVariable? =
        if configuration.token.getD "" = "" then none else some (.string tokenVariable)) ∧
    ∀ world, let after := ((run configuration invocation).run world).2
      after.delegations = world.delegations ∨
        ∃ request, after.delegations = world.delegations ++ [request] ∧
          request.PassesOn (configuration.token.getD "") world.environment :=
  ⟨fun _ _ _ _ toldFirst toldSecond twins =>
      ⟨indistinct_of_paired
        (World.Twins.paired_run configuration toldFirst toldSecond invocation) twins,
      indistinct_of_paired
        (World.Twins.paired_runConfigured configuration toldFirst toldSecond invocation) twins⟩,
    fun _ _ _ returned => passwordVariable?_of_returned returned,
    delegatesOnce_run configuration invocation⟩

/-- A run over one project, whose entry names the variable, with two tokens. -/
theorem run_hides_token_rehearsed :
    let configuration := { Configuration.initial "secret" with
      specificationPath := "specification.json", fetchReindex := some "fetch" }
    let world := Rehearsal.world [("COLUMNS", "80"), ("GITLAB_TOKEN", "stale")] []
      [⟨[.object [("path_with_namespace", .string "g/project")]], none⟩]
    "secret" ≠ "" ∧ "changed" ≠ "" ∧ World.Twins "secret" "changed" world world ∧
      Indistinct "secret" "changed"
        ((run { configuration with token := .value "secret" } "").run world)
        ((run { configuration with token := .value "changed" } "").run world) ∧
      ∃ specification after, (specify configuration).run world = (.ok specification, after) ∧
        specification.repositories.length = 1 ∧
        ∀ entry ∈ specification.repositories,
          entry.passwordVariable? = some (.string tokenVariable) := by
  intro configuration world
  have twins : World.Twins "secret" "changed" world world :=
    World.Twins.refl world fun _ _ _ _ _ _ _ alike => by cases alike <;> rfl
  have hides := run_hides_token configuration ""
  have single : ((specify configuration).run world).1.toOption.map
      (fun specification => specification.repositories.length) = some 1 := by
    decide +kernel
  refine ⟨by decide, by decide, twins,
    (hides.1 "secret" "changed" world world (by decide) (by decide) twins).1, ?_⟩
  rcases ran : (specify configuration).run world with ⟨failure | specification, after⟩
  · rw [ran] at single
    cases single
  · rw [ran] at single
    exact ⟨specification, after, rfl, Option.some.inj single,
      hides.2.1 world after specification ran⟩

end Pipeline

end RepoCatalog
