import RepoCatalog.Proofs.Pairing
import RepoCatalog.Proofs.Pipeline.Atomicity

/-!
# Two runs side by side

A relation between worlds that the primitive parts of two runs keep is kept by connecting, and by
all that is done with the repositories once they are discovered. One that does not depend on how
files and loggers are set up is kept by setting up the logger of a run.
-/

namespace RepoCatalog

open Effect

/-- Selecting does nothing but record. -/
theorem Selection.paired_select {alike : World → World → Prop}
    (logs : ∀ level message, Paired alike (log level message) (log level message))
    (policy : Policy) (repositories : List Repository) :
    Paired alike (Selection.select policy repositories)
      (Selection.select policy repositories) := by
  induction repositories with
  | nil => exact paired_pure []
  | cons repository repositories induction =>
      rw [Selection.select]
      split
      · exact induction.bind fun _ => paired_pure _
      · exact (logs _ _).bind fun _ => induction
      · exact induction
      · exact paired_throw _

/-- Configurations that differ at most in the token and in how projects are listed. -/
def Configuration.Resembles (left right : Configuration) : Prop :=
  ∃ token groups perPage,
    right = { left with token := token, groups := groups, perPage := perPage }

/-- A relation between worlds that is kept by the primitive parts of two runs, listing aside, until
the delegates are launched; these leave worlds of which a weaker one holds. -/
structure RunsKeep (left right : Configuration) (alike parted : World → World → Prop) : Prop where
  /-- The configurations are the same but for the token and the listing. -/
  resembles : left.Resembles right
  /-- Both have a token or none has. -/
  anonymous : left.token.getD "" = "" ↔ right.token.getD "" = ""
  /-- The environment is the same. -/
  environment : ∀ one other, alike one other → one.environment = other.environment
  /-- The same paths lead to something that can be started. -/
  usable : ∀ one other, alike one other →
    Search.isUsable one.files = Search.isUsable other.files
  /-- Records keep the relation. -/
  log : ∀ level message, Paired alike (log level message) (log level message)
  /-- Clients are refused for the same reason. -/
  refusal : ∀ one other, alike one other → one.server.refusal = other.server.refusal
  /-- Clients are rejected for the same reason. -/
  rejection : ∀ one other, alike one other → one.server.rejection = other.server.rejection
  /-- Noting the clients keeps it. -/
  connected : ∀ address proxy, Paired alike
    (note (.connected (left.connection.settings address proxy)))
    (note (.connected (right.connection.settings address proxy)))
  /-- Noting an authentication keeps it. -/
  authenticated : Paired alike (note .authenticated) (note .authenticated)
  /-- Checks of revisions keep it. -/
  check : ∀ root path revision, Paired alike
    (launch (Revision.checkLaunch root path revision))
    (launch (Revision.checkLaunch root path revision))
  /-- Preparing a directory keeps it. -/
  prepare : ∀ directory, Paired alike (Specification.prepareDirectory directory)
    (Specification.prepareDirectory directory)
  /-- Opening a file keeps it. -/
  clear : ∀ path, Paired alike (Specification.clearFile path) (Specification.clearFile path)
  /-- Writing a text keeps it. -/
  fill : ∀ path place text, Paired alike (Specification.fillFile path place text)
    (Specification.fillFile path place text)
  /-- The other relation is weaker. -/
  weaker : ∀ one other, alike one other → parted one other
  /-- Launching the delegates leaves worlds of which that holds. -/
  delegate : ∀ arguments environment, Parts alike parted
    (launch ⟨arguments, Delegate.environmentFor (left.token.getD "") environment, false⟩)
    (launch ⟨arguments, Delegate.environmentFor (right.token.getD "") environment, false⟩)

namespace RunsKeep

variable {left right : Configuration} {alike parted : World → World → Prop}

/-! ## Connecting -/

theorem construct (kept : RunsKeep left right alike parted) (address : String)
    (proxy : Option String) :
    Paired alike (Connection.construct (left.connection.settings address proxy))
      (Connection.construct (right.connection.settings address proxy)) := by
  refine (kept.connected address proxy).bind fun _ => paired_get fun one other related => ?_
  rw [← kept.refusal one other related]
  split
  · exact paired_throw _
  · exact paired_pure ()

theorem authenticate (kept : RunsKeep left right alike parted) (address : String) :
    Paired alike (Connection.authenticate address) (Connection.authenticate address) := by
  refine kept.authenticated.bind fun _ => paired_get fun one other related => ?_
  rw [← kept.rejection one other related]
  split
  · exact paired_throw _
  · exact kept.log _ _

theorem setUp (kept : RunsKeep left right alike parted) :
    Paired alike left.connection.setUp right.connection.setUp := by
  have construct := kept.construct
  obtain ⟨token, groups, perPage, rfl⟩ := kept.resembles
  refine (paired_ofExcept _).bind fun address => (kept.log _ _).bind fun _ =>
    (paired_ofExcept _).bind fun proxy => ?_
  have last := ((construct address proxy).reword Failure.isRemote .clientUnavailable).bind
    fun _ => paired_pure address
  by_cases trusting : (!left.connection.verifies) = true
  · have same : (!{ left with token, groups, perPage }.connection.verifies) = true := trusting
    simp only [trusting, same, if_true]
    exact (kept.log _ _).bind fun _ => last
  · have same : ¬ (!{ left with token, groups, perPage }.connection.verifies) = true := trusting
    simp only [trusting, same]
    exact last

theorem logIn (kept : RunsKeep left right alike parted) (address : String) :
    Paired alike (left.connection.logIn address) (right.connection.logIn address) := by
  refine Paired.reword ?_ _ _
  have anonymous : left.connection.token = "" ↔ right.connection.token = "" := kept.anonymous
  by_cases told : left.connection.token = ""
  · simp only [told, anonymous.mp told, ne_eq, not_true_eq_false, if_false]
    exact paired_pure ()
  · simp only [told, mt anonymous.mpr told, ne_eq, not_false_eq_true, if_true]
    exact kept.authenticate address

theorem connect (kept : RunsKeep left right alike parted) :
    Paired alike left.connection.connect right.connection.connect := by
  rw [Connection.connect_eq, Connection.connect_eq]
  exact kept.setUp.bind kept.logIn

/-! ## Making a specification -/

theorem choose (kept : RunsKeep left right alike parted) (policy : Policy)
    (discovered : List Repository) :
    Paired alike (Pipeline.choose policy discovered) (Pipeline.choose policy discovered) :=
  (Selection.paired_select kept.log policy discovered).bind fun _ => paired_ofExcept _

theorem isPresent (kept : RunsKeep left right alike parted) (root path : String)
    (revision : Given String) :
    Paired alike (Revision.isPresent root path revision)
      (Revision.isPresent root path revision) := by
  refine ((kept.check root path revision).bind fun _ => paired_pure _).tryCatch fun failure => ?_
  split
  · exact (kept.log _ _).bind fun _ => paired_pure _
  · exact paired_throw failure

theorem passes (kept : RunsKeep left right alike parted) (checkRoot : Option (Given String))
    (path : String) (revision : Given String) :
    Paired alike (Specification.passes checkRoot path revision)
      (Specification.passes checkRoot path revision) := by
  rcases checkRoot with _ | root | _
  · exact paired_pure true
  · exact kept.isPresent root path revision
  · exact paired_throw _

theorem entries (kept : RunsKeep left right alike parted) (options : EntryOptions)
    (checkRoot : Option (Given String)) (repositories : List Repository) :
    Paired alike (Specification.entries options checkRoot repositories)
      (Specification.entries options checkRoot repositories) := by
  induction repositories with
  | nil => exact paired_pure []
  | cons repository repositories induction =>
      refine (paired_ofExcept _).bind fun entry => (kept.passes _ _ _).bind fun passed => ?_
      cases passed with
      | true => exact induction.bind fun _ => paired_pure _
      | false => exact (kept.log _ _).bind fun _ => induction

/-- The token is named in the entries only by whether there is one. -/
theorem entryOptions (kept : RunsKeep left right alike parted) :
    left.entryOptions = right.entryOptions := by
  have password : passwordVariableFor (left.token.getD "") =
      passwordVariableFor (right.token.getD "") := by
    simp only [passwordVariableFor, kept.anonymous]
  obtain ⟨token, groups, perPage, rfl⟩ := kept.resembles
  simp only [Configuration.entryOptions, password]

theorem building (kept : RunsKeep left right alike parted) (chosen : List Repository) :
    Paired alike
      (Specification.build (left.name.getD "") left.entryOptions left.checkRoot chosen)
      (Specification.build (right.name.getD "") right.entryOptions right.checkRoot chosen) := by
  rw [← kept.entryOptions]
  obtain ⟨token, groups, perPage, rfl⟩ := kept.resembles
  exact (kept.entries _ _ chosen).bind fun _ => paired_pure _

theorem choosing (kept : RunsKeep left right alike parted) (policy : Policy)
    (discovered : List Repository) :
    Paired alike (Pipeline.choosing left policy discovered)
      (Pipeline.choosing right policy discovered) :=
  (kept.choose policy discovered).bind kept.building

/-! ## Storing and delegating -/

theorem store (kept : RunsKeep left right alike parted) (specification : Specification) (path : String) :
    Paired alike (specification.store path) (specification.store path) :=
  (kept.prepare _).bind fun _ => (paired_ofExcept _).bind fun text =>
    ((kept.clear _).bind fun place => kept.fill _ place text).bind fun _ => paired_pure _

theorem delegateProgram (kept : RunsKeep left right alike parted) {one other : World}
    (related : alike one other) (invocation : String) :
    left.delegateProgram one.files invocation = right.delegateProgram other.files invocation := by
  have usable := kept.usable one other related
  obtain ⟨token, groups, perPage, rfl⟩ := kept.resembles
  simp only [Configuration.delegateProgram, locate, usable]

theorem delegating (kept : RunsKeep left right alike parted) (program : String)
    (arguments : List (Given String)) :
    Parts alike parted (Delegate.run program arguments (left.token.getD ""))
      (Delegate.run program arguments (right.token.getD "")) := by
  refine (kept.log _ _).parts kept.weaker fun _ => parts_get fun one other related => ?_
  rw [← kept.environment one other related]
  refine ((kept.delegate _ one.environment).reword _ _).after fun status => ?_
  split
  · exact paired_throw _
  · exact paired_pure ()

theorem finishing (kept : RunsKeep left right alike parted) (invocation : String)
    (specification : Specification) :
    Parts alike parted (Pipeline.finishing left invocation specification)
      (Pipeline.finishing right invocation specification) := by
  have delegates : Parts alike parted (Pipeline.delegate left invocation)
      (Pipeline.delegate right invocation) := by
    refine parts_get fun one other related => ?_
    rw [kept.delegateProgram related invocation]
    refine (paired_ofExcept _).parts kept.weaker fun program => ?_
    have arguments : left.delegateOptions = right.delegateOptions := by
      obtain ⟨token, groups, perPage, rfl⟩ := kept.resembles
      rfl
    rw [arguments]
    exact (paired_ofExcept _).parts kept.weaker fun _ => kept.delegating program _
  have path : left.specificationPath = right.specificationPath := by
    obtain ⟨token, groups, perPage, rfl⟩ := kept.resembles
    rfl
  rw [Pipeline.finishing, Pipeline.finishing, path]
  exact (kept.store specification _).parts kept.weaker fun _ =>
    (kept.log _ _).parts kept.weaker fun _ => delegates.after fun _ => paired_pure specification

end RunsKeep

/-! ## Listing -/

/-- A relation between worlds that is kept by records and by listing pages. -/
structure ListingKeeps (alike : World → World → Prop) : Prop where
  /-- The environment is the same. -/
  environment : ∀ one other, alike one other → one.environment = other.environment
  /-- The server gives the same answers. -/
  answers : ∀ one other, alike one other → one.server.answers = other.server.answers
  /-- The moment is the same. -/
  clock : ∀ one other, alike one other → one.clock = other.clock
  /-- Records keep the relation. -/
  log : ∀ level message, Paired alike (log level message) (log level message)
  /-- Asking for a page keeps it. -/
  listPage : ∀ request,
    Paired alike (Discovery.listPage request) (Discovery.listPage request)

namespace ListingKeeps

variable {alike : World → World → Prop}

theorem sweepFrom (kept : ListingKeeps alike) (request : Int → PageRequest) (fuel : Nat)
    (number : Int) (found : List Repository) :
    Paired alike (Discovery.sweepFrom request fuel number found)
      (Discovery.sweepFrom request fuel number found) := by
  induction fuel generalizing number found with
  | zero => exact paired_pure found
  | succ fuel induction =>
      refine (kept.listPage _).bind fun page => (paired_ofExcept _).bind fun _ => ?_
      cases page.next? with
      | none => exact paired_pure _
      | some next => exact induction next _

theorem sweep (kept : ListingKeeps alike) (label : String) (request : Int → PageRequest) :
    Paired alike (Discovery.sweep label request) (Discovery.sweep label request) := by
  refine paired_get fun one other related => ?_
  rw [← kept.environment one other related, ← kept.answers one other related]
  exact (paired_ofExcept _).bind fun _ => (kept.sweepFrom _ _ _ _).bind fun _ =>
    (kept.log _ _).bind fun _ => paired_pure _

theorem sweepGroups (kept : ListingKeeps alike) (perPage : Given Int)
    (groups : List ProjectGroup) :
    Paired alike (Discovery.sweepGroups perPage groups)
      (Discovery.sweepGroups perPage groups) := by
  induction groups with
  | nil => exact paired_pure []
  | cons group groups induction =>
      exact (kept.sweep _ _).bind fun _ => induction.bind fun _ => paired_pure _

theorem discover (kept : ListingKeeps alike) (groups : List ProjectGroup) (perPage : Given Int)
    (archived : Option Bool) :
    Paired alike (Discovery.discover groups perPage archived)
      (Discovery.discover groups perPage archived) := by
  have sweeps : Paired alike (Discovery.sweepAll groups perPage archived)
      (Discovery.sweepAll groups perPage archived) := by
    unfold Discovery.sweepAll
    split
    · exact kept.sweep _ _
    · exact kept.sweepGroups perPage groups
  refine (sweeps.reword _ _).bind fun found => paired_get fun one other related => ?_
  rw [← kept.clock one other related]
  exact (kept.log _ _).bind fun _ => paired_pure found

end ListingKeeps

/-! ## Setting up the logger -/

namespace Journal

/-- A relation between worlds that share what a logger is set up from, and go on to share it. -/
structure SetUpKeeps (alike : World → World → Prop) : Prop where
  /-- Files are the same. -/
  files : ∀ one other, alike one other → one.files = other.files
  /-- The environment is the same. -/
  environment : ∀ one other, alike one other → one.environment = other.environment
  /-- The loggers are the same. -/
  journal : ∀ one other, alike one other → one.journal = other.journal
  /-- The same files may replace those of both. -/
  withFiles : ∀ one other files, alike one other →
    alike { one with files := files } { other with files := files }
  /-- The same loggers may replace those of both. -/
  withJournal : ∀ one other journal, alike one other →
    alike { one with journal := journal } { other with journal := journal }

variable {alike : World → World → Prop}

theorem SetUpKeeps.openFile (kept : SetUpKeeps alike) (file : String) :
    Paired alike (openFile file) (openFile file) := by
  refine paired_get fun one other related => ?_
  have files := kept.files one other related
  have settled : settlePath one.files one.environment file =
      settlePath other.files other.environment file := by
    rw [files, kept.environment one other related]
  rw [settled]
  refine (paired_ofExcept _).bind fun path => ?_
  have placed : ∀ files, Paired alike (set { one with files := files } : Effect Unit)
      (set { other with files := files }) :=
    fun files _ _ _ => ⟨rfl, kept.withFiles one other files related⟩
  have made : one.files.ensureDirectory path.parent = other.files.ensureDirectory path.parent := by
    rw [files]
  rw [made]
  rcases other.files.ensureDirectory path.parent with ⟨files, problem⟩
  dsimp only
  refine (placed files).bind fun _ => ?_
  cases problem with
  | some error => exact paired_throw _
  | none =>
      dsimp only
      cases files.openFile false path.text with
      | error fault => exact paired_throw _
      | ok opened => exact (placed opened.1).bind fun _ => paired_pure opened.2

theorem SetUpKeeps.addHandler (kept : SetUpKeeps alike) (name : String) (handler : Handler) :
    Paired alike (addHandler name handler) (addHandler name handler) := by
  refine paired_modify fun one other related => ?_
  simp only
  rw [← kept.journal one other related]
  exact kept.withJournal one other _ related

theorem SetUpKeeps.build (kept : SetUpKeeps alike) (options : LoggerOptions) :
    Paired alike (build options) (build options) := by
  have renewed : ∀ name logger, Paired alike
      (modify fun world => { world with journal := world.journal.put name logger } : Effect Unit)
      (modify fun world => { world with journal := world.journal.put name logger }) := by
    refine fun name logger => paired_modify fun one other related => ?_
    rw [← kept.journal one other related]
    exact kept.withJournal one other _ related
  unfold Journal.build
  refine (renewed _ _).bind fun _ => ?_
  have handled : ∀ outlet, Paired alike
      (Journal.addHandler (properName options.name) (options.handler outlet))
      (Journal.addHandler (properName options.name) (options.handler outlet)) :=
    fun outlet => kept.addHandler _ _
  dsimp only
  split
  · exact paired_throw (.badFormat options.layout)
  · refine (handled _).bind fun _ => ?_
    split
    · exact paired_pure _
    · split
      · exact paired_pure _
      · exact (kept.openFile _).bind fun place => (handled _).bind fun _ => paired_pure _

end Journal

end RepoCatalog
