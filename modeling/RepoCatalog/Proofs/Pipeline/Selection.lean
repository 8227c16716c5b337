import RepoCatalog.Proofs.Discovery.Course
import RepoCatalog.Proofs.Pipeline.Stages
import RepoCatalog.Proofs.Selection.Stable
import RepoCatalog.Rehearsal

/-!
# What a run selects

The entries of a specification are those of the listed project records that no rule leaves out, in
stable order of their paths. The rules and the entries are stated of the records themselves.
-/

namespace RepoCatalog

/-- A launcher whose outcomes depend on the arguments of a launch only. -/
def Launcher.AnswersBy (launcher : Launcher)
    (answer : List (Given String) → Except Failure Int) : Prop :=
  ∀ earlier files environment request,
    (launcher.reply earlier files environment request).outcome = answer request.arguments

/-! ## Project records -/

namespace Project

/-- Path of a project, with its namespace. -/
def path (record : Json) : String :=
  ((record.field? "path_with_namespace").bind Json.text?).getD ""

/-- A member of a record; one that does not count as true is an empty text. -/
def member (name : String) (record : Json) : Json :=
  ((record.field? name).getD .null).orEmpty

/-- Whether a record says what its project was forked from. -/
def isFork (record : Json) : Bool :=
  match record.field? "forked_from_project" with
  | some (.object members) => !members.isEmpty
  | _ => false

/-- A record as a listing gives it: an object with a path, and with an object or nothing for what
the project was forked from. -/
structure IsListed (record : Json) : Prop where
  /-- It is an object. -/
  isObject : ∃ members, record = .object members
  /-- Its path is a text. -/
  isNamed : ∃ path, record.field? "path_with_namespace" = some (.string path)
  /-- What it was forked from is absent, null or an object. -/
  hasParent : record.field? "forked_from_project" = none ∨
    record.field? "forked_from_project" = some .null ∨
    ∃ members, record.field? "forked_from_project" = some (.object members)

/-- Entry of a project. -/
def entry (configuration : Configuration) (record : Json) : RepositoryEntry :=
  { path := joinPath (configuration.directory.getD "") (path record)
    name := path record
    revisions := [configuration.revision]
    metadata := some
      { github := member "web_url" record
        remote :=
          member (if configuration.http then "http_url_to_repo" else "ssh_url_to_repo") record
        urlPattern := configuration.urlPattern.getD "" }
    cloneOptions := some
      { depth := configuration.depth.getD 0
        username := configuration.httpUser.getD ""
        passwordVariable := if configuration.token.getD "" = "" then "" else "GITLAB_TOKEN" } }

/-- Lines of the file that names the paths to leave out. -/
def ignoredPaths (files : FileTree) (configuration : Configuration) : List String :=
  let path := (configuration.ignoreList.bind Given.toOption).getD ""
  if path = "" then []
  else
    match files.contentOf (FilePath.ofString path).text with
    | .error _ => []
    | .ok content =>
      match Text.decodeUtf8 content with
      | .error _ => []
      | .ok text => (Text.split '\n' text).map String.ofList

/-- Whether git finds the revision in the clone of a project. -/
def hasRevision (answer : List (Given String) → Except Failure Int) (configuration : Configuration)
    (record : Json) : Bool :=
  let clone := joinPath (configuration.directory.getD "") (path record)
  match answer (["git", "--git-dir", clone, "rev-parse", "--verify"].map .value
    ++ [configuration.revision]) with
  | .ok status => status == 0
  | .error _ => false

/-- Whether no rule leaves a project out. -/
def survives (answer : List (Given String) → Except Failure Int) (files : FileTree)
    (configuration : Configuration) (record : Json) : Bool :=
  (configuration.forks || !isFork record)
    && !(ignoredPaths files configuration).contains (path record)
    && (!configuration.skipMissing || hasRevision answer configuration record)

/-- The repository that a listed record describes. -/
def repository (record : Json) : Repository :=
  { path := .string (path record)
    sshAddress := member "ssh_url_to_repo" record
    httpAddress := member "http_url_to_repo" record
    webAddress := member "web_url" record
    forkedFrom :=
      if isFork record then
        some ((Repository.parentName (Repository.memberOf "forked_from_project" record)).toOption.getD
          .null)
      else none
    archived := (Repository.memberOf "archived" record).isTruthy }

theorem forkedFrom_of_isListed {record : Json} {forkedFrom : Option Json}
    (listed : IsListed record) (parent : Repository.forkParent record = .ok forkedFrom) :
    forkedFrom = (repository record).forkedFrom := by
  rcases listed.hasParent with absent | null | ⟨members, found⟩
  · have unforked : Repository.forkParent record = .ok (repository record).forkedFrom := by
      simp [Repository.forkParent, Repository.memberOf, repository, isFork, absent, Json.isTruthy]
    exact Except.ok.inj (parent.symm.trans unforked)
  · have unforked : Repository.forkParent record = .ok (repository record).forkedFrom := by
      simp [Repository.forkParent, Repository.memberOf, repository, isFork, null, Json.isTruthy]
    exact Except.ok.inj (parent.symm.trans unforked)
  · have member : Repository.memberOf "forked_from_project" record = .object members := by
      rw [Repository.memberOf, found, Option.getD_some]
    rw [Repository.forkParent, member] at parent
    cases members with
    | nil => simpa [repository, isFork, found] using (Except.ok.inj parent).symm
    | cons first members =>
        cases named : Repository.parentName (.object (first :: members)) with
        | error failure =>
            simp only [named] at parent
            cases parent
        | ok name =>
            simp only [named] at parent
            simpa [repository, isFork, found, member, named, Except.toOption] using
              (Except.ok.inj parent).symm

/-- A listed record that is accepted describes its repository. -/
theorem repository_of_ofRecord {record : Json} {found : Repository} (listed : IsListed record)
    (described : Repository.ofRecord record = .ok found) : found = repository record := by
  have parent := @forkedFrom_of_isListed record
  obtain ⟨members, rfl⟩ := listed.isObject
  obtain ⟨path, named⟩ := listed.isNamed
  have known : members.lookup Repository.pathField = some (.string path) := named
  unfold Repository.ofRecord at described
  cases forked : Repository.forkParent (.object members) with
  | error failure =>
      simp only [forked] at described
      cases described
  | ok forkedFrom =>
      simp only [forked, known, Except.ok.injEq] at described
      subst described
      rw [parent listed forked]
      simp [repository, Project.path, Project.member, Repository.memberOf, named, Json.text?]

theorem repositories_of_described {records : List Json} {found : List Repository}
    (listed : ∀ record ∈ records, IsListed record)
    (described : records.map Repository.ofRecord = found.map .ok) :
    found = records.map repository := by
  induction records generalizing found with
  | nil => exact List.map_eq_nil_iff.mp described.symm
  | cons record records induction =>
      cases found with
      | nil => cases described
      | cons first found =>
          obtain ⟨here, later⟩ := List.cons.inj described
          rw [List.map_cons, repository_of_ofRecord (listed record List.mem_cons_self) here,
            induction (fun other among => listed other (List.mem_cons_of_mem record among)) later]

end Project

/-! ## The rules -/

/-- What an ignore list that can be read holds. -/
theorem IgnoreList.load_eq_ok {files : FileTree} {path : String} {paths : List String}
    (loaded : IgnoreList.load files path = .ok paths) :
    ∃ content text, files.contentOf (FilePath.ofString path).text = .ok content ∧
      Text.decodeUtf8 content = .ok text ∧ paths = (Text.split '\n' text).map String.ofList := by
  have plain : hasNull (FilePath.ofString path).text = false := by
    cases null : hasNull (FilePath.ofString path).text with
    | false => rfl
    | true => simp [IgnoreList.load, IgnoreList.readFile, null] at loaded
  cases found : files.contentOf (FilePath.ofString path).text with
  | error fault => simp [IgnoreList.load, IgnoreList.readFile, plain, found] at loaded
  | ok content =>
      cases decoded : Text.decodeUtf8 content with
      | error malformed =>
          simp [IgnoreList.load, IgnoreList.readFile, IgnoreList.parse, plain, found, decoded,
            Except.map] at loaded
      | ok text =>
          simp only [IgnoreList.load, IgnoreList.readFile, IgnoreList.parse, plain, found, decoded,
            Bool.false_eq_true, if_false, Except.map, Except.ok.injEq] at loaded
          exact ⟨content, text, rfl, decoded, loaded.symm⟩

namespace Configuration

theorem policy_of_ok {files : FileTree} {configuration : Configuration} {policy : Policy}
    (read : configuration.policy files = .ok policy) :
    policy.excludesForks = !configuration.forks ∧
      policy.excludesArchived = !configuration.archived ∧
      policy.ignored.getD [] = Project.ignoredPaths files configuration := by
  unfold Configuration.policy at read
  unfold Project.ignoredPaths
  by_cases unnamed : (configuration.ignoreList.bind Given.toOption).getD "" = ""
  · simp only [unnamed, if_true, Except.ok.injEq] at read ⊢
    subst read
    exact ⟨rfl, rfl, rfl⟩
  · simp only [unnamed, if_false] at read ⊢
    cases loaded : IgnoreList.load files
        ((configuration.ignoreList.bind Given.toOption).getD "") with
    | error failure => simp [loaded, Except.map] at read
    | ok paths =>
        obtain ⟨content, text, found, decoded, rfl⟩ := IgnoreList.load_eq_ok loaded
        simp only [loaded, Except.map, Except.ok.injEq] at read
        subst read
        exact ⟨rfl, rfl, by simp only [found, decoded, Option.getD_some]⟩

end Configuration

theorem Project.isFork_repository (record : Json) :
    (repository record).isFork = isFork record := by
  cases fork : isFork record <;> simp [repository, Repository.isFork, fork]

theorem Policy.ignores_repository (policy : Policy) (record : Json) :
    policy.ignores (Project.repository record) =
      (policy.ignored.getD []).contains (Project.path record) := by
  cases ignored : policy.ignored <;> simp [Policy.ignores, ignored, Project.repository]

/-- Whether a policy keeps a project. -/
def Project.isKept (policy : Policy) (record : Json) : Bool :=
  (!policy.excludesForks || !isFork record) &&
    !(policy.ignored.getD []).contains (path record)

theorem Policy.verdict_repository (policy : Policy) (record : Json) :
    policy.verdict (Project.repository record) = .keep ↔ Project.isKept policy record = true := by
  have plain : (Project.repository record).path.isContainer = false := rfl
  rw [Policy.verdict, Project.isFork_repository, policy.ignores_repository, plain, Project.isKept]
  cases policy.excludesForks <;> cases Project.isFork record <;>
    cases (policy.ignored.getD []).contains (Project.path record) <;> simp

/-! ## Running the rules -/

open Effect

/-- A selection keeps exactly what its policy keeps, in order. -/
theorem Selection.returned_select {policy : Policy} {repositories kept : List Repository}
    {world after : World}
    (returned : (Selection.select policy repositories).run world = (.ok kept, after)) :
    kept = repositories.filter fun repository => policy.verdict repository = .keep := by
  induction repositories generalizing kept world with
  | nil =>
      cases returned
      rfl
  | cons repository repositories induction =>
      rw [Selection.select] at returned
      cases verdict : policy.verdict repository with
      | keep =>
          simp only [verdict] at returned
          obtain ⟨others, middle, ran, last⟩ := returned_bind returned
          cases last
          simp [verdict, induction ran]
      | excludeFork =>
          simp only [verdict] at returned
          obtain ⟨_, middle, -, ran⟩ := returned_bind returned
          simp [verdict, induction ran]
      | ignore =>
          simp only [verdict] at returned
          simp [verdict, induction returned]
      | incomparable =>
          simp only [verdict] at returned
          cases returned

/-- The choice among listed projects is a stable sort of those that the policy keeps. -/
theorem Pipeline.returned_choose {policy : Policy} {records : List Json}
    {chosen : List Repository} {world after : World}
    (returned : (Pipeline.choose policy (records.map Project.repository)).run world =
      (.ok chosen, after)) :
    ∃ sorted, Selection.IsStableSort Project.path (records.filter (Project.isKept policy)) sorted ∧
      chosen = sorted.map Project.repository := by
  obtain ⟨selected, middle, ran, sorts⟩ := returned_bind returned
  have kept : selected = (records.filter (Project.isKept policy)).map Project.repository := by
    rw [Selection.returned_select ran, List.filter_map]
    refine congrArg _ (List.filter_congr fun record _ => ?_)
    simp [policy.verdict_repository]
  have texts : selected.all (·.path.isText) = true := by
    rw [kept]
    simp [Project.repository, Json.isText, Json.text?]
  rw [run_ofExcept, Selection.sort_of_texts texts, kept] at sorts
  have moved : ((records.filter (Project.isKept policy)).mergeSort fun first second =>
      Project.path first ≤ Project.path second).map Project.repository =
        Selection.sortByPath ((records.filter (Project.isKept policy)).map Project.repository) :=
    List.map_mergeSort fun _ _ _ _ => rfl
  cases sorts
  exact ⟨_, Selection.isStableSort_mergeSort Project.path _, moved.symm⟩

/-- A check tells whether git succeeded; git that cannot be started did not. -/
theorem Revision.run_isPresent (root path : String) (revision : Given String) (world : World) :
    (Revision.isPresent root path revision).run world =
      match (world.reply (Revision.checkLaunch root path revision)).outcome with
      | .ok status =>
        (.ok (status == 0), world.afterLaunch (Revision.checkLaunch root path revision))
      | .error failure =>
        if failure.isSystem then
          (.ok false, (world.afterLaunch (Revision.checkLaunch root path revision)).record .debug
            ("git rev-parse could not run for " ++ path ++ ": " ++ failure.message))
        else (.error failure, world.afterLaunch (Revision.checkLaunch root path revision)) := by
  simp only [Revision.isPresent, run_tryCatch, run_bind, run_launch]
  cases (world.reply (Revision.checkLaunch root path revision)).outcome with
  | ok status => rfl
  | error failure => cases system : failure.isSystem <;> simp only [system] <;> rfl

theorem Revision.returned_isPresent {answer : List (Given String) → Except Failure Int}
    {configuration : Configuration} {record : Json} {world after : World} {present : Bool}
    (determined : world.launcher.AnswersBy answer)
    (returned : (Revision.isPresent (configuration.directory.getD "") (Project.path record)
      configuration.revision).run world = (.ok present, after)) :
    present = Project.hasRevision answer configuration record := by
  have outcome : (world.reply (Revision.checkLaunch (configuration.directory.getD "")
      (Project.path record) configuration.revision)).outcome = answer _ := determined _ _ _ _
  rw [Revision.run_isPresent, outcome] at returned
  have arguments : (Revision.checkLaunch (configuration.directory.getD "") (Project.path record)
      configuration.revision).arguments =
        ["git", "--git-dir", joinPath (configuration.directory.getD "") (Project.path record),
          "rev-parse", "--verify"].map .value ++ [configuration.revision] := rfl
  rw [arguments] at returned
  unfold Project.hasRevision
  cases replied : answer (["git", "--git-dir", joinPath (configuration.directory.getD "")
      (Project.path record), "rev-parse", "--verify"].map .value ++ [configuration.revision]) with
  | ok status =>
      simp only [replied] at returned ⊢
      cases returned
      rfl
  | error failure =>
      simp only [replied] at returned ⊢
      split at returned
      · cases returned
        rfl
      · cases returned

theorem Launcher.AnswersBy.climb {answer : List (Given String) → Except Failure Int}
    {stages : List Stage} {before after : World} (determined : before.launcher.AnswersBy answer)
    (climbed : World.Climb stages before after) : after.launcher.AnswersBy answer := by
  rwa [climbed.launcher]

/-- Whether a project passes the check of its revision, if there is a check. -/
def Project.passes (answer : List (Given String) → Except Failure Int)
    (configuration : Configuration) (record : Json) : Bool :=
  !configuration.skipMissing || hasRevision answer configuration record

theorem Project.entry_repository {configuration : Configuration} {record : Json}
    {made : RepositoryEntry}
    (entered : configuration.entryOptions.entry (repository record) = .ok made) :
    configuration.directory = .value (configuration.directory.getD "") ∧
      made = entry configuration record := by
  unfold EntryOptions.entry at entered
  cases directory : configuration.directory with
  | nothing => simp [Configuration.entryOptions, directory] at entered
  | value root =>
      simp only [Configuration.entryOptions, directory, repository, Except.ok.injEq] at entered
      subst entered
      refine ⟨rfl, ?_⟩
      cases http : configuration.http <;>
        simp [entry, EntryOptions.entryAt, EntryOptions.remote, repositoryPath, directory,
          passwordVariableFor, tokenVariable, http]

theorem Specification.returned_passes {answer : List (Given String) → Except Failure Int}
    {configuration : Configuration} {record : Json} {world after : World} {passed : Bool}
    (rooted : configuration.directory = .value (configuration.directory.getD ""))
    (determined : world.launcher.AnswersBy answer)
    (returned : (Specification.passes configuration.checkRoot (Project.path record)
      configuration.revision).run world = (.ok passed, after)) :
    passed = Project.passes answer configuration record := by
  unfold Configuration.checkRoot at returned
  unfold Project.passes
  cases skips : configuration.skipMissing with
  | false =>
      simp only [skips, Bool.false_eq_true, if_false] at returned
      cases returned
      rfl
  | true =>
      rw [skips, if_pos rfl, rooted] at returned
      simpa using Revision.returned_isPresent determined returned

/-- Entries are made of the projects that pass the check, in order. -/
theorem Specification.returned_entries {answer : List (Given String) → Except Failure Int}
    {configuration : Configuration} {records : List Json} {world after : World}
    {made : List RepositoryEntry} (determined : world.launcher.AnswersBy answer)
    (returned : (Specification.entries configuration.entryOptions configuration.checkRoot
      (records.map Project.repository)).run world = (.ok made, after)) :
    made = (records.filter (Project.passes answer configuration)).map
      (Project.entry configuration) := by
  induction records generalizing made world with
  | nil =>
      cases returned
      rfl
  | cons record records induction =>
      obtain ⟨first, _, attempted, returned⟩ := returned_bind returned
      obtain ⟨entered, rfl⟩ := returned_ofExcept attempted
      obtain ⟨rooted, rfl⟩ := Project.entry_repository entered
      obtain ⟨passed, middle, checked, returned⟩ := returned_bind returned
      have determinedThere : middle.launcher.AnswersBy answer :=
        determined.climb ((climbs_passes _ _ _).of_run checked)
      have passes := returned_passes rooted determined checked
      cases passed with
      | true =>
          obtain ⟨others, _, ran, last⟩ := returned_bind returned
          cases last
          rw [List.filter_cons_of_pos passes.symm, List.map_cons, induction determinedThere ran]
      | false =>
          obtain ⟨_, later, logged, ran⟩ := returned_bind returned
          have fails : ¬ Project.passes answer configuration record = true := by simp [← passes]
          rw [List.filter_cons_of_neg fails]
          exact induction (determinedThere.climb ((climbs_log _ _).of_run logged)) ran

/-! ## The whole run -/

theorem Project.filter_survives {answer : List (Given String) → Except Failure Int}
    {files : FileTree} {configuration : Configuration} {policy : Policy}
    (read : configuration.policy files = .ok policy) (records : List Json) :
    (records.filter (isKept policy)).filter (passes answer configuration) =
      records.filter (survives answer files configuration) := by
  obtain ⟨forks, -, ignored⟩ := Configuration.policy_of_ok read
  rw [List.filter_filter]
  refine List.filter_congr fun record _ => ?_
  rw [isKept, forks, ignored, Bool.not_not, passes, survives, Bool.and_comm]

namespace Pipeline

open Discovery

/-- A discovery, as a run does it, finds what the pages of complete sweeps describe. Connecting takes
neither a page nor a launch. -/
theorem sweeps_of_returned {configuration : Configuration} {policy : Policy} {world after : World}
    {found : List Repository}
    (returned : (Pipeline.discover configuration policy).run world = (.ok found, after)) :
    ∃ sweeps, List.Forall₂ (fun target sweep => IsSweep (requestTo configuration.perPage
          (if policy.excludesArchived then some false else none) target) 1 sweep)
        (targets (configuration.groups.map .path)) sweeps ∧
      after.requests = world.requests ++ sweeps.flatten.map Exchange.request ∧
      world.server.Gives ((sweeps.flatten.map Exchange.page).map .ok) ∧
      after.launcher = world.launcher ∧
      (sweeps.flatten.flatMap fun exchange => exchange.page.records).map Repository.ofRecord =
        found.map .ok := by
  obtain ⟨_, connected, ran, returned⟩ := returned_bind returned
  have climbed := (Connection.climbs_connect _).of_run ran
  have listing := (Discovery.climbs_discover _ _ _).of_run returned
  obtain ⟨sweeps, inOrder, asked, described⟩ := sweeps_of_discover returned
  refine ⟨sweeps, inOrder, ?_, ?_, listing.launcher.trans climbed.launcher, described⟩
  · rw [asked.requests, climbed.requests (by decide), requests_of_exchanges]
  · have gives := asked.gives
    rwa [answers_of_exchanges, climbed.server (by decide)] at gives

/-- Discovery, as a run does it, finds what listed records describe. -/
theorem returned_discover {configuration : Configuration} {policy : Policy} {queue : List Page}
    {world after : World} {found : List Repository}
    (served : world.server.answers = queue.map .ok)
    (listed : ∀ page ∈ queue, ∀ record ∈ page.records, Project.IsListed record)
    (returned : (Pipeline.discover configuration policy).run world = (.ok found, after)) :
    ∃ sweeps, Sweeps (configuration.groups.map .path) configuration.perPage
        (if policy.excludesArchived then some false else none) queue sweeps ∧
      after.requests = world.requests ++ sweeps.flatten.map Exchange.request ∧
      after.launcher = world.launcher ∧
      found = (sweeps.flatten.flatMap fun exchange => exchange.page.records).map
        Project.repository := by
  obtain ⟨sweeps, inOrder, requests, gives, launcher, described⟩ := sweeps_of_returned returned
  have swept := sweeps_of_given served inOrder gives
  have all : ∀ record ∈ sweeps.flatten.flatMap fun exchange => exchange.page.records,
      Project.IsListed record := by
    rw [← List.flatMap_map Exchange.page]
    exact forall_records_of_prefixed swept.answered listed
  exact ⟨sweeps, swept, requests, launcher, Project.repositories_of_described all described⟩

/-- The specification that a run makes holds the entries of the projects that survive, in stable
order of their paths. -/
theorem returned_specify {configuration : Configuration}
    {answer : List (Given String) → Except Failure Int} {queue : List Page} {world after : World}
    {specification : Specification} (served : world.server.answers = queue.map .ok)
    (listed : ∀ page ∈ queue, ∀ record ∈ page.records, Project.IsListed record)
    (determined : world.launcher.AnswersBy answer)
    (returned : (specify configuration).run world = (.ok specification, after)) :
    ∃ sweeps sorted, Sweeps (configuration.groups.map .path) configuration.perPage
        (if configuration.archived then none else some false) queue sweeps ∧
      after.requests = world.requests ++ sweeps.flatten.map Exchange.request ∧
      Selection.IsStableSort Project.path
        ((sweeps.flatten.flatMap fun exchange => exchange.page.records).filter
          (Project.survives answer world.files configuration)) sorted ∧
      specification = ⟨configuration.name.getD "", sorted.map (Project.entry configuration)⟩ := by
  obtain ⟨_, _, got, returned⟩ := returned_bind returned
  cases got
  obtain ⟨policy, _, attempted, returned⟩ := returned_bind returned
  obtain ⟨read, rfl⟩ := returned_ofExcept attempted
  obtain ⟨discovered, middle, discovers, returned⟩ := returned_bind returned
  obtain ⟨sweeps, inOrder, requests, launcher, rfl⟩ := returned_discover served listed discovers
  obtain ⟨chosen, chose, chooses, builds⟩ := returned_bind returned
  obtain ⟨sorted, stable, rfl⟩ := returned_choose chooses
  have climbed := (climbs_choose _ _).of_run chooses
  obtain ⟨entries, last, enters, made⟩ := returned_bind builds
  cases made
  have determinedThere : chose.launcher.AnswersBy answer := by
    rwa [climbed.launcher, launcher]
  have entered := Specification.returned_entries determinedThere enters
  have checked := (Specification.climbs_entries _ _ _).of_run enters
  obtain ⟨-, archived, -⟩ := Configuration.policy_of_ok read
  refine ⟨sweeps, sorted.filter (Project.passes answer configuration), ?_, ?_, ?_, ?_⟩
  · cases included : configuration.archived <;> simpa [archived, included] using inOrder
  · rw [checked.requests (by decide), climbed.requests (by decide), requests]
  · rw [← Project.filter_survives read]
    exact stable.filter _
  · rw [entered]

/-- A run that returns has written the entries of exactly the listed projects that survive: sorted
by path, equal paths in the order in which they were listed, each as often as it was listed. -/
theorem run_selects (configuration : Configuration) (invocation : String)
    (answer : List (Given String) → Except Failure Int) (queue : List Page) (world after : World)
    (specification : Specification) (served : world.server.answers = queue.map .ok)
    (listed : ∀ page ∈ queue, ∀ record ∈ page.records, Project.IsListed record)
    (determined : world.launcher.AnswersBy answer)
    (returned : (run configuration invocation).run world = (.ok specification, after)) :
    ∃ sweeps sorted, Sweeps (configuration.groups.map .path) configuration.perPage
        (if configuration.archived then none else some false) queue sweeps ∧
      after.requests = world.requests ++ sweeps.flatten.map Exchange.request ∧
      Selection.IsStableSort Project.path
        ((sweeps.flatten.flatMap fun exchange => exchange.page.records).filter
          (Project.survives answer world.files configuration)) sorted ∧
      specification = ⟨configuration.name.getD "", sorted.map (Project.entry configuration)⟩ := by
  obtain ⟨made, specified, specifies, returned⟩ := returned_bind returned
  obtain ⟨sweeps, sorted, inOrder, requests, stable, made_eq⟩ :=
    returned_specify served listed determined specifies
  obtain ⟨path, stored, stores, returned⟩ := returned_bind returned
  obtain ⟨_, logged, logs, returned⟩ := returned_bind returned
  obtain ⟨_, delegated, delegates, returned⟩ := returned_bind returned
  cases returned
  refine ⟨sweeps, sorted, inOrder, ?_, stable, made_eq⟩
  rw [((climbs_delegate configuration invocation).of_run delegates).requests (by decide),
    ((climbs_log _ _).of_run logs).requests (by decide),
    ((Specification.climbs_store _ _).of_run stores).requests (by decide), requests]

/-- A run over two listings of one group in which a fork and an ignored project are left out. -/
theorem run_selects_rehearsed :
    let record (path : String) (members : List (String × Json)) : Json :=
      .object (("path_with_namespace", .string path) :: members)
    let queue : List Page :=
      [⟨[record "g/fork" [("forked_from_project", .object [("id", .integer 1)])]], some 7⟩,
        ⟨[record "g/kept" [("forked_from_project", .null)]], some 0⟩,
        ⟨[record "g/ignored" []], none⟩]
    let configuration : Configuration := { Configuration.initial "secret" with
      groups := ["g", "g"], ignoreList := some "ignored", forks := false, skipMissing := true,
      specificationPath := "specification.json", fetchReindex := some "fetch" }
    let world := Rehearsal.world [("COLUMNS", "80")]
      [("ignored", Text.encodeUtf8 "g/ignored\n".toList)] queue
    let answer : List (Given String) → Except Failure Int := fun _ => .ok 0
    world.server.answers = queue.map .ok ∧
      (∀ page ∈ queue, ∀ record ∈ page.records, Project.IsListed record) ∧
      world.launcher.AnswersBy answer ∧
      ∃ specification after sweeps sorted,
        (run configuration "").run world = (.ok specification, after) ∧
        Discovery.Sweeps (configuration.groups.map .path) configuration.perPage
          (if configuration.archived then none else some false) queue sweeps ∧
        after.requests = world.requests ++ sweeps.flatten.map Discovery.Exchange.request ∧
        Selection.IsStableSort Project.path
          ((sweeps.flatten.flatMap fun exchange => exchange.page.records).filter
            (Project.survives answer world.files configuration)) sorted ∧
        specification = ⟨configuration.name.getD "", sorted.map (Project.entry configuration)⟩ := by
  intro record queue configuration world answer
  have listed : ∀ page ∈ queue, ∀ record ∈ page.records, Project.IsListed record := by
    intro page queued record member
    simp only [queue, List.mem_cons, List.not_mem_nil, or_false] at queued
    rcases queued with rfl | rfl | rfl
    · obtain rfl := List.mem_singleton.mp member
      exact ⟨⟨_, rfl⟩, ⟨_, rfl⟩, .inr (.inr ⟨_, rfl⟩)⟩
    · obtain rfl := List.mem_singleton.mp member
      exact ⟨⟨_, rfl⟩, ⟨_, rfl⟩, .inr (.inl rfl)⟩
    · obtain rfl := List.mem_singleton.mp member
      exact ⟨⟨_, rfl⟩, ⟨_, rfl⟩, .inl rfl⟩
  have returns : ((run configuration "").run world).1.toOption.isSome = true := by decide +kernel
  rcases ran : (run configuration "").run world with ⟨failure | specification, after⟩
  · rw [ran] at returns
    cases returns
  · obtain ⟨sweeps, sorted, selected⟩ := run_selects configuration "" answer queue world after
      specification rfl listed (fun _ _ _ _ => rfl) ran
    exact ⟨rfl, listed, fun _ _ _ _ => rfl, specification, after, sweeps, sorted, rfl, selected⟩
end Pipeline

end RepoCatalog
