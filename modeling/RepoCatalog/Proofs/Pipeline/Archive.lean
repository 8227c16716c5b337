import RepoCatalog.Proofs.Discovery.Course
import RepoCatalog.Proofs.Pipeline.Atomicity
import RepoCatalog.Proofs.Pipeline.Selection

/-!
# Archived projects

A run that leaves archived projects out asks for the others where it lists everything, and asks for
all projects of a group. What it writes stems from the records it was answered with, so an archived
project gets into a specification through a group only.
-/

namespace RepoCatalog

open Effect Discovery

/-! ## Where repositories come from -/

/-- Sorting neither loses nor invents a repository. -/
theorem Selection.perm_of_sort {repositories sorted : List Repository}
    (sorts : Selection.sort repositories = .ok sorted) : sorted.Perm repositories := by
  unfold Selection.sort at sorts
  split at sorts
  · cases sorts
    exact sortByPath_perm repositories
  · split at sorts
    · cases sorts
      exact List.mergeSort_perm repositories noLater
    · cases sorts

/-- What is chosen was discovered. -/
theorem Pipeline.mem_of_chosen {policy : Policy} {discovered chosen : List Repository}
    {world after : World}
    (returned : (Pipeline.choose policy discovered).run world = (.ok chosen, after)) :
    ∀ repository ∈ chosen, repository ∈ discovered := by
  obtain ⟨selected, middle, ran, sorts⟩ := returned_bind returned
  obtain ⟨sorts, -⟩ := returned_ofExcept sorts
  intro repository member
  have among : repository ∈ selected := (Selection.perm_of_sort sorts).mem_iff.mp member
  rw [Selection.returned_select ran] at among
  exact (List.mem_filter.mp among).1

/-- Every entry is that of a repository. -/
theorem Specification.repository_of_entries {options : EntryOptions}
    {checkRoot : Option (Given String)} {repositories : List Repository}
    {made : List RepositoryEntry} {world after : World}
    (returned : (Specification.entries options checkRoot repositories).run world =
      (.ok made, after)) :
    ∀ entry ∈ made, ∃ repository ∈ repositories, options.entry repository = .ok entry := by
  induction repositories generalizing made world with
  | nil =>
      cases returned
      simp
  | cons repository repositories induction =>
      obtain ⟨first, _, attempted, returned⟩ := returned_bind returned
      obtain ⟨entered, rfl⟩ := returned_ofExcept attempted
      obtain ⟨passed, middle, -, returned⟩ := returned_bind returned
      have rest : ∀ {others : List RepositoryEntry} {before : World},
          (Specification.entries options checkRoot repositories).run before = (.ok others, after) →
          ∀ entry ∈ others, ∃ other ∈ repository :: repositories,
            options.entry other = .ok entry := by
        intro others before ran entry member
        obtain ⟨other, among, made⟩ := induction ran entry member
        exact ⟨other, List.mem_cons_of_mem repository among, made⟩
      cases passed with
      | true =>
          obtain ⟨others, _, ran, last⟩ := returned_bind returned
          cases last
          exact List.forall_mem_cons.mpr
            ⟨⟨repository, List.mem_cons_self, entered⟩, rest ran⟩
      | false =>
          obtain ⟨_, later, -, ran⟩ := returned_bind returned
          exact rest ran

/-! ## Where records come from -/

namespace Pipeline

/-- What a run listed between two worlds, for a choice whether archived projects are left out. -/
structure Listed (configuration : Configuration) (excludes : Bool) (exchanges : List Exchange)
    (before after : World) : Prop where
  /-- Its requests follow those made before. -/
  requests : after.requests = before.requests ++ exchanges.map Exchange.request
  /-- The server answered them. -/
  gives : before.server.Gives (exchanges.map fun exchange => .ok exchange.page)
  /-- They are for the targets of the run; only the sweep over everything is restricted. -/
  targeted : ∀ exchange ∈ exchanges, ∃ target ∈ targets (configuration.groups.map .path),
    ∃ number, exchange.request = requestTo configuration.perPage
      (if excludes then some false else none) target number

/-- What a discovery returns was described by the records it was answered with. -/
theorem listed_of_discover {configuration : Configuration} {policy : Policy} {world after : World}
    {found : List Repository}
    (returned : (Pipeline.discover configuration policy).run world = (.ok found, after)) :
    ∃ exchanges, Listed configuration policy.excludesArchived exchanges world after ∧
      ∀ repository ∈ found, ∃ exchange ∈ exchanges, ∃ record ∈ exchange.page.records,
        Repository.ofRecord record = .ok repository := by
  obtain ⟨sweeps, inOrder, requests, gives, -, described⟩ := sweeps_of_returned returned
  rw [List.map_map] at gives
  refine ⟨sweeps.flatten, ⟨requests, gives, requested_of_sweeps inOrder⟩,
    fun repository member => ?_⟩
  have among : Except.ok repository ∈ (sweeps.flatten.flatMap fun exchange =>
      exchange.page.records).map Repository.ofRecord := by
    rw [described]
    exact List.mem_map_of_mem member
  obtain ⟨record, listed, describes⟩ := List.mem_map.mp among
  obtain ⟨exchange, made, inside⟩ := List.mem_flatMap.mp listed
  exact ⟨exchange, made, record, inside, describes⟩

/-- An entry stems from a project record. -/
def Stems (configuration : Configuration) (record : Json) (entry : RepositoryEntry) : Prop :=
  ∃ repository, Repository.ofRecord record = .ok repository ∧
    configuration.entryOptions.entry repository = .ok entry

/-- Every entry that a run specifies stems from a record it was answered with. -/
theorem listed_of_specify {configuration : Configuration} {world after : World}
    {specification : Specification}
    (returned : (specify configuration).run world = (.ok specification, after)) :
    ∃ exchanges, Listed configuration (!configuration.archived) exchanges world after ∧
      ∀ entry ∈ specification.repositories, ∃ exchange ∈ exchanges,
        ∃ record ∈ exchange.page.records, Stems configuration record entry := by
  obtain ⟨_, _, got, returned⟩ := returned_bind returned
  cases got
  obtain ⟨policy, _, attempted, returned⟩ := returned_bind returned
  obtain ⟨read, rfl⟩ := returned_ofExcept attempted
  obtain ⟨discovered, middle, discovers, returned⟩ := returned_bind returned
  obtain ⟨exchanges, listed, described⟩ := listed_of_discover discovers
  obtain ⟨chosen, chose, chooses, builds⟩ := returned_bind returned
  obtain ⟨entries, last, enters, made⟩ := returned_bind builds
  cases made
  have climbed := (climbs_choose _ _).of_run chooses
  have checked := (Specification.climbs_entries _ _ _).of_run enters
  rw [(Configuration.policy_of_ok read).2.1] at listed
  refine ⟨exchanges, { listed with requests := ?_ }, fun entry member => ?_⟩
  · rw [checked.requests (by decide), climbed.requests (by decide), listed.requests]
  · obtain ⟨repository, among, entered⟩ :=
      Specification.repository_of_entries enters entry member
    obtain ⟨exchange, made, record, inside, describes⟩ :=
      described repository (mem_of_chosen chooses repository among)
    exact ⟨exchange, made, record, inside, repository, describes, entered⟩

/-- After the specification nothing is listed. -/
theorem requests_run (configuration : Configuration) (invocation : String) (world : World) :
    ((run configuration invocation).run world).2.requests =
      ((specify configuration).run world).2.requests := by
  have begins : run configuration invocation =
      specify configuration >>= finishing configuration invocation := rfl
  rw [begins, run_bind]
  rcases (specify configuration).run world with ⟨failure | specification, specified⟩
  · rfl
  · have climbed := climbs_finishing configuration invocation specification specified
    exact climbed.requests (by decide)

/-- A run gives the specification that it made. -/
theorem specified_of_run {configuration : Configuration} {invocation : String}
    {world after : World} {specification : Specification}
    (returned : (run configuration invocation).run world = (.ok specification, after)) :
    ∃ specified, (specify configuration).run world = (.ok specification, specified) := by
  obtain ⟨made, specified, specifies, returned⟩ := returned_bind returned
  obtain ⟨_, _, -, returned⟩ := returned_bind returned
  obtain ⟨_, _, -, returned⟩ := returned_bind returned
  obtain ⟨_, _, -, returned⟩ := returned_bind returned
  cases returned
  exact ⟨specified, specifies⟩

/-! ## Restricted requests -/

/-- A server answers requests for projects that are not archived with such projects only. -/
def HonoursRestriction (server : Server) (requests : List PageRequest) : Prop :=
  ∀ inquiries : List Inquiry, inquiries.map Inquiry.request = requests →
    server.Gives (inquiries.map Inquiry.answer) →
    ∀ inquiry ∈ inquiries, inquiry.request.archived = some false →
      ∀ page, inquiry.answer = .ok page →
        ∀ record ∈ page.records, record.field? "archived" = some (.boolean false)

/-- A server that knows no archived projects answers no request with one. -/
theorem honours_of_unarchived {server : Server}
    (unarchived : ∀ page, Except.ok page ∈ server.answers → ∀ record ∈ page.records,
      record.field? "archived" = some (.boolean false)) (requests : List PageRequest) :
    HonoursRestriction server requests := by
  intro inquiries _ gives inquiry member _ page answer record inside
  have given : Except.ok page ∈ inquiries.map Inquiry.answer :=
    answer ▸ List.mem_map_of_mem member
  rcases List.mem_append.mp (gives.isPrefix.subset given) with known | empty
  · exact unarchived page known record inside
  · obtain rfl := Except.ok.inj (List.eq_of_mem_replicate empty)
    cases inside

/-- A server that is asked for everything may answer with everything. -/
theorem honours_of_unrestricted {requests : List PageRequest}
    (unrestricted : ∀ request ∈ requests, request.archived ≠ some false) (server : Server) :
    HonoursRestriction server requests := by
  rintro inquiries rfl _ inquiry member restricted
  exact absurd restricted (unrestricted inquiry.request (List.mem_map_of_mem member))

/-- A group that is swept is one of the groups that are given. -/
theorem mem_of_targets {groups : List ProjectGroup} {group : ProjectGroup}
    (swept : some group ∈ targets groups) : group ∈ groups := by
  unfold targets at swept
  split at swept
  · cases List.mem_singleton.mp swept
  · exact (List.mem_map_of_injective (Option.some_injective _)).mp swept

/-- A run that leaves archived projects out is answered with none, unless it lists groups. -/
theorem unarchived_of_listed {configuration : Configuration} {exchanges : List Exchange}
    {before after : World} (listed : Listed configuration true exchanges before after)
    (honours : HonoursRestriction before.server (exchanges.map Exchange.request)) :
    ∀ exchange ∈ exchanges, ∀ record ∈ exchange.page.records,
      record.field? "archived" = some (.boolean false) ∨
        ∃ group ∈ configuration.groups, exchange.request.group = some (.path group) := by
  intro exchange member record inside
  obtain ⟨target, among, number, made⟩ := listed.targeted exchange member
  cases target with
  | none =>
      have restricted : exchange.request.archived = some false := by simp [made, requestTo]
      refine .inl (honours (exchanges.map Exchange.inquiry) (requests_of_exchanges exchanges) ?_
        exchange.inquiry (List.mem_map_of_mem member) restricted exchange.page rfl record inside)
      rw [answers_of_exchanges, List.map_map]
      exact listed.gives
  | some group =>
      obtain ⟨name, given, rfl⟩ := List.mem_map.mp (mem_of_targets among)
      exact .inr ⟨name, given, by simp [made, requestTo]⟩

/-- In a run that leaves archived projects out no entry of the specification stems from an archived
project, unless that was listed for one of the groups that the run was given; and nothing is written
but that specification. -/
theorem run_leaves_archived_out (configuration : Configuration) (invocation : String)
    (world after : World) (outcome : Except Failure Specification) (made : List PageRequest)
    (excludes : configuration.archived = false)
    (ran : (run configuration invocation).run world = (outcome, after))
    (requested : after.requests = world.requests ++ made)
    (honours : HonoursRestriction world.server made) :
    (∀ specification specified, (specify configuration).run world = (.ok specification, specified) →
      (finishing configuration invocation specification).run specified = (outcome, after) ∧
      ∃ exchanges : List Exchange, exchanges.map Exchange.request = made ∧
        world.server.Gives (exchanges.map fun exchange => .ok exchange.page) ∧
        (∀ entry ∈ specification.repositories, ∃ exchange ∈ exchanges,
          ∃ record ∈ exchange.page.records, Stems configuration record entry) ∧
        ∀ exchange ∈ exchanges, ∀ record ∈ exchange.page.records,
          record.field? "archived" = some (.boolean false) ∨
            ∃ group ∈ configuration.groups, exchange.request.group = some (.path group)) ∧
    ∀ failure specified, (specify configuration).run world = (.error failure, specified) →
      outcome = .error failure ∧
        ∃ trace, after.events = world.events ++ trace ∧ .write ∉ stagesOf trace := by
  have begins : run configuration invocation =
      specify configuration >>= finishing configuration invocation := rfl
  rw [begins, run_bind] at ran
  refine ⟨fun specification specified returned => ?_, fun failure specified failed => ?_⟩
  · rw [returned] at ran
    obtain ⟨exchanges, listed, stems⟩ := listed_of_specify returned
    have climbed := (climbs_finishing configuration invocation specification).of_run ran
    obtain rfl : exchanges.map Exchange.request = made := by
      rw [climbed.requests (by decide), listed.requests] at requested
      exact List.append_cancel_left requested
    rw [excludes] at listed
    exact ⟨ran, exchanges, rfl, listed.gives, stems, unarchived_of_listed listed honours⟩
  · rw [failed] at ran
    obtain ⟨rfl, rfl⟩ := Prod.mk.inj ran
    obtain ⟨trace, led, -, among⟩ :=
      climbs_specify configuration.connection.climbs_connect (List.Subset.refl _) world
    rw [failed] at led
    exact ⟨rfl, trace, led.events, fun written => absurd (among written) (by decide)⟩

/-- A run over two pages of all projects, of which the first is empty, and a run over a group whose
only project is archived: the first is answered with no such project, the second lists its group. -/
theorem run_leaves_archived_out_of_everything :
    let record (path : String) (archived : Bool) : Json :=
      .object [("path_with_namespace", .string path), ("archived", .boolean archived)]
    let configuration (groups : List (Given String)) : Configuration :=
      { Configuration.initial "secret" with
        groups := groups, specificationPath := "specification.json", fetchReindex := some "fetch" }
    let everything := Rehearsal.world [("COLUMNS", "80")] []
      [⟨[], some 2⟩, ⟨[record "g/a" false], none⟩]
    let grouped := Rehearsal.world [("COLUMNS", "80")] []
      [⟨[record "g/old" true], none⟩]
    let request (page : Int) : PageRequest := ⟨none, page, .value 100, some false⟩
    let groupRequest : PageRequest := ⟨some (.path "g"), 1, .value 100, none⟩
    (HonoursRestriction everything.server [request 1, request 2] ∧
      ∀ specification specified,
        (specify (configuration [])).run everything = (.ok specification, specified) →
          ∃ exchanges : List Exchange,
            exchanges.map Exchange.request = [request 1, request 2] ∧
            (∀ entry ∈ specification.repositories, ∃ exchange ∈ exchanges,
              ∃ record ∈ exchange.page.records, Stems (configuration []) record entry) ∧
            ∀ exchange ∈ exchanges, ∀ record ∈ exchange.page.records,
              record.field? "archived" = some (.boolean false)) ∧
    HonoursRestriction grouped.server [groupRequest] ∧
      ∀ specification specified,
        (specify (configuration ["g"])).run grouped = (.ok specification, specified) →
          ∃ exchanges : List Exchange,
            exchanges.map Exchange.request = [groupRequest] ∧
            (∀ entry ∈ specification.repositories, ∃ exchange ∈ exchanges,
              ∃ record ∈ exchange.page.records, Stems (configuration ["g"]) record entry) ∧
            ∀ exchange ∈ exchanges, ∀ record ∈ exchange.page.records,
              record.field? "archived" = some (.boolean false) ∨
                exchange.request.group = some (.path "g") := by
  intro record configuration everything grouped request groupRequest
  have requested : ((run (configuration []) "").run everything).2.requests =
      everything.requests ++ [request 1, request 2] := by
    rw [requests_run]
    decide +kernel
  have askedOfGroup : ((run (configuration ["g"]) "").run grouped).2.requests =
      grouped.requests ++ [groupRequest] := by
    rw [requests_run]
    decide +kernel
  have honours : HonoursRestriction everything.server [request 1, request 2] := by
    refine honours_of_unarchived (fun page known found inside => ?_) _
    simp only [everything, Rehearsal.world, List.map_cons, List.map_nil, List.mem_cons,
      List.not_mem_nil, or_false, Except.ok.injEq] at known
    rcases known with rfl | rfl
    · cases inside
    · obtain rfl := List.mem_singleton.mp inside
      rfl
  have unrestricted : HonoursRestriction grouped.server [groupRequest] := by
    refine honours_of_unrestricted (fun other member => ?_) _
    obtain rfl := List.mem_singleton.mp member
    intro restricted
    cases restricted
  refine ⟨⟨honours, fun specification specified returned => ?_⟩, unrestricted,
    fun specification specified returned => ?_⟩
  · obtain ⟨-, exchanges, made, -, stems, unarchived⟩ :=
      (run_leaves_archived_out (configuration []) "" everything _ _ _ rfl (Prod.eta _).symm
        requested honours).1 specification specified returned
    refine ⟨exchanges, made, stems, fun exchange member found inside => ?_⟩
    rcases unarchived exchange member found inside with known | ⟨group, given, -⟩
    · exact known
    · cases given
  · obtain ⟨-, exchanges, made, -, stems, unarchived⟩ :=
      (run_leaves_archived_out (configuration ["g"]) "" grouped _ _ _ rfl (Prod.eta _).symm
        askedOfGroup unrestricted).1 specification specified returned
    refine ⟨exchanges, made, stems, fun exchange member found inside => ?_⟩
    refine (unarchived exchange member found inside).imp_right fun listed => ?_
    obtain ⟨group, given, asked⟩ := listed
    rwa [List.mem_singleton.mp given] at asked

/-- An archived project of a group is indexed by a run that is not asked to index archived ones,
though the server honours every restriction: there is none in a request for a group. -/
theorem run_keeps_archived_of_group :
    let record : Json :=
      .object [("path_with_namespace", .string "g/old"), ("archived", .boolean true)]
    let configuration : Configuration := { Configuration.initial "secret" with
      groups := ["g"], specificationPath := "specification.json", fetchReindex := some "fetch" }
    let world := Rehearsal.world [("COLUMNS", "80")] [] [⟨[record], none⟩]
    let request : PageRequest := ⟨some (.path "g"), 1, configuration.perPage, none⟩
    configuration.archived = false ∧ HonoursRestriction world.server [request] ∧
      ∃ specification after entry,
        (run configuration "").run world = (.ok specification, after) ∧
        after.requests = world.requests ++ [request] ∧
        entry ∈ specification.repositories ∧ Stems configuration record entry := by
  intro record configuration world request
  have unrestricted : ∀ other ∈ [request], other.archived ≠ some false := by
    intro other member
    obtain rfl := List.mem_singleton.mp member
    nofun
  have single : (((run configuration "").run world).1.toOption.map
      (·.repositories.length)) = some 1 := by
    decide +kernel
  have requested : ((run configuration "").run world).2.requests =
      world.requests ++ [request] := by
    rw [requests_run]
    decide +kernel
  rcases ran : (run configuration "").run world with ⟨failure | specification, after⟩
  · rw [ran] at single
    cases single
  · rw [ran] at single requested
    obtain ⟨entry, sole⟩ := List.length_eq_one_iff.mp (Option.some.inj single)
    have member : entry ∈ specification.repositories := by simp [sole]
    obtain ⟨specified, returned⟩ := specified_of_run ran
    obtain ⟨exchanges, listed, stems⟩ := listed_of_specify returned
    obtain ⟨exchange, made, found, inside, stem⟩ := stems entry member
    have given := listed.gives.isPrefix.subset (List.mem_map_of_mem made)
    obtain rfl : found = record := by
      rcases List.mem_append.mp given with known | empty
      · have page : exchange.page = ⟨[record], none⟩ :=
          Except.ok.inj (List.mem_singleton.mp known)
        rw [page] at inside
        exact List.mem_singleton.mp inside
      · rw [Except.ok.inj (List.eq_of_mem_replicate empty)] at inside
        cases inside
    exact ⟨rfl, honours_of_unrestricted unrestricted _, specification, after, entry, rfl, requested,
      member, stem⟩

end Pipeline

end RepoCatalog
