import RepoCatalog.Proofs.Selection.Ignored
import RepoCatalog.Proofs.Selection.Stable
import RepoCatalog.Proofs.Specification.Verification

/-!
# Selecting and sorting as an algebra

A policy divides repositories into those it keeps, forks and ignored ones. Selections by several
policies are one selection by their combination, and a selection commutes with sorting.
-/

namespace RepoCatalog

open Effect

namespace Policy

/-- Paths that a policy ignores; without a list there are none. -/
def paths (policy : Policy) : List String :=
  policy.ignored.getD []

/-- Whether a policy leaves a repository out because it is a fork. -/
def excludes (policy : Policy) (repository : Repository) : Bool :=
  policy.excludesForks && repository.isFork

/-- Whether a policy leaves a repository out because of its path alone. -/
def passesOver (policy : Policy) (repository : Repository) : Bool :=
  !policy.excludes repository && policy.paths.contains repository.pathKey

/-- Whether a policy keeps a repository. -/
def keeps (policy : Policy) (repository : Repository) : Bool :=
  !policy.excludes repository && !policy.paths.contains repository.pathKey

/-- The policy that leaves out what either of two policies leaves out. -/
def combine (first second : Policy) : Policy :=
  ⟨first.excludesForks || second.excludesForks,
    first.excludesArchived || second.excludesArchived, some (first.paths ++ second.paths)⟩

/-- A policy says one of three things about a repository whose path is a text. -/
theorem verdict_of_text (policy : Policy) {repository : Repository}
    (text : repository.path.isText = true) :
    policy.verdict repository =
      if policy.excludes repository then .excludeFork
      else if policy.paths.contains repository.pathKey then .ignore
      else .keep := by
  obtain ⟨path, named⟩ : ∃ path, repository.path = .string path := by
    cases given : repository.path <;> simp_all [Json.isText, Json.text?]
  have ignores : policy.ignores repository = policy.paths.contains repository.pathKey := by
    cases listed : policy.ignored <;>
      simp [ignores, paths, listed, named, Repository.pathKey, Json.text?]
  simp [verdict, excludes, ignores, named, Json.isContainer]

/-- A combination of policies keeps what both of them keep. -/
theorem keeps_combine (first second : Policy) :
    (first.combine second).keeps = fun repository =>
      first.keeps repository && second.keeps repository := by
  funext repository
  have among : (first.combine second).paths = first.paths ++ second.paths := rfl
  rw [keeps, keeps, keeps, excludes, excludes, excludes, among, List.contains_append, combine]
  cases first.excludesForks <;> cases second.excludesForks <;> cases repository.isFork <;>
    cases first.paths.contains repository.pathKey <;> simp

/-- It does not matter which of two policies comes first. -/
theorem keeps_combine_comm (first second : Policy) :
    (first.combine second).keeps = (second.combine first).keeps := by
  simp only [keeps_combine, Bool.and_comm]

theorem keeps_combine_self (policy : Policy) : (policy.combine policy).keeps = policy.keeps := by
  simp only [keeps_combine, Bool.and_self]

end Policy

namespace Selection

/-- A list of repositories divided by a policy: those that are kept, forks, and ignored ones that
are no excluded forks, each in their old order. -/
structure Divided (policy : Policy) (repositories kept forks ignored : List Repository) :
    Prop where
  /-- Kept is what is neither an excluded fork nor ignored. -/
  keeps : kept = repositories.filter fun repository =>
    !(policy.excludesForks && repository.isFork) && !policy.paths.contains repository.pathKey
  /-- Forks are excluded if the policy says so, whether they are ignored or not. -/
  excludes : forks = repositories.filter fun repository =>
    policy.excludesForks && repository.isFork
  /-- Ignored are the other ones whose paths are listed. -/
  ignores : ignored = repositories.filter fun repository =>
    !(policy.excludesForks && repository.isFork) && policy.paths.contains repository.pathKey
  /-- Every repository is in one of the parts, as often as it is in the list. -/
  whole : (kept ++ forks ++ ignored).Perm repositories

/-- What is recorded about a fork that is left out. -/
def notice (fork : Repository) : Level × String :=
  (.info, forkNotice fork)

variable {policy : Policy} {repositories : List Repository}

theorem divided (policy : Policy) (repositories : List Repository) :
    Divided policy repositories (repositories.filter policy.keeps)
      (repositories.filter policy.excludes) (repositories.filter policy.passesOver) := by
  refine ⟨rfl, rfl, rfl, ?_⟩
  -- What is no excluded fork is divided by the ignored paths.
  have others : (repositories.filter policy.keeps ++ repositories.filter policy.passesOver).Perm
      (repositories.filter (!policy.excludes ·)) := by
    have cut := List.filter_append_perm (fun repository : Repository =>
      !policy.paths.contains repository.pathKey) (repositories.filter (!policy.excludes ·))
    simp only [List.filter_filter, Bool.not_not] at cut
    unfold Policy.keeps Policy.passesOver
    simpa only [Bool.and_comm] using cut
  have moved : (repositories.filter policy.keeps ++ repositories.filter policy.excludes ++
      repositories.filter policy.passesOver).Perm
        (repositories.filter policy.excludes ++
          (repositories.filter policy.keeps ++ repositories.filter policy.passesOver)) := by
    rw [← List.append_assoc]
    exact List.perm_append_comm.append_right _
  exact moved.trans ((others.append_left _).trans
    (List.filter_append_perm policy.excludes repositories))

/-- A selection gives what its policy keeps and records the forks that it leaves out. -/
theorem run_select (policy : Policy)
    (texts : ∀ repository ∈ repositories, repository.path.isText = true) (world : World) :
    (select policy repositories).run world =
      (.ok (repositories.filter policy.keeps),
        world.recordAll ((repositories.filter policy.excludes).map notice)) := by
  induction repositories generalizing world with
  | nil => rfl
  | cons repository repositories induction =>
      obtain ⟨text, texts⟩ := List.forall_mem_cons.mp texts
      have rest := induction texts
      have verdict := policy.verdict_of_text text
      cases fork : policy.excludes repository with
      | true =>
          have left : ¬ policy.keeps repository = true := by simp [Policy.keeps, fork]
          rw [fork, if_pos rfl] at verdict
          rw [List.filter_cons_of_pos fork, List.filter_cons_of_neg left, select, verdict]
          simp only [run_bind, run_log, rest]
          rfl
      | false =>
          rw [fork, if_neg Bool.false_ne_true] at verdict
          rw [List.filter_cons_of_neg (Bool.eq_false_iff.mp fork), select]
          cases listed : policy.paths.contains repository.pathKey with
          | true =>
              have left : ¬ policy.keeps repository = true := by
                simp only [Policy.keeps, listed, Bool.not_true, Bool.and_false, Bool.false_eq_true,
                  not_false_eq_true]
              rw [listed, if_pos rfl] at verdict
              rw [List.filter_cons_of_neg left, verdict]
              exact rest world
          | false =>
              have kept : policy.keeps repository = true := by
                simp only [Policy.keeps, fork, listed, Bool.not_false, Bool.and_self]
              rw [listed, if_neg Bool.false_ne_true] at verdict
              rw [List.filter_cons_of_pos kept, verdict]
              simp only [run_bind, rest, run_pure]

/-- One selection after another keeps what both policies keep. -/
theorem run_select_select (policy other : Policy)
    (texts : ∀ repository ∈ repositories, repository.path.isText = true) (world : World) :
    (select policy repositories >>= select other).run world =
      (.ok (repositories.filter (policy.combine other).keeps),
        (world.recordAll ((repositories.filter policy.excludes).map notice)).recordAll
          (((repositories.filter policy.keeps).filter other.excludes).map notice)) := by
  have kept : ∀ repository ∈ repositories.filter policy.keeps, repository.path.isText = true :=
    fun repository member => texts repository (List.mem_filter.mp member).1
  rw [run_bind, run_select policy texts]
  dsimp only
  rw [run_select other kept, List.filter_filter, Policy.keeps_combine]
  simp only [Bool.and_comm]

/-- What a policy kept holds no fork that it would leave out. -/
theorem excludes_keeps (policy : Policy) (repositories : List Repository) :
    (repositories.filter policy.keeps).filter policy.excludes = [] := by
  refine List.filter_eq_nil_iff.mpr fun repository member => ?_
  have kept := (List.mem_filter.mp member).2
  simp only [Policy.keeps, Bool.and_eq_true, Bool.not_eq_true'] at kept
  simp [kept.1]

theorem isStableSort_sortByPath (repositories : List Repository) :
    IsStableSort Repository.pathKey repositories (sortByPath repositories) :=
  isStableSort_mergeSort Repository.pathKey repositories

/-- Sorting a sorted list changes nothing. -/
theorem sortByPath_sortByPath (repositories : List Repository) :
    sortByPath (sortByPath repositories) = sortByPath repositories :=
  List.mergeSort_of_pairwise (pairwise_sortByPath repositories)

/-- Leaving repositories out before or after sorting makes no difference. -/
theorem filter_sortByPath (keeps : Repository → Bool) (repositories : List Repository) :
    (sortByPath repositories).filter keeps = sortByPath (repositories.filter keeps) :=
  ((isStableSort_sortByPath repositories).filter keeps).unique (isStableSort_sortByPath _)

theorem sort_of_text_paths (texts : ∀ repository ∈ repositories, repository.path.isText = true) :
    sort repositories = .ok (sortByPath repositories) :=
  sort_of_texts (List.all_eq_true.mpr texts)

/-- Selecting divides repositories, in order, into those that a policy keeps, the forks it leaves
out, each recorded once, and the ignored ones. Selecting by two policies is selecting by their
combination, so it does not matter which comes first, and to select again changes nothing. Sorting
is stable, to sort again changes nothing, and it does not matter whether repositories are selected
before or after they are sorted. -/
theorem select_sort_algebra (policy other : Policy) (repositories : List Repository)
    (texts : ∀ repository ∈ repositories, repository.path.isText = true) (world : World) :
    (∃ kept forks ignored, Divided policy repositories kept forks ignored ∧
      (select policy repositories).run world =
        (.ok kept, world.recordAll (forks.map fun fork => (.info, forkNotice fork)))) ∧
    ((select policy repositories >>= select other).run world).1 =
      ((select (policy.combine other) repositories).run world).1 ∧
    ((select policy repositories >>= select other).run world).1 =
      ((select other repositories >>= select policy).run world).1 ∧
    (select policy repositories >>= select policy).run world =
      (select policy repositories).run world ∧
    ∃ sorted, sort repositories = .ok sorted ∧
      IsStableSort Repository.pathKey repositories sorted ∧ sort sorted = .ok sorted ∧
      ((select policy sorted).run world).1 =
        ((select policy repositories >>= fun kept => ofExcept (sort kept)).run world).1 := by
  have kept : ∀ repository ∈ repositories.filter policy.keeps, repository.path.isText = true :=
    fun repository member => texts repository (List.mem_filter.mp member).1
  have sorted : ∀ repository ∈ sortByPath repositories, repository.path.isText = true :=
    fun repository member => texts repository ((sortByPath_perm repositories).mem_iff.mp member)
  refine ⟨⟨_, _, _, divided policy repositories, run_select policy texts world⟩, ?_, ?_, ?_,
    sortByPath repositories, sort_of_text_paths texts, isStableSort_sortByPath repositories, ?_,
    ?_⟩
  · rw [run_select_select policy other texts, run_select (policy.combine other) texts]
  · rw [run_select_select policy other texts, run_select_select other policy texts,
      Policy.keeps_combine_comm]
  · rw [run_select_select policy policy texts, run_select policy texts, excludes_keeps,
      Policy.keeps_combine_self]
    rfl
  · rw [sort_of_text_paths sorted, sortByPath_sortByPath]
  · rw [run_select policy sorted, run_bind, run_select policy texts]
    dsimp only
    rw [run_ofExcept, sort_of_text_paths kept, filter_sortByPath]

/-- A fork that is ignored too counts as a fork, and two entries of one path keep their order. -/
theorem select_sort_algebra_of_ignored_fork :
    let repository (path page : String) (parent : Option Json) : Repository :=
      ⟨.string path, .string "", .string "", .string page, parent, false⟩
    let first := repository "g/b" "first" none
    let second := repository "g/b" "second" none
    let fork := repository "g/x" "" (some (.string "up/x"))
    let plain := repository "g/a" "" none
    let hidden := repository "g/c" "" none
    let repositories := [first, fork, hidden, second, plain]
    let policy : Policy := ⟨true, true, some ["g/x", "g/c"]⟩
    let world := Rehearsal.world [] [] []
    (∀ repository ∈ repositories, repository.path.isText = true) ∧
      (select policy repositories).run world =
        (.ok [first, second, plain],
          world.record .info "Excluding fork g/x, was forked from up/x") ∧
      ((select policy repositories >>= select ⟨false, false, some ["g/b"]⟩).run world).1 =
        .ok [plain] ∧
      ∃ sorted, sort repositories = .ok sorted ∧
        ((select policy sorted).run world).1 = .ok [plain, first, second] := by
  intro repository first second fork plain hidden repositories policy world
  have texts : ∀ repository ∈ repositories, repository.path.isText = true := by decide
  obtain ⟨⟨kept, forks, ignored, divided, ran⟩, combined, -, -, sorted, sorts, -, -, commutes⟩ :=
    select_sort_algebra policy ⟨false, false, some ["g/b"]⟩ repositories texts world
  obtain ⟨rfl, rfl, -, -⟩ := divided
  refine ⟨texts, ran, combined.trans ?_, sorted, sorts, commutes.trans ?_⟩
  · rfl
  · have equal : inOrder first second = true := by decide
    have late : inOrder first plain = false ∧ inOrder second plain = false := by decide
    have sorted : sortByPath [first, second, plain] = [plain, first, second] := by
      simp [sortByPath, List.mergeSort, List.MergeSort.Internal.splitInTwo, equal, late]
    rw [run_bind, ran]
    exact (congrArg Prod.fst (run_ofExcept _ _)).trans (congrArg Except.ok sorted)

end Selection

end RepoCatalog
