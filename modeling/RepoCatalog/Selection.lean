import RepoCatalog.Json.Order
import RepoCatalog.Repository
import RepoCatalog.World

/-!
# Selection

Which discovered repositories are indexed, and in what order.
-/

namespace RepoCatalog

open Effect

/-- Rules for leaving repositories out. -/
structure Policy where
  /-- Whether forks are left out. -/
  excludesForks : Bool
  /-- Whether archived repositories are left out; the listing takes care of them. -/
  excludesArchived : Bool
  /-- Paths that are never indexed, if there is a list of them. -/
  ignored : Option (List String)
  deriving DecidableEq, Repr

/-- What a policy says about a repository. -/
inductive Verdict
  | keep
  | excludeFork
  | ignore
  | incomparable
  deriving DecidableEq, Repr

namespace Policy

/-- Whether the list of ignored paths contains the path of a repository. -/
def ignores (policy : Policy) (repository : Repository) : Bool :=
  match policy.ignored, repository.path with
  | some paths, .string path => paths.contains path
  | _, _ => false

/-- What a policy says about a repository; a path that is no plain value cannot be looked up. -/
def verdict (policy : Policy) (repository : Repository) : Verdict :=
  if policy.excludesForks && repository.isFork then .excludeFork
  else if policy.ignored.isSome && repository.path.isContainer then .incomparable
  else if policy.ignores repository then .ignore
  else .keep

end Policy

namespace Selection

/-- Record about a fork that is left out. -/
def forkNotice (repository : Repository) : String :=
  "Excluding fork " ++ repository.path.shown ++ ", was forked from "
    ++ ((repository.forkedFrom.map Json.shown).getD "None")

/-- The repositories a policy keeps, in order. -/
def select (policy : Policy) : List Repository → Effect (List Repository)
  | [] => pure []
  | repository :: rest =>
    match policy.verdict repository with
    | .keep => do return repository :: (← select policy rest)
    | .excludeFork => do
      log .info (forkNotice repository)
      select policy rest
    | .ignore => select policy rest
    | .incomparable => throw .wrongType

/-- Whether the path of one repository comes no later than that of another. -/
def inOrder (first second : Repository) : Bool :=
  first.pathKey ≤ second.pathKey

theorem inOrder_trans (first second third : Repository) (below : inOrder first second = true)
    (above : inOrder second third = true) : inOrder first third = true := by
  simp only [inOrder, decide_eq_true_eq] at below above ⊢
  exact String.le_trans below above

theorem inOrder_total (first second : Repository) :
    (inOrder first second || inOrder second first) = true := by
  simpa [inOrder] using String.le_total first.pathKey second.pathKey

/-- Repositories ordered by path; equal paths keep their order. -/
def sortByPath (repositories : List Repository) : List Repository :=
  repositories.mergeSort inOrder

/-- Sorting neither loses nor invents a repository. -/
theorem sortByPath_perm (repositories : List Repository) :
    (sortByPath repositories).Perm repositories :=
  List.mergeSort_perm repositories inOrder

/-- After sorting, no path comes before an earlier one. -/
theorem pairwise_sortByPath (repositories : List Repository) :
    (sortByPath repositories).Pairwise fun first second => inOrder first second = true :=
  List.pairwise_mergeSort inOrder_trans inOrder_total repositories

/-- Whether every two repositories have paths that can be ordered. -/
def areOrderable : List Repository → Bool
  | [] => true
  | first :: rest =>
    rest.all (fun second => (first.path.less? second.path).isSome) && areOrderable rest

/-- Whether the path of one repository does not come after that of another. -/
def noLater (first second : Repository) : Bool :=
  second.path.less? first.path ≠ some true

/-- Repositories ordered by path; fails if some paths have no order. -/
def sort (repositories : List Repository) : Except Failure (List Repository) :=
  if repositories.all (·.path.isText) then .ok (sortByPath repositories)
  else if areOrderable repositories then .ok (repositories.mergeSort noLater)
  else .error .wrongType

/-- Paths that are texts are ordered as texts. -/
theorem sort_of_texts {repositories : List Repository}
    (texts : repositories.all (·.path.isText) = true) :
    sort repositories = .ok (sortByPath repositories) := by
  simp [sort, texts]

end Selection

end RepoCatalog
