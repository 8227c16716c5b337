import RepoCatalog.World

/-!
# Revisions

Whether a revision exists in the local clone of a repository, as git sees it.
-/

namespace RepoCatalog.Revision

open Effect

/-- Where the clone of a repository is looked for. -/
def clonePath (root path : String) : String :=
  joinPath root path

/-- The launch that checks a revision in a clone. -/
def checkLaunch (root path : String) (revision : Given String) : Launch :=
  ⟨["git", "--git-dir", clonePath root path, "rev-parse", "--verify"].map .value ++ [revision],
    none, true⟩

/-- Whether a revision exists in a clone; if git cannot be started, it does not. -/
def isPresent (root path : String) (revision : Given String) : Effect Bool :=
  tryCatch (do return (← launch (checkLaunch root path revision)) == 0) fun failure => do
    if failure.isSystem then
      log .debug ("git rev-parse could not run for " ++ path ++ ": " ++ failure.message)
      return false
    else throw failure

end RepoCatalog.Revision
