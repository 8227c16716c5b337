/-!
# Runs of code points

Character classes are given by the edges of their runs: the code points at which membership
changes, in increasing order, starting outside the class.
-/

namespace RepoCatalog.Text

/-- Whether a code point lies in the class whose runs have these edges. -/
def withinRuns (edges : List Nat) (code : Nat) : Bool :=
  edges.countP (· ≤ code) % 2 == 1

end RepoCatalog.Text
