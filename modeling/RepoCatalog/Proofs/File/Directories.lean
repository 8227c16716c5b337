import RepoCatalog.File.Directories
import RepoCatalog.Proofs.File.Walk

/-!
# Making directories

Directories are made where nothing was: a tree with more directories still holds what it held.
-/

namespace RepoCatalog

namespace FilePath

/-- A path is above another one, or the same: its names are the first ones of the other. -/
def IsAbove (above path : FilePath) : Prop :=
  above.root = path.root ∧ above.names <+: path.names

theorem IsAbove.refl (path : FilePath) : path.IsAbove path :=
  ⟨rfl, List.prefix_rfl⟩

theorem IsAbove.trans {higher above path : FilePath} (first : higher.IsAbove above)
    (second : above.IsAbove path) : higher.IsAbove path :=
  ⟨first.1.trans second.1, first.2.trans second.2⟩

end FilePath

namespace FileTree

/-- A tree holds everything that another one holds, on the same medium, and relative paths start
from the same place. -/
structure Extends (tree later : FileTree) : Prop where
  /-- Files are stored on the same medium. -/
  medium : later.medium = tree.medium
  /-- Relative paths start from the same directory. -/
  working : later.working = tree.working
  /-- What was there is there. -/
  holds : ∀ place entry, tree.get? place = some entry → later.get? place = some entry

theorem Extends.refl (tree : FileTree) : tree.Extends tree :=
  ⟨rfl, rfl, fun _ _ held => held⟩

theorem Extends.trans {tree middle later : FileTree} (first : tree.Extends middle)
    (second : middle.Extends later) : tree.Extends later :=
  ⟨second.medium.trans first.medium, second.working.trans first.working,
    fun place entry held => second.holds place entry (first.holds place entry held)⟩

/-! ## Walks through a tree that holds more -/

/-- Steps to an entry are the same in a tree that holds more. -/
theorem Extends.walksTo {tree later : FileTree} (more : tree.Extends later) {ending : PathEnd}
    {links : Nat} {start : Location} {names : List String} {place : Location} {entry : Entry}
    (walks : WalksTo tree ending links start names (.present place entry)) :
    WalksTo later ending links start names (.present place entry) := by
  generalize reached : Target.present place entry = target at walks ⊢
  induction walks with
  | here => exact .here
  | stay still _ induction => exact .stay still (induction reached)
  | up _ induction => exact .up (induction reached)
  | down named held _ induction => exact .down named (more.holds _ _ held) (induction reached)
  | free => cases reached
  | link named held kept => exact .link named (more.holds _ _ held) kept
  | follow named held goes _ induction =>
      exact .follow named (more.holds _ _ held) goes (induction reached)
  | other named held differs => exact .other named (more.holds _ _ held) differs

theorem Extends.resolve {tree later : FileTree} (more : tree.Extends later) {ending : PathEnd}
    {path : String} {place : Location} {entry : Entry}
    (resolved : tree.resolve ending path = .ok (.present place entry)) :
    later.resolve ending path = .ok (.present place entry) := by
  obtain ⟨named, short, walks⟩ := resolve_eq_ok_iff.mp resolved
  refine resolve_eq_ok_iff.mpr ⟨named, short, ?_⟩
  rw [more.working]
  exact more.walksTo walks

/-- What a path leads to is somewhere. -/
theorem exists_resolve_of_inspect {tree : FileTree} {path : String} {entry : Entry}
    (found : tree.inspect path = .ok entry) :
    ∃ place, tree.resolve .follow path = .ok (.present place entry) := by
  unfold inspect at found
  split at found
  case h_3 place held resolved =>
    cases found
    exact ⟨place, resolved⟩
  all_goals cases found

/-- What a path leads to is what it led to before. -/
theorem Extends.inspect {tree later : FileTree} (more : tree.Extends later) {path : String}
    {entry : Entry} (found : tree.inspect path = .ok entry) : later.inspect path = .ok entry := by
  obtain ⟨place, resolved⟩ := exists_resolve_of_inspect found
  rw [FileTree.inspect, more.resolve resolved]

/-! ## Trees with more directories -/

theorem ne_nil_of_free {tree : FileTree} {place : Location} (free : tree.get? place = none) :
    place ≠ [] := by
  rintro rfl
  cases free

theorem extends_put {tree : FileTree} {place : Location} (free : tree.get? place = none)
    (entry : Entry) : tree.Extends (tree.put place entry) := by
  refine ⟨rfl, rfl, fun other held there => ?_⟩
  have differs : other ≠ place := by
    rintro rfl
    rw [free] at there
    cases there
  rw [get?_put_of_ne tree differs, there]

/-- A directory that was made is where its path leads to nothing. -/
theorem exists_put_of_makeDirectory {tree made : FileTree} {path : String}
    (ran : tree.makeDirectory path = .ok made) :
    ∃ place, tree.resolve .make path = .ok (.absent place) ∧ made = tree.put place .directory := by
  unfold makeDirectory at ran
  split at ran
  · cases ran
  · cases ran
  · rename_i place resolved
    split at ran
    · cases ran
    · cases ran
      exact ⟨place, resolved, rfl⟩

theorem extends_makeDirectory {tree made : FileTree} {path : String}
    (ran : tree.makeDirectory path = .ok made) : tree.Extends made := by
  obtain ⟨place, resolved, rfl⟩ := exists_put_of_makeDirectory ran
  exact extends_put (foundIn_of_resolve resolved) .directory

/-! ## The way to a path -/

/-- A tree holds everything that another one holds, and beyond that only directories on the way to a
path: it or a path above it leads there. -/
structure Paves (tree later : FileTree) (path : FilePath) : Prop where
  /-- What was there is there. -/
  more : tree.Extends later
  /-- What is new is a directory on the way. -/
  new : ∀ place entry, tree.get? place = none → later.get? place = some entry →
    entry = .directory ∧ ∃ above : FilePath, above.IsAbove path ∧
      later.resolve .follow above.text = .ok (.present place .directory)

theorem Paves.refl (tree : FileTree) (path : FilePath) : tree.Paves tree path := by
  refine ⟨.refl tree, fun place entry free held => ?_⟩
  rw [free] at held
  cases held

theorem Paves.trans {tree middle later : FileTree} {path : FilePath}
    (first : tree.Paves middle path) (second : middle.Paves later path) :
    tree.Paves later path := by
  refine ⟨first.more.trans second.more, fun place entry free held => ?_⟩
  cases before : middle.get? place with
  | none => exact second.new place entry before held
  | some old =>
      obtain ⟨rfl, above, isAbove, resolved⟩ := first.new place old free before
      have kept := second.more.holds place _ before
      rw [held] at kept
      exact ⟨Option.some.inj kept, above, isAbove, second.more.resolve resolved⟩

theorem Paves.below {tree later : FileTree} {above path : FilePath} (isAbove : above.IsAbove path)
    (paves : tree.Paves later above) : tree.Paves later path := by
  refine ⟨paves.more, fun place entry free held => ?_⟩
  obtain ⟨directory, higher, isHigher, resolved⟩ := paves.new place entry free held
  exact ⟨directory, higher, isHigher.trans isAbove, resolved⟩

/-- A directory that was made is where its path leads, and nothing else is new. -/
theorem paves_makeDirectory {tree made : FileTree} {path : FilePath}
    (ran : tree.makeDirectory path.text = .ok made) :
    tree.Paves made path ∧ made.inspect path.text = .ok .directory := by
  have more := extends_makeDirectory ran
  obtain ⟨place, resolved, rfl⟩ := exists_put_of_makeDirectory ran
  have leads := resolve_put_directory resolved
  refine ⟨⟨more, fun other entry free held => ?_⟩, by rw [inspect, leads]⟩
  by_cases here : other = place
  · subst here
    have put := get?_put_self tree (ne_nil_of_free free) Entry.directory
    rw [held] at put
    exact ⟨Option.some.inj put, path, .refl path, leads⟩
  · rw [get?_put_of_ne tree here, free] at held
    cases held

theorem paves_tolerate {tree made : FileTree} {path : FilePath} {fault : FileFault}
    (ran : tree.tolerate path fault = .ok made) :
    tree.Paves made path ∧ made.inspect path.text = .ok .directory := by
  unfold tolerate at ran
  split at ran
  · rename_i directory
    cases ran
    refine ⟨.refl tree path, ?_⟩
    unfold isDirectory at directory
    split at directory
    · rename_i entry found
      rw [found, of_decide_eq_true (Except.ok.inj directory)]
    · split at directory <;> cases directory
  · cases ran
  · cases ran

theorem paves_ensureOne {tree made : FileTree} {path : FilePath}
    (ran : tree.ensureOne path = .ok made) :
    tree.Paves made path ∧ made.inspect path.text = .ok .directory := by
  unfold ensureOne at ran
  split at ran
  · rename_i new makes
    cases ran
    exact paves_makeDirectory makes
  · cases ran
  · exact paves_tolerate ran

theorem paves_ensureNames (root : PathRoot) (names : List String) (tree : FileTree) :
    tree.Paves (ensureNames root names tree).1 ⟨root, names.reverse⟩ ∧
      ((ensureNames root names tree).2 = none →
        (ensureNames root names tree).1.inspect (FilePath.mk root names.reverse).text =
          .ok .directory) := by
  induction names generalizing tree with
  | nil =>
      rw [ensureNames]
      split
      · rename_i made ran
        obtain ⟨paves, leads⟩ := paves_ensureOne ran
        exact ⟨paves, fun _ => leads⟩
      · exact ⟨.refl tree _, nofun⟩
  | cons name outer induction =>
      obtain ⟨outermost, -⟩ := induction tree
      have isAbove : (FilePath.mk root outer.reverse).IsAbove ⟨root, (name :: outer).reverse⟩ :=
        ⟨rfl, by simp⟩
      simp only [ensureNames]
      split
      · rename_i made ran
        obtain ⟨paves, leads⟩ := paves_makeDirectory ran
        exact ⟨paves, fun _ => leads⟩
      · split
        · rename_i later problem ran
          rw [ran] at outermost
          exact ⟨outermost.below isAbove, nofun⟩
        · rename_i later ran
          rw [ran] at outermost
          split
          · rename_i made one
            obtain ⟨paves, leads⟩ := paves_ensureOne one
            exact ⟨(outermost.below isAbove).trans paves, fun _ => leads⟩
          · exact ⟨outermost.below isAbove, nofun⟩
      · split
        · rename_i made ran
          obtain ⟨paves, leads⟩ := paves_tolerate ran
          exact ⟨paves, fun _ => leads⟩
        · exact ⟨.refl tree _, nofun⟩

/-- Making a directory with its ancestors makes nothing but directories on the way to it. -/
theorem paves_ensureDirectory (tree : FileTree) (path : FilePath) :
    tree.Paves (tree.ensureDirectory path).1 path := by
  have paves := (paves_ensureNames path.root path.names.reverse tree).1
  rwa [List.reverse_reverse] at paves

/-- A directory that was made without a problem is there. -/
theorem inspect_ensureDirectory {tree : FileTree} {path : FilePath}
    (made : (tree.ensureDirectory path).2 = none) :
    (tree.ensureDirectory path).1.inspect path.text = .ok .directory := by
  have leads := (paves_ensureNames path.root path.names.reverse tree).2 made
  rwa [List.reverse_reverse] at leads

/-- Making a directory that is there changes nothing. -/
theorem ensureDirectory_of_inspect {tree : FileTree} {path : FilePath}
    (there : tree.inspect path.text = .ok .directory) :
    tree.ensureDirectory path = (tree, none) := by
  obtain ⟨place, resolved⟩ := exists_resolve_of_inspect there
  have refused := makeDirectory_of_resolve resolved
  have tolerated : tree.tolerate path .entryExists = .ok tree := by
    simp [tolerate, isDirectory, there]
  rcases names : path.names.reverse with _ | ⟨name, outer⟩
  · have whole : FilePath.mk path.root [] = path := by
      rw [← List.reverse_eq_nil_iff.mp names]
    rw [ensureDirectory, names, ensureNames, whole, ensureOne, refused]
    simp only [tolerated]
  · have whole : FilePath.mk path.root (name :: outer).reverse = path := by
      rw [← names, List.reverse_reverse]
    rw [ensureDirectory, names, ensureNames]
    simp only [whole, refused, tolerated]

/-- Making a directory with its ancestors leaves everything that was there. -/
theorem extends_ensureDirectory (tree : FileTree) (path : FilePath) :
    tree.Extends (tree.ensureDirectory path).1 :=
  (paves_ensureDirectory tree path).more

end FileTree

end RepoCatalog
