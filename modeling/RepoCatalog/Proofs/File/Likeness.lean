import RepoCatalog.Locate
import RepoCatalog.Proofs.File.Walk

/-!
# Trees that differ in the content of some files

Paths lead to the same places in trees that differ in nothing but the content of some files, and
what is made in both is the same.
-/

namespace RepoCatalog

/-! ## Alike but for the content of a file -/

/-- The same failure, or results that are alike. -/
inductive Agree {Fault Result : Type} (alike : Result → Result → Prop) :
    Except Fault Result → Except Fault Result → Prop
  | ok {one other : Result} (related : alike one other) : Agree alike (.ok one) (.ok other)
  | error (fault : Fault) : Agree alike (.error fault) (.error fault)

theorem Agree.ite {Fault Result : Type} {alike : Result → Result → Prop} {condition : Prop}
    [Decidable condition] {one other first second : Except Fault Result}
    (holds : Agree alike one other) (fails : Agree alike first second) :
    Agree alike (if condition then one else first) (if condition then other else second) := by
  split
  · exact holds
  · exact fails

/-- Entries that differ at most in the content of a file. -/
inductive Entry.Like : Entry → Entry → Prop
  | same (entry : Entry) : Like entry entry
  | file (content other : List UInt8) (executable : Bool) :
      Like (.file content executable) (.file other executable)

/-- Targets at one place that differ at most in the content of a file. -/
inductive Target.Like : Target → Target → Prop
  | absent (place : Location) : Like (.absent place) (.absent place)
  | present (place : Location) {one other : Entry} (like : one.Like other) :
      Like (.present place one) (.present place other)

namespace Entry.Like

theorem symm {one other : Entry} (like : one.Like other) : other.Like one := by
  cases like with
  | same => exact .same _
  | file content other executable => exact .file other content executable

theorem trans {one other third : Entry} (first : one.Like other) (second : other.Like third) :
    one.Like third := by
  cases first with
  | same => exact second
  | file content middle executable =>
      cases second with
      | same => exact .file content middle executable
      | file _ third => exact .file content third executable

theorem rel_symm {one other : Option Entry} (rel : Option.Rel Like one other) :
    Option.Rel Like other one := by
  cases rel with
  | none => exact .none
  | some like => exact .some like.symm

theorem rel_trans {one other third : Option Entry} (first : Option.Rel Like one other)
    (second : Option.Rel Like other third) : Option.Rel Like one third := by
  cases first with
  | none => exact second
  | some like =>
      cases second with
      | some again => exact .some (like.trans again)

end Entry.Like

namespace FileTree

/-- Trees that differ at most in the content of files at some places. -/
structure LikeBut (places : Location → Prop) (one other : FileTree) : Prop where
  /-- Files are stored on the same medium. -/
  medium : one.medium = other.medium
  /-- Relative paths start from the same directory. -/
  working : one.working = other.working
  /-- What is at a place differs at most in the content of a file. -/
  held : ∀ place, Option.Rel Entry.Like (one.get? place) (other.get? place)
  /-- Elsewhere the same is there. -/
  same : ∀ place, ¬ places place → one.get? place = other.get? place

namespace LikeBut

variable {places : Location → Prop} {one other : FileTree}

theorem refl (tree : FileTree) : LikeBut places tree tree := by
  refine ⟨rfl, rfl, fun place => ?_, fun _ _ => rfl⟩
  generalize tree.get? place = held
  cases held with
  | none => exact .none
  | some entry => exact .some (.same entry)

theorem symm (like : LikeBut places one other) : LikeBut places other one :=
  ⟨like.medium.symm, like.working.symm, fun place => Entry.Like.rel_symm (like.held place),
    fun place apart => (like.same place apart).symm⟩

theorem trans {third : FileTree} (first : LikeBut places one other)
    (second : LikeBut places other third) : LikeBut places one third :=
  ⟨first.medium.trans second.medium, first.working.trans second.working,
    fun place => Entry.Like.rel_trans (first.held place) (second.held place),
    fun place apart => (first.same place apart).trans (second.same place apart)⟩

/-! ## Where a path leads -/

/-- Walks lead to the same places if those that go on after links do. -/
theorem walkWith (like : LikeBut places one other) (ending : PathEnd)
    {follow further : Location → List String → Except FileFault Target}
    (follows : ∀ start names, Agree Target.Like (follow start names) (further start names))
    (start : Location) (names : List String) :
    Agree Target.Like (one.walkWith ending follow start names)
      (other.walkWith ending further start names) := by
  induction names generalizing start with
  | nil => exact .ok (.present start (.same .directory))
  | cons name rest induction =>
      simp only [FileTree.walkWith]
      refine .ite (induction start) (.ite (induction _) (.ite (.error _) (.ite (.error _) ?_)))
      have held := like.held (start ++ [name])
      generalize one.get? (start ++ [name]) = here at held ⊢
      generalize other.get? (start ++ [name]) = there at held ⊢
      cases held with
      | none =>
          refine .ite (.error _) ?_
          split
          · exact .error _
          · exact .ok (.absent _)
      | @some entry _ like =>
          cases like with
          | file content other executable =>
              exact .ite (.ok (.present _ (.file content other executable))) (.error _)
          | same =>
              cases entry with
              | directory => exact induction _
              | link target => exact .ite (.ok (.present _ (.same _))) (follows _ _)
              | _ => exact .ite (.ok (.present _ (.same _))) (.error _)

theorem walk (like : LikeBut places one other) (ending : PathEnd) (links : Nat)
    (start : Location) (names : List String) :
    Agree Target.Like (one.walk ending links start names)
      (other.walk ending links start names) := by
  induction links generalizing start names with
  | zero => exact like.walkWith ending (fun _ _ => .error _) start names
  | succ links induction => exact like.walkWith ending induction start names

theorem resolve (like : LikeBut places one other) (ending : PathEnd) (path : String) :
    Agree Target.Like (one.resolve ending path) (other.resolve ending path) := by
  unfold FileTree.resolve
  rw [like.working]
  exact .ite (.error _) (.ite (.error _) (like.walk _ _ _ _))

/-- A path leads to the same entry or to two files. -/
theorem inspect (like : LikeBut places one other) (path : String) :
    one.inspect path = other.inspect path ∨ ∃ content old executable,
      one.inspect path = .ok (.file content executable) ∧
        other.inspect path = .ok (.file old executable) := by
  have resolved := like.resolve .follow path
  unfold FileTree.inspect
  generalize one.resolve .follow path = first at resolved ⊢
  generalize other.resolve .follow path = second at resolved ⊢
  cases resolved with
  | error fault => exact .inl rfl
  | ok targets =>
      cases targets with
      | absent place => exact .inl rfl
      | present place entries =>
          cases entries with
          | same => exact .inl rfl
          | file content old executable => exact .inr ⟨content, old, executable, rfl, rfl⟩

theorem isDirectory (like : LikeBut places one other) (path : String) :
    one.isDirectory path = other.isDirectory path := by
  rcases like.inspect path with same | ⟨content, old, executable, first, second⟩
  · rw [FileTree.isDirectory, FileTree.isDirectory, same]
  · simp [FileTree.isDirectory, first, second]

theorem isUsable (like : LikeBut places one other) :
    Search.isUsable one = Search.isUsable other := by
  refine funext fun candidate => ?_
  rcases like.inspect (FilePath.ofString candidate).text with
    same | ⟨content, old, executable, first, second⟩
  · simp only [Search.isUsable, same]
  · simp [Search.isUsable, first, second]

/-- A path that leads to none of the places leads to the same content. -/
theorem contentOf (like : LikeBut places one other) {path : String}
    (apart : ∀ place entry, one.resolve .follow path = .ok (.present place entry) →
      ¬ places place) : one.contentOf path = other.contentOf path := by
  have same : one.inspect path = other.inspect path := by
    have resolved := like.resolve .follow path
    have here : ∀ target, one.resolve .follow path = .ok target → target.FoundIn one :=
      fun _ => foundIn_of_resolve
    have there : ∀ target, other.resolve .follow path = .ok target → target.FoundIn other :=
      fun _ => foundIn_of_resolve
    unfold FileTree.inspect
    generalize one.resolve .follow path = first at resolved apart here ⊢
    generalize other.resolve .follow path = second at resolved there ⊢
    cases resolved with
    | error fault => rfl
    | ok targets =>
        cases targets with
        | absent place => rfl
        | present place entries =>
            cases entries with
            | same => rfl
            | file content old executable =>
                rcases here _ rfl with directory | held
                · cases directory
                rcases there _ rfl with directory | kept
                · cases directory
                have equal := like.same place (apart place _ rfl)
                rw [held, kept] at equal
                cases equal
                rfl
  rw [FileTree.contentOf, FileTree.contentOf, same]

/-! ## What is made -/

theorem put (like : LikeBut places one other) (place : Location) (entry : Entry) :
    LikeBut places (one.put place entry) (other.put place entry) := by
  have held : ∀ elsewhere, (one.put place entry).get? elsewhere = one.get? elsewhere ∧
      (other.put place entry).get? elsewhere = other.get? elsewhere ∨
      (one.put place entry).get? elsewhere = (other.put place entry).get? elsewhere := by
    intro elsewhere
    by_cases root : elsewhere = []
    · exact .inr (by simp [FileTree.get?, root])
    · by_cases here : elsewhere = place
      · subst here
        exact .inr (by rw [get?_put_self one root, get?_put_self other root])
      · exact .inl ⟨get?_put_of_ne one here entry, get?_put_of_ne other here entry⟩
  refine ⟨like.medium, like.working, fun elsewhere => ?_, fun elsewhere apart => ?_⟩
  · rcases held elsewhere with ⟨first, second⟩ | same
    · rw [first, second]
      exact like.held elsewhere
    · rw [same]
      exact (refl _ : LikeBut places _ (other.put place entry)).held elsewhere
  · rcases held elsewhere with ⟨first, second⟩ | same
    · rw [first, second]
      exact like.same elsewhere apart
    · exact same

/-- A file with another content leaves a tree the same but for that content. -/
theorem refill {tree : FileTree} {place : Location} (among : places place)
    {content : List UInt8} {executable : Bool}
    (held : tree.get? place = some (.file content executable)) (other : List UInt8) :
    LikeBut places tree (tree.put place (.file other executable)) := by
  have below : place ≠ [] := by
    rintro rfl
    cases held
  refine ⟨rfl, rfl, fun elsewhere => ?_, fun elsewhere apart => ?_⟩
  · by_cases here : elsewhere = place
    · rw [here, held, get?_put_self tree below]
      exact .some (.file content other executable)
    · rw [get?_put_of_ne tree here]
      exact (refl tree : LikeBut places tree tree).held elsewhere
  · have differs : elsewhere ≠ place := fun here => apart (here ▸ among)
    exact (get?_put_of_ne tree differs _).symm

theorem makeDirectory (like : LikeBut places one other) (path : String) :
    Agree (LikeBut places) (one.makeDirectory path) (other.makeDirectory path) := by
  have resolved := like.resolve .make path
  unfold FileTree.makeDirectory
  generalize one.resolve .make path = first at resolved ⊢
  generalize other.resolve .make path = second at resolved ⊢
  cases resolved with
  | error fault => exact .error fault
  | ok targets =>
      cases targets with
      | absent place =>
          dsimp only
          rw [← like.medium]
          split
          · exact .error _
          · exact .ok (like.put place .directory)
      | present place _ => exact .error _

theorem openEntry (like : LikeBut places one other) (empties : Bool) (place : Location)
    {entry twin : Entry} (entries : entry.Like twin) :
    Agree (LikeBut places) (one.openEntry empties place entry)
      (other.openEntry empties place twin) := by
  cases entries with
  | file =>
      cases empties with
      | true => exact .ok (like.put place _)
      | false => exact .ok like
  | same =>
      cases entry with
      | directory => exact .error _
      | file =>
          cases empties with
          | true => exact .ok (like.put place _)
          | false => exact .ok like
      | link => exact .ok like
      | tool => exact .ok like
      | device device =>
          cases device with
          | terminal => exact .error _
          | _ => exact .ok like

/-- What is opened in both trees is at the same place. -/
theorem openFile (like : LikeBut places one other) (empties : Bool) (path : String) :
    Agree (fun first second => LikeBut places first.1 second.1 ∧ first.2 = second.2)
      (one.openFile empties path) (other.openFile empties path) := by
  have resolved := like.resolve .create path
  unfold FileTree.openFile
  generalize one.resolve .create path = first at resolved ⊢
  generalize other.resolve .create path = second at resolved ⊢
  cases resolved with
  | error fault => exact .error fault
  | @ok target twin targets =>
      rw [← like.medium]
      cases targets with
      | absent place =>
          dsimp only
          split
          · exact .error _
          · exact .ok ⟨like.put place _, rfl⟩
      | @present place entry later entries =>
          have opened := like.openEntry empties place entries
          dsimp only [Target.place]
          generalize one.openEntry empties place entry = early at opened ⊢
          generalize other.openEntry empties place later = late at opened ⊢
          split
          · exact .error _
          · cases opened with
            | error fault => exact .error fault
            | ok opened => exact .ok ⟨opened, rfl⟩

/-- What is written into both trees is the same, however far it gets. -/
theorem fill (like : LikeBut places one other) (place : Location) (content : List UInt8) :
    LikeBut places (one.fill place content).1 (other.fill place content).1 ∧
      (one.fill place content).2 = (other.fill place content).2 := by
  have held := like.held place
  unfold FileTree.fill
  rw [← like.medium]
  generalize one.get? place = here at held ⊢
  generalize other.get? place = there at held ⊢
  cases held with
  | none => exact ⟨like, rfl⟩
  | @some entry _ entries =>
      cases entries with
      | file =>
          dsimp only
          split
          · exact ⟨like.put place _, rfl⟩
          · exact ⟨like.put place _, rfl⟩
      | same =>
          cases entry with
          | file =>
              dsimp only
              split
              · exact ⟨like.put place _, rfl⟩
              · exact ⟨like.put place _, rfl⟩
          | device device => cases device <;> exact ⟨like, rfl⟩
          | _ => exact ⟨like, rfl⟩

theorem tolerate (like : LikeBut places one other) (path : FilePath) (fault : FileFault) :
    Agree (LikeBut places) (one.tolerate path fault) (other.tolerate path fault) := by
  unfold FileTree.tolerate
  rw [like.isDirectory]
  split
  · exact .ok like
  · exact .error _
  · exact .error _

theorem ensureOne (like : LikeBut places one other) (path : FilePath) :
    Agree (LikeBut places) (one.ensureOne path) (other.ensureOne path) := by
  have made := like.makeDirectory path.text
  unfold FileTree.ensureOne
  generalize one.makeDirectory path.text = first at made ⊢
  generalize other.makeDirectory path.text = second at made ⊢
  cases made with
  | ok trees => exact .ok trees
  | error fault =>
      cases fault with
      | noEntry => exact .error _
      | _ => exact like.tolerate path _

/-- Trees that are alike after making directories, up to the same problem if there is one. -/
def MadeAlike (places : Location → Prop) (first second : FileTree × Option SystemError) : Prop :=
  LikeBut places first.1 second.1 ∧ first.2 = second.2

/-- What an attempt leaves: the tree it made, or the old one with the problem. -/
def afterAttempt (tree : FileTree) : Except SystemError FileTree → FileTree × Option SystemError
  | .ok made => (made, none)
  | .error problem => (tree, some problem)

theorem attempt (like : LikeBut places one other) {first second : Except SystemError FileTree}
    (made : Agree (LikeBut places) first second) :
    MadeAlike places (afterAttempt one first) (afterAttempt other second) := by
  cases made with
  | ok trees => exact ⟨trees, rfl⟩
  | error problem => exact ⟨like, rfl⟩

theorem ensureNames (like : LikeBut places one other) (root : PathRoot) (names : List String) :
    MadeAlike places (FileTree.ensureNames root names one)
      (FileTree.ensureNames root names other) := by
  induction names with
  | nil => exact like.attempt (like.ensureOne _)
  | cons name outer induction =>
      unfold FileTree.ensureNames
      have made := like.makeDirectory (FilePath.mk root (name :: outer).reverse).text
      dsimp only
      generalize one.makeDirectory (FilePath.mk root (name :: outer).reverse).text = first
        at made ⊢
      generalize other.makeDirectory (FilePath.mk root (name :: outer).reverse).text = second
        at made ⊢
      cases made with
      | ok trees => exact ⟨trees, rfl⟩
      | error fault =>
          cases fault with
          | noEntry =>
              obtain ⟨trees, problems⟩ := induction
              generalize FileTree.ensureNames root outer one = early at trees problems ⊢
              generalize FileTree.ensureNames root outer other = late at trees problems ⊢
              rcases early with ⟨early, _ | problem⟩ <;> rcases late with ⟨late, _ | fault⟩
              · exact trees.attempt (trees.ensureOne _)
              · cases problems
              · cases problems
              · exact ⟨trees, problems⟩
          | _ => exact like.attempt (like.tolerate _ _)

theorem ensureDirectory (like : LikeBut places one other) (path : FilePath) :
    MadeAlike places (one.ensureDirectory path) (other.ensureDirectory path) :=
  like.ensureNames path.root path.names.reverse

end LikeBut

end FileTree

end RepoCatalog
