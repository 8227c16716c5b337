import RepoCatalog.File.Tree

/-!
# Walks through a file tree

The steps of a walk as a relation. Where a walk ends is what the tree holds there, and a walk to a
file that is created or replaced finds the new file afterwards.
-/

namespace RepoCatalog

/-- A target is what a tree holds at its place; directories are not looked up where a walk ends. -/
def Target.FoundIn (tree : FileTree) : Target → Prop
  | .absent place => tree.get? place = none
  | .present place entry => entry = .directory ∨ tree.get? place = some entry

/-- A target is a place for a file: nothing is there, or a file. -/
def Target.IsForFile (place : Location) (target : Target) : Prop :=
  target = .absent place ∨ ∃ content executable, target = .present place (.file content executable)

namespace FileTree

/-! ## Steps -/

/-- A component that names an entry of a directory, with those after it. -/
structure NamesEntry (ending : PathEnd) (name : String) (rest : List String) : Prop where
  /-- It is not the directory itself. -/
  moves : ¬ (decide (name = "") || decide (name = ".")) = true
  /-- It is not the directory above. -/
  descends : name ≠ ".."
  /-- A new file is not named like a directory. -/
  plain : ¬ (decide (ending = .create) && rest.all (· = "") && !rest.isEmpty) = true
  /-- It is no longer than a name may be. -/
  short : ¬ nameLimit < nameSize name

/-- What a walk may make: its last component, where that is allowed. -/
structure MayMake (ending : PathEnd) (next : Location) (rest : List String) : Prop where
  /-- Nothing but slashes follows a directory, and nothing at all another entry. -/
  last : ¬ (!rest.isEmpty && !(decide (ending = .make) && rest.all (· = ""))) = true
  /-- The directory takes new entries. -/
  taken : (if ending = .create || ending = .make then refusal? ending next else none) = none

/-- Where a walk ends that follows symbolic links, each counted. -/
inductive WalksTo (tree : FileTree) (ending : PathEnd) :
    Nat → Location → List String → Target → Prop
  | here {links : Nat} {place : Location} :
      WalksTo tree ending links place [] (.present place .directory)
  | stay {links : Nat} {place : Location} {name : String} {rest : List String} {target : Target}
      (still : (decide (name = "") || decide (name = ".")) = true)
      (later : WalksTo tree ending links place rest target) :
      WalksTo tree ending links place (name :: rest) target
  | up {links : Nat} {place : Location} {rest : List String} {target : Target}
      (later : WalksTo tree ending links place.dropLast rest target) :
      WalksTo tree ending links place (".." :: rest) target
  | down {links : Nat} {place : Location} {name : String} {rest : List String} {target : Target}
      (named : NamesEntry ending name rest)
      (held : tree.get? (place ++ [name]) = some .directory)
      (later : WalksTo tree ending links (place ++ [name]) rest target) :
      WalksTo tree ending links place (name :: rest) target
  | free {links : Nat} {place : Location} {name : String} {rest : List String}
      (named : NamesEntry ending name rest) (free : tree.get? (place ++ [name]) = none)
      (made : MayMake ending (place ++ [name]) rest) :
      WalksTo tree ending links place (name :: rest) (.absent (place ++ [name]))
  | link {links : Nat} {place : Location} {name : String} {rest : List String} {text : String}
      (named : NamesEntry ending name rest)
      (held : tree.get? (place ++ [name]) = some (.link text))
      (kept : (rest.isEmpty && !ending.follows) = true) :
      WalksTo tree ending links place (name :: rest) (.present (place ++ [name]) (.link text))
  | follow {links : Nat} {place : Location} {name : String} {rest : List String} {text : String}
      {target : Target} (named : NamesEntry ending name rest)
      (held : tree.get? (place ++ [name]) = some (.link text))
      (goes : ¬ (rest.isEmpty && !ending.follows) = true)
      (later : WalksTo tree ending links (if isAbsolute text then [] else place)
        (components text ++ rest) target) :
      WalksTo tree ending (links + 1) place (name :: rest) target
  | other {links : Nat} {place : Location} {name : String} {entry : Entry}
      (named : NamesEntry ending name []) (held : tree.get? (place ++ [name]) = some entry)
      (differs : entry ≠ .directory ∧ ∀ text, entry ≠ .link text) :
      WalksTo tree ending links place [name] (.present (place ++ [name]) entry)

variable {tree : FileTree} {ending : PathEnd}

/-- A walk takes the steps that its components name, if what follows its links does. -/
theorem walksTo_of_walkWith {follow : Location → List String → Except FileFault Target}
    {links : Nat} (follows : ∀ start names target, follow start names = .ok target →
      ∃ fewer, links = fewer + 1 ∧ WalksTo tree ending fewer start names target)
    {start : Location} {names : List String} {target : Target}
    (walked : walkWith tree ending follow start names = .ok target) :
    WalksTo tree ending links start names target := by
  induction names generalizing start with
  | nil =>
      cases walked
      exact .here
  | cons name rest induction =>
      simp only [walkWith] at walked
      split at walked
      case isTrue still => exact .stay still (induction walked)
      case isFalse moves =>
        split at walked
        case isTrue up =>
          subst up
          exact .up (induction walked)
        case isFalse descends =>
          split at walked
          case isTrue => cases walked
          case isFalse plain =>
            split at walked
            case isTrue => cases walked
            case isFalse short =>
              have named : NamesEntry ending name rest := ⟨moves, descends, plain, short⟩
              split at walked
              case h_1 free =>
                split at walked
                case isTrue => cases walked
                case isFalse last =>
                  split at walked
                  case h_1 => cases walked
                  case h_2 taken =>
                    cases walked
                    exact .free named free ⟨last, taken⟩
              case h_2 held => exact .down named held (induction walked)
              case h_3 held =>
                split at walked
                case isTrue kept =>
                  cases walked
                  exact .link named held kept
                case isFalse goes =>
                  obtain ⟨fewer, rfl, later⟩ := follows _ _ _ walked
                  exact .follow named held goes later
              case h_4 noDirectory noLink held =>
                split at walked
                case isTrue last =>
                  cases walked
                  obtain rfl := List.isEmpty_iff.mp last
                  exact .other named held ⟨noDirectory, noLink⟩
                case isFalse => cases walked

theorem walksTo_of_walk {links : Nat} {start : Location} {names : List String} {target : Target}
    (walked : walk tree ending links start names = .ok target) :
    WalksTo tree ending links start names target := by
  induction links generalizing start names target with
  | zero => exact walksTo_of_walkWith (fun _ _ _ stuck => by cases stuck) walked
  | succ links induction =>
      exact walksTo_of_walkWith (fun _ _ _ later => ⟨links, rfl, induction later⟩) walked

theorem walkWith_of_namesEntry {follow : Location → List String → Except FileFault Target}
    {place : Location} {name : String} {rest : List String}
    (named : NamesEntry ending name rest) :
    walkWith tree ending follow place (name :: rest) =
      match tree.get? (place ++ [name]) with
      | none =>
        if !rest.isEmpty && !(decide (ending = .make) && rest.all (· = "")) then .error .noEntry
        else
          match if ending = .create || ending = .make then refusal? ending (place ++ [name])
            else none with
          | some fault => .error fault
          | none => .ok (.absent (place ++ [name]))
      | some .directory => walkWith tree ending follow (place ++ [name]) rest
      | some (.link target) =>
        if rest.isEmpty && !ending.follows then .ok (.present (place ++ [name]) (.link target))
        else follow (if isAbsolute target then [] else place) (components target ++ rest)
      | some entry =>
        if rest.isEmpty then .ok (.present (place ++ [name]) entry) else .error .notDirectory := by
  refine (if_neg named.moves).trans ?_
  refine (if_neg named.descends).trans ?_
  exact (if_neg named.plain).trans (if_neg named.short)

theorem exists_walkWith (tree : FileTree) (ending : PathEnd) (links : Nat) :
    ∃ follow, walk tree ending links = walkWith tree ending follow := by
  cases links with
  | zero => exact ⟨_, rfl⟩
  | succ links => exact ⟨_, rfl⟩

/-- Steps lead where the walk ends. -/
theorem walk_of_walksTo {links : Nat} {start : Location} {names : List String} {target : Target}
    (walks : WalksTo tree ending links start names target) :
    walk tree ending links start names = .ok target := by
  induction walks with
  | @here links place =>
      obtain ⟨follow, same⟩ := exists_walkWith tree ending links
      rw [same, walkWith]
  | @stay links place name rest target still later induction =>
      obtain ⟨follow, same⟩ := exists_walkWith tree ending links
      rw [same] at induction ⊢
      rw [walkWith, if_pos still, induction]
  | @up links place rest target later induction =>
      obtain ⟨follow, same⟩ := exists_walkWith tree ending links
      rw [same] at induction ⊢
      rw [walkWith, if_neg (by decide), if_pos rfl, induction]
  | @down links place name rest target named held later induction =>
      obtain ⟨follow, same⟩ := exists_walkWith tree ending links
      rw [same] at induction ⊢
      rw [walkWith_of_namesEntry named, held]
      exact induction
  | @free links place name rest named free made =>
      obtain ⟨follow, same⟩ := exists_walkWith tree ending links
      rw [same, walkWith_of_namesEntry named, free]
      simp only [if_neg made.last, made.taken]
  | @link links place name rest text named held kept =>
      obtain ⟨follow, same⟩ := exists_walkWith tree ending links
      rw [same, walkWith_of_namesEntry named, held]
      simp only [if_pos kept]
  | @follow links place name rest text target named held goes later induction =>
      rw [walk, walkWith_of_namesEntry named, held]
      simp only [if_neg goes]
      exact induction
  | @other links place name entry named held differs =>
      obtain ⟨follow, same⟩ := exists_walkWith tree ending links
      rw [same, walkWith_of_namesEntry named, held]
      cases entry with
      | directory => exact absurd rfl differs.1
      | link text => exact absurd rfl (differs.2 text)
      | file | tool | device => rfl

/-- A walk ends at a target exactly if its steps lead there. -/
theorem walk_eq_ok_iff {links : Nat} {start : Location} {names : List String} {target : Target} :
    walk tree ending links start names = .ok target ↔
      WalksTo tree ending links start names target :=
  ⟨walksTo_of_walk, walk_of_walksTo⟩

/-! ## Where a walk ends -/

/-- A walk ends with what the tree holds. -/
theorem WalksTo.foundIn {links : Nat} {start : Location} {names : List String} {target : Target}
    (walks : WalksTo tree ending links start names target) : target.FoundIn tree := by
  induction walks with
  | here => exact .inl rfl
  | stay _ _ induction | up _ induction | down _ _ _ induction | follow _ _ _ _ induction =>
      exact induction
  | free _ free _ => exact free
  | link _ held _ | other _ held _ => exact .inr held

/-- A path leads to a target exactly if it is no longer than a path may be and the steps that its
components name lead there. -/
theorem resolve_eq_ok_iff {path : String} {target : Target} :
    tree.resolve ending path = .ok target ↔
      path.isEmpty = false ∧ nameSize path ≤ pathLimit ∧
        WalksTo tree ending linkLimit (if isAbsolute path then [] else tree.working)
          (components path) target := by
  rw [resolve, ← walk_eq_ok_iff]
  cases path.isEmpty with
  | true => simp
  | false =>
      by_cases long : pathLimit < nameSize path
      · simp [long, Nat.not_le.mpr long]
      · simp [long, Nat.not_lt.mp long]

theorem foundIn_of_resolve {path : String} {target : Target}
    (resolved : tree.resolve ending path = .ok target) : target.FoundIn tree :=
  (resolve_eq_ok_iff.mp resolved).2.2.foundIn

/-! ## Walking to a new file -/

section NewFile

variable {place : Location} {content : List UInt8} {executable : Bool}

theorem NamesEntry.follow {name : String} {rest : List String}
    (named : NamesEntry ending name rest) : NamesEntry .follow name rest :=
  ⟨named.moves, named.descends, by simp, named.short⟩

/-- What is no file is not at the place of a file. -/
theorem get?_put_of_no_file {other : Location} {entry : Entry}
    (plain : ∀ held, tree.get? place = some held → ∃ old mode, held = .file old mode)
    (held : tree.get? other = some entry) (differs : ∀ old mode, entry ≠ .file old mode)
    (new : Entry) : (tree.put place new).get? other = some entry := by
  have apart : other ≠ place := by
    rintro rfl
    obtain ⟨old, mode, rfl⟩ := plain entry held
    exact differs old mode rfl
  rw [get?_put_of_ne tree apart, held]

/-- A walk that leads to a place for a file finds the file that was put there, and finds it again
if it is to create a file there. -/
theorem WalksTo.put {later : PathEnd} (follows : later.follows = true)
    (names : ∀ {name rest}, NamesEntry .create name rest → NamesEntry later name rest)
    (plain : ∀ entry, tree.get? place = some entry → ∃ old mode, entry = .file old mode)
    {links : Nat} {start : Location} {path : List String} {target : Target}
    (walks : WalksTo tree .create links start path target) (leads : target.IsForFile place) :
    WalksTo (tree.put place (.file content executable)) later links start path
      (.present place (.file content executable)) := by
  have arrives : ∀ {links : Nat} {start : Location} {name : String},
      NamesEntry .create name [] → start ++ [name] = place →
      WalksTo (tree.put place (.file content executable)) later links start [name]
        (.present place (.file content executable)) := by
    rintro links start name named rfl
    exact .other (names named) (get?_put_self tree (by simp) _) ⟨by simp, by simp⟩
  induction walks with
  | here =>
      rcases leads with absent | ⟨_, _, present⟩
      · cases absent
      · cases present
  | stay still later induction => exact .stay still (induction leads)
  | up later induction => exact .up (induction leads)
  | down named held later induction =>
      exact .down (names named) (get?_put_of_no_file plain held (by simp) _) (induction leads)
  | @free links start name rest named free made =>
      obtain rfl : rest = [] := by simpa using made.last
      rcases leads with absent | ⟨_, _, present⟩
      · exact arrives named (Target.absent.inj absent)
      · cases present
  | link named held kept => simp [PathEnd.follows] at kept
  | follow named held goes later induction =>
      exact .follow (names named) (get?_put_of_no_file plain held (by simp) _) (by simp [follows])
        (induction leads)
  | other named held differs =>
      rcases leads with absent | ⟨_, _, present⟩
      · cases absent
      · exact arrives named (Target.present.inj present).1

theorem resolve_put_of_names {later : PathEnd} (follows : later.follows = true)
    (names : ∀ {name rest}, NamesEntry .create name rest → NamesEntry later name rest)
    {path : String} {target : Target} (resolved : tree.resolve .create path = .ok target)
    (leads : target.IsForFile place) :
    (tree.put place (.file content executable)).resolve later path =
      .ok (.present place (.file content executable)) := by
  have plain : ∀ entry, tree.get? place = some entry → ∃ old mode, entry = .file old mode := by
    intro entry held
    have found := foundIn_of_resolve resolved
    rcases leads with rfl | ⟨old, mode, rfl⟩
    · rw [show tree.get? place = none from found] at held
      cases held
    · rcases found with directory | there
      · cases directory
      · rw [there] at held
        exact ⟨old, mode, (Option.some.inj held).symm⟩
  obtain ⟨named, short, walks⟩ := resolve_eq_ok_iff.mp resolved
  exact resolve_eq_ok_iff.mpr ⟨named, short, walks.put follows names plain leads⟩

theorem resolve_put {path : String} {target : Target}
    (resolved : tree.resolve .create path = .ok target) (leads : target.IsForFile place) :
    (tree.put place (.file content executable)).resolve .follow path =
      .ok (.present place (.file content executable)) :=
  resolve_put_of_names rfl NamesEntry.follow resolved leads

/-- A file that was created is found when it is to be created again. -/
theorem resolve_create_put {path : String} {target : Target}
    (resolved : tree.resolve .create path = .ok target) (leads : target.IsForFile place) :
    (tree.put place (.file content executable)).resolve .create path =
      .ok (.present place (.file content executable)) :=
  resolve_put_of_names rfl id resolved leads

end NewFile

/-! ## Walking to a new directory -/

/-- Slashes after a directory lead nowhere else. -/
theorem walksTo_slashes {links : Nat} {place : Location} {names : List String}
    (slashes : names.all (· = "") = true) :
    WalksTo tree ending links place names (.present place .directory) := by
  induction names with
  | nil => exact .here
  | cons name names induction =>
      simp only [List.all_cons, Bool.and_eq_true, decide_eq_true_eq] at slashes
      exact .stay (by simp [slashes.1]) (induction slashes.2)

/-- A walk that leads to where a directory is to be made finds the directory that was put there. -/
theorem WalksTo.put_directory {place : Location} (free : tree.get? place = none) {links : Nat}
    {start : Location} {names : List String} {target : Target}
    (walks : WalksTo tree .make links start names target) (leads : target = .absent place) :
    WalksTo (tree.put place .directory) .follow links start names (.present place .directory) := by
  have kept : ∀ {other : Location} {entry : Entry}, tree.get? other = some entry →
      (tree.put place .directory).get? other = some entry := by
    intro other entry held
    have apart : other ≠ place := by
      rintro rfl
      rw [free] at held
      cases held
    rw [get?_put_of_ne tree apart, held]
  induction walks with
  | here => cases leads
  | stay still _ induction => exact .stay still (induction leads)
  | up _ induction => exact .up (induction leads)
  | down named held _ induction => exact .down named.follow (kept held) (induction leads)
  | @free links start name rest named absent made =>
      cases leads
      have slashes : rest.all (· = "") = true := by
        cases rest with
        | nil => rfl
        | cons other rest => simpa using made.last
      exact .down named.follow (get?_put_self tree (by simp) _) (walksTo_slashes slashes)
  | link => cases leads
  | follow named held _ _ induction =>
      exact .follow named.follow (kept held) (by simp [PathEnd.follows]) (induction leads)
  | other => cases leads

theorem resolve_put_directory {place : Location} {path : String}
    (resolved : tree.resolve .make path = .ok (.absent place)) :
    (tree.put place .directory).resolve .follow path = .ok (.present place .directory) := by
  obtain ⟨named, short, walks⟩ := resolve_eq_ok_iff.mp resolved
  exact resolve_eq_ok_iff.mpr
    ⟨named, short, walks.put_directory (foundIn_of_resolve resolved) rfl⟩

/-- Where a path leads to something, nothing can be made: it leads to the same, or to a link. -/
theorem WalksTo.make {links : Nat} {start place : Location} {names : List String} {entry : Entry}
    (walks : WalksTo tree .follow links start names (.present place entry)) :
    ∃ other kept, WalksTo tree .make links start names (.present other kept) := by
  have names : ∀ {name rest}, NamesEntry .follow name rest → NamesEntry .make name rest :=
    fun named => ⟨named.moves, named.descends, by simp, named.short⟩
  generalize reached : Target.present place entry = target at walks
  induction walks with
  | here => exact ⟨_, _, .here⟩
  | stay still _ induction =>
      obtain ⟨other, kept, walks⟩ := induction reached
      exact ⟨other, kept, .stay still walks⟩
  | up _ induction =>
      obtain ⟨other, kept, walks⟩ := induction reached
      exact ⟨other, kept, .up walks⟩
  | down named held _ induction =>
      obtain ⟨other, kept, walks⟩ := induction reached
      exact ⟨other, kept, .down (names named) held walks⟩
  | free => cases reached
  | link _ _ kept => simp [PathEnd.follows] at kept
  | @follow links start name rest text target named held goes later induction =>
      by_cases last : rest.isEmpty = true
      · exact ⟨_, _, .link (names named) held (by simp [last, PathEnd.follows])⟩
      · obtain ⟨other, kept, walks⟩ := induction reached
        exact ⟨other, kept, .follow (names named) held (by simp [last]) walks⟩
  | other named held differs => exact ⟨_, _, .other (names named) held differs⟩

/-- A directory that is there is not made. -/
theorem makeDirectory_of_resolve {path : String} {place : Location} {entry : Entry}
    (resolved : tree.resolve .follow path = .ok (.present place entry)) :
    tree.makeDirectory path = .error .entryExists := by
  obtain ⟨named, short, walks⟩ := resolve_eq_ok_iff.mp resolved
  obtain ⟨other, kept, makes⟩ := walks.make
  rw [makeDirectory, resolve_eq_ok_iff.mpr ⟨named, short, makes⟩]

end FileTree

end RepoCatalog
