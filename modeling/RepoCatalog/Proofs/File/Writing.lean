import RepoCatalog.Proofs.File.Directories
import RepoCatalog.Proofs.File.Likeness

/-!
# Writing a file

A file is written where its path leads, once the directories on the way are made: every other entry
stays as it was, and what was made is on the way.
-/

namespace RepoCatalog

/-- Entries that hold no bytes of their own: devices, and programs of the machine. -/
inductive Entry.IsSpecial : Entry → Prop
  | device (device : Device) : IsSpecial (.device device)
  | tool (program : String) : IsSpecial (.tool program)

instance (entry : Entry) : Decidable entry.IsSpecial :=
  match entry with
  | .device device => .isTrue (.device device)
  | .tool program => .isTrue (.tool program)
  | .directory | .file _ _ | .link _ => .isFalse nofun

/-- Entries that are opened for writing: files and special ones, neither directories nor links. -/
inductive Entry.IsOpenable : Entry → Prop
  | file (content : List UInt8) (executable : Bool) : IsOpenable (.file content executable)
  | special {entry : Entry} (isSpecial : entry.IsSpecial) : IsOpenable entry

theorem Entry.not_isOpenable_directory : ¬ Entry.IsOpenable .directory := by
  rintro ⟨⟩
  rename_i isSpecial
  cases isSpecial

namespace FileTree

/-- A path leads to a device or a program of the machine, one that was there before. -/
def LeadsToSpecial (before after : FileTree) (path : String) : Prop :=
  ∃ place special, special.IsSpecial ∧ before.get? place = some special ∧
    after.resolve .follow path = .ok (.present place special)

/-- A tree is another one after a content was written to the file at a path. -/
structure Overwrites (before after : FileTree) (path : FilePath) (content : List UInt8)
    (place : Location) (executable : Bool) : Prop where
  /-- The path reads as the content. -/
  reads : after.contentOf path.text = .ok content
  /-- The path leads to the place. -/
  leads : after.resolve .follow path.text = .ok (.present place (.file content executable))
  /-- What was there, if anything, was a file that could be run just as the new one. -/
  old : ∀ entry, before.get? place = some entry → ∃ bytes, entry = .file bytes executable
  /-- Whatever was elsewhere is there. -/
  kept : ∀ other entry, other ≠ place → before.get? other = some entry →
    after.get? other = some entry
  /-- Whatever is new elsewhere is a directory on the way to the file. -/
  new : ∀ other entry, other ≠ place → before.get? other = none →
    after.get? other = some entry → entry = .directory ∧ ∃ above : FilePath,
      above.IsAbove path.parent ∧ after.resolve .follow above.text = .ok (.present other .directory)

/-- In a tree of directories, files and links no path leads to a special file. -/
theorem not_leadsToSpecial {before after : FileTree} {path : String}
    (plain : ∀ held ∈ before.entries, ¬ held.2.IsSpecial) :
    ¬ before.LeadsToSpecial after path := by
  rintro ⟨place, special, isSpecial, held, -⟩
  unfold get? at held
  split at held
  · cases held
    cases isSpecial
  · obtain ⟨earlier, later, split, -⟩ := List.lookup_eq_some_iff.mp held
    exact plain (place, special) (by simp [split]) isSpecial

/-! ## Where a file is written -/

variable {tree : FileTree}

/-- A walk that follows links ends at none. -/
theorem WalksTo.not_link {ending : PathEnd} (follows : ending.follows = true) {links : Nat}
    {start place : Location} {names : List String} {text : String}
    (walks : WalksTo tree ending links start names (.present place (.link text))) : False := by
  generalize reached : Target.present place (.link text) = target at walks
  induction walks with
  | here => cases reached
  | stay _ _ induction | up _ induction | down _ _ _ induction | follow _ _ _ _ induction =>
      exact induction reached
  | free => cases reached
  | link _ _ kept => simp [follows] at kept
  | other _ _ differs =>
      cases reached
      exact differs.2 text rfl

/-- What a file would be created over is what its path leads to. -/
theorem WalksTo.follow_of_create {links : Nat} {start place : Location} {names : List String}
    {entry : Entry} (walks : WalksTo tree .create links start names (.present place entry)) :
    WalksTo tree .follow links start names (.present place entry) := by
  generalize reached : Target.present place entry = target at walks ⊢
  induction walks with
  | here => exact .here
  | stay still _ induction => exact .stay still (induction reached)
  | up _ induction => exact .up (induction reached)
  | down named held _ induction => exact .down named.follow held (induction reached)
  | free => cases reached
  | link _ _ kept => simp [PathEnd.follows] at kept
  | follow named held _ _ induction =>
      exact .follow named.follow held (by simp [PathEnd.follows]) (induction reached)
  | other named held differs => exact .other named.follow held differs

theorem resolve_follow_of_create {path : String} {place : Location} {entry : Entry}
    (resolved : tree.resolve .create path = .ok (.present place entry)) :
    tree.resolve .follow path = .ok (.present place entry) := by
  obtain ⟨named, short, walks⟩ := resolve_eq_ok_iff.mp resolved
  exact resolve_eq_ok_iff.mpr ⟨named, short, walks.follow_of_create⟩

/-- The place a content is written to. -/
structure WritesTo (tree : FileTree) (path : String) (place : Location) (executable : Bool) :
    Prop where
  /-- The path leads to a place for a file. -/
  leads : ∃ target, tree.resolve .create path = .ok target ∧ target.IsForFile place
  /-- What is there, if anything, is a file that can be run just as the new one. -/
  old : ∀ entry, tree.get? place = some entry → ∃ bytes, entry = .file bytes executable
  /-- The medium lets it be opened. -/
  opens : tree.medium.barsFile place = none

/-- What a path leads to when it is opened for writing: a place for a file, which is empty then, or
a special file. -/
inductive Empties (tree : FileTree) (path : String) (place : Location) : FileTree → Prop
  | file {executable : Bool} (writes : tree.WritesTo path place executable) :
      Empties tree path place (tree.put place (.file [] executable))
  | special {entry : Entry} (isSpecial : entry.IsSpecial)
      (resolved : tree.resolve .create path = .ok (.present place entry)) :
      Empties tree path place tree

/-- A file is opened where its path leads, if the medium lets it be opened. -/
theorem openFile_cases {opened : FileTree} {empties : Bool} {path : String} {place : Location}
    (ran : tree.openFile empties path = .ok (opened, place)) :
    tree.medium.barsFile place = none ∧
      (tree.resolve .create path = .ok (.absent place) ∧ opened = tree.put place (.file [] false) ∨
        ∃ entry, tree.resolve .create path = .ok (.present place entry) ∧
          tree.openEntry empties place entry = .ok opened) := by
  unfold openFile at ran
  split at ran
  · cases ran
  · rename_i target resolved
    split at ran
    · cases ran
    · rename_i opens
      cases target with
      | absent free =>
          cases ran
          exact ⟨opens, .inl ⟨resolved, rfl⟩⟩
      | present there entry =>
          dsimp only at ran
          cases entered : tree.openEntry empties there entry with
          | error fault =>
              rw [entered] at ran
              cases ran
          | ok opened =>
              rw [entered] at ran
              cases ran
              exact ⟨opens, .inr ⟨entry, resolved, entered⟩⟩

/-- Opening a special file leaves the tree as it was. -/
theorem openEntry_of_isSpecial {opened : FileTree} {empties : Bool} {place : Location}
    {special : Entry} (isSpecial : special.IsSpecial)
    (entered : tree.openEntry empties place special = .ok opened) : opened = tree := by
  cases isSpecial with
  | tool =>
      cases entered
      rfl
  | device device => cases device <;> cases entered <;> rfl

theorem empties_of_openFile {opened : FileTree} {path : String} {place : Location}
    (ran : tree.openFile true path = .ok (opened, place)) : tree.Empties path place opened := by
  rcases openFile_cases ran with ⟨opens, ⟨resolved, rfl⟩ | ⟨entry, resolved, entered⟩⟩
  · refine .file ⟨⟨_, resolved, .inl rfl⟩, fun entry held => ?_, opens⟩
    rw [show tree.get? place = none from foundIn_of_resolve resolved] at held
    cases held
  · cases entry with
    | directory => cases entered
    | file old executable =>
        cases entered
        refine .file ⟨⟨_, resolved, .inr ⟨old, executable, rfl⟩⟩, fun entry held => ⟨old, ?_⟩, opens⟩
        rcases foundIn_of_resolve resolved with directory | there
        · cases directory
        · exact Option.some.inj (held.symm.trans there)
    | link text => exact ((resolve_eq_ok_iff.mp resolved).2.2.not_link rfl).elim
    | tool program =>
        obtain rfl := openEntry_of_isSpecial (.tool program) entered
        exact .special (.tool program) resolved
    | device device =>
        obtain rfl := openEntry_of_isSpecial (.device device) entered
        exact .special (.device device) resolved

/-- A special file takes what is written to it, or refuses it; the tree stays. -/
theorem fill_of_isSpecial {special : Entry} {place : Location} (isSpecial : special.IsSpecial)
    (held : tree.get? place = some special) (content : List UInt8) :
    (tree.fill place content).1 = tree := by
  unfold fill
  rw [held]
  cases isSpecial with
  | tool => rfl
  | device device => cases device <;> rfl

/-- A special file that a path leads to is in the tree. -/
theorem get?_of_isSpecial {special : Entry} {path : String} {place : Location} {ending : PathEnd}
    (isSpecial : special.IsSpecial)
    (resolved : tree.resolve ending path = .ok (.present place special)) :
    tree.get? place = some special := by
  rcases foundIn_of_resolve resolved with rfl | held
  · cases isSpecial
  · exact held

/-- A file that was opened holds what was written to it, as far as the medium took it. -/
theorem WritesTo.fill_eq {path : String} {place : Location} {executable : Bool}
    (writes : tree.WritesTo path place executable) (content : List UInt8) :
    (tree.put place (.file [] executable)).fill place content =
      match tree.medium.breaksOff place content with
      | some (count, fault) => (tree.put place (.file (content.take count) executable), some fault)
      | none => (tree.put place (.file content executable), none) := by
  have below : place ≠ [] := by
    rintro rfl
    obtain ⟨_, directory⟩ := writes.old .directory rfl
    cases directory
  rw [fill, get?_put_self tree below]
  simp only [put_put]
  rfl

/-- What was written is at the place the path leads to, unless that is a special file. -/
theorem exists_writesTo {written : FileTree} {path : String} {content : List UInt8}
    (wrote : tree.writeContent path content = .ok written)
    (plain : ∀ place special, special.IsSpecial →
      tree.resolve .create path ≠ .ok (.present place special)) :
    ∃ place executable, tree.WritesTo path place executable ∧
      tree.medium.breaksOff place content = none ∧
      written = tree.put place (.file content executable) := by
  unfold writeContent at wrote
  split at wrote
  · cases wrote
  · rename_i opened place ran
    cases empties_of_openFile ran with
    | special isSpecial resolved => exact absurd resolved (plain _ _ isSpecial)
    | @file executable writes =>
        rw [writes.fill_eq] at wrote
        cases whole : tree.medium.breaksOff place content with
        | some broken =>
            rw [whole] at wrote
            cases wrote
        | none =>
            rw [whole] at wrote
            cases wrote
            exact ⟨place, executable, writes, whole, rfl⟩

/-- Writing to a special file leaves the tree as it was. -/
theorem eq_of_writeContent {written : FileTree} {path : String} {content : List UInt8}
    {special : Entry} {place : Location} (isSpecial : special.IsSpecial)
    (resolved : tree.resolve .create path = .ok (.present place special))
    (wrote : tree.writeContent path content = .ok written) : written = tree := by
  unfold writeContent at wrote
  split at wrote
  · cases wrote
  · rename_i opened there ran
    have unchanged : opened = tree ∧ there = place := by
      rcases openFile_cases ran with ⟨-, ⟨free, -⟩ | ⟨entry, again, entered⟩⟩
      · rw [resolved] at free
        cases free
      · rw [resolved] at again
        cases again
        exact ⟨openEntry_of_isSpecial isSpecial entered, rfl⟩
    obtain ⟨rfl, rfl⟩ := unchanged
    have kept := fill_of_isSpecial isSpecial (get?_of_isSpecial isSpecial resolved) content
    split at wrote
    · rename_i filled ran
      cases wrote
      rw [ran] at kept
      exact kept
    · cases wrote

/-- A file that was written holds what was written, unless the path leads to something that is no
file. -/
theorem contentOf_writeContent {later : FileTree} {path : String} {content : List UInt8}
    (wrote : tree.writeContent path content = .ok later)
    (plain : ∀ place entry, tree.resolve .create path = .ok (.present place entry) →
      ∃ old mode, entry = .file old mode) : later.contentOf path = .ok content := by
  obtain ⟨place, executable, writes, -, rfl⟩ :=
    exists_writesTo wrote fun place special isSpecial resolved => by
      obtain ⟨old, mode, rfl⟩ := plain place special resolved
      cases isSpecial
  obtain ⟨target, resolved, isForFile⟩ := writes.leads
  rw [contentOf, inspect, resolve_put resolved isForFile]

/-! ## What is not written -/

/-- The place that was opened is where the path leads. -/
theorem exists_place_of_openFile {opened : FileTree} {empties : Bool} {path : String}
    {place : Location} (ran : tree.openFile empties path = .ok (opened, place)) :
    ∃ target, tree.resolve .create path = .ok target ∧ target.place = place := by
  rcases openFile_cases ran with ⟨-, ⟨resolved, -⟩ | ⟨entry, resolved, -⟩⟩
  · exact ⟨_, resolved, rfl⟩
  · exact ⟨_, resolved, rfl⟩

/-- Opening a file leaves everything else as it was. -/
theorem get?_openFile_of_ne {opened : FileTree} {empties : Bool} {path : String}
    {place other : Location} (ran : tree.openFile empties path = .ok (opened, place))
    (apart : other ≠ place) : opened.get? other = tree.get? other := by
  rcases openFile_cases ran with ⟨-, ⟨-, rfl⟩ | ⟨entry, -, entered⟩⟩
  · exact get?_put_of_ne tree apart _
  · unfold openEntry at entered
    split at entered
    · cases entered
    · cases entered
    · cases entered
      split
      · exact get?_put_of_ne tree apart _
      · rfl
    · cases entered
      rfl

/-- Writing to a file leaves everything else as it was, however far it gets. -/
theorem get?_fill_of_ne {place other : Location} (apart : other ≠ place) (content : List UInt8) :
    (tree.fill place content).1.get? other = tree.get? other := by
  unfold fill
  split
  · split <;> exact get?_put_of_ne tree apart _
  · rfl
  · rfl

section Written

variable {path : String} {place : Location} {executable : Bool}

theorem WritesTo.resolve (writes : tree.WritesTo path place executable) (content : List UInt8) :
    (tree.put place (.file content executable)).resolve .follow path =
      .ok (.present place (.file content executable)) := by
  obtain ⟨target, resolved, isForFile⟩ := writes.leads
  exact resolve_put resolved isForFile

/-- Writing the same again changes nothing. -/
theorem WritesTo.again (writes : tree.WritesTo path place executable) {content : List UInt8}
    (whole : tree.medium.breaksOff place content = none) :
    (tree.put place (.file content executable)).writeContent path content =
      .ok (tree.put place (.file content executable)) := by
  obtain ⟨target, resolved, isForFile⟩ := writes.leads
  have unbarred : (tree.put place (.file content executable)).medium.barsFile place = none :=
    writes.opens
  have opened : (tree.put place (.file content executable)).openFile true path =
      .ok (tree.put place (.file [] executable), place) := by
    simp only [openFile, resolve_create_put resolved isForFile, Target.place, unbarred, openEntry,
      if_true, put_put]
    rfl
  simp only [writeContent, opened, writes.fill_eq, whole]

/-- What led to a directory leads to it when the file is written. -/
theorem WritesTo.directory (writes : tree.WritesTo path place executable) (content : List UInt8)
    {other : String} {elsewhere : Location}
    (resolved : tree.resolve .follow other = .ok (.present elsewhere .directory)) :
    (tree.put place (.file content executable)).resolve .follow other =
      .ok (.present elsewhere .directory) := by
  cases held : tree.get? place with
  | none => exact (extends_put held _).resolve resolved
  | some entry =>
      obtain ⟨old, rfl⟩ := writes.old entry held
      have like : LikeBut (fun _ => True) tree (tree.put place (.file content executable)) :=
        .refill trivial held content
      have alike := like.resolve .follow other
      rw [resolved] at alike
      generalize (tree.put place (.file content executable)).resolve .follow other = after at alike
      cases alike with
      | ok targets =>
          cases targets with
          | present elsewhere entries =>
              cases entries
              rfl

theorem WritesTo.inspect_directory (writes : tree.WritesTo path place executable)
    (content : List UInt8) {other : String} (there : tree.inspect other = .ok .directory) :
    (tree.put place (.file content executable)).inspect other = .ok .directory := by
  obtain ⟨elsewhere, resolved⟩ := exists_resolve_of_inspect there
  rw [inspect, writes.directory content resolved]

end Written

/-! ## Writing behind new directories -/

section Paved

variable {before middle after : FileTree} {path : FilePath} {content : List UInt8}

/-- Making directories makes no special file. -/
theorem Paves.special (paves : before.Paves middle path) {place : Location} {special : Entry}
    (isSpecial : special.IsSpecial) (held : middle.get? place = some special) :
    before.get? place = some special := by
  cases there : before.get? place with
  | none =>
      obtain ⟨rfl, -⟩ := paves.new place special there held
      cases isSpecial
  | some entry => exact (paves.more.holds place entry there).symm.trans held

/-- A path that leads to no special file afterwards leads to a place for a file. -/
theorem exists_writesTo_of_paves (paves : before.Paves middle path.parent)
    (wrote : middle.writeContent path.text content = .ok after)
    (plain : ¬ before.LeadsToSpecial after path.text) :
    ∃ place executable, middle.WritesTo path.text place executable ∧
      middle.medium.breaksOff place content = none ∧
      after = middle.put place (.file content executable) := by
  refine exists_writesTo wrote fun place special isSpecial resolved => plain ?_
  have held := get?_of_isSpecial isSpecial resolved
  refine ⟨place, special, isSpecial, paves.special isSpecial held, ?_⟩
  obtain rfl : after = middle := eq_of_writeContent isSpecial resolved wrote
  exact resolve_follow_of_create resolved

/-- A content written once the directories are made overwrites the file. -/
theorem WritesTo.overwrites {place : Location} {executable : Bool}
    (writes : middle.WritesTo path.text place executable)
    (paves : before.Paves middle path.parent) (content : List UInt8) :
    before.Overwrites (middle.put place (.file content executable)) path content place
      executable where
  reads := by simp [contentOf, inspect, writes.resolve content]
  leads := writes.resolve content
  old entry held := writes.old entry (paves.more.holds place entry held)
  kept other entry differs held := by
    rw [get?_put_of_ne middle differs]
    exact paves.more.holds other entry held
  new other entry differs free held := by
    rw [get?_put_of_ne middle differs] at held
    obtain ⟨directory, above, isAbove, resolved⟩ := paves.new other entry free held
    exact ⟨directory, above, isAbove, writes.directory content resolved⟩

end Paved

end FileTree

end RepoCatalog
