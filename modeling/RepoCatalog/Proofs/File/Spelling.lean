import RepoCatalog.Proofs.File.Walk
import RepoCatalog.Proofs.Text.Utf8

/-!
# Spellings of a path

A path text leads where its normal form leads, unless it ends like the path of a directory or is too
long for a path. Then it leads to no file.
-/

namespace RepoCatalog

/-! ## The last component -/

theorem bne_slash_of_mem {path : List Char} (plain : '/' ∉ path) :
    ∀ c ∈ path, (c != '/') = true := by
  intro c member
  have apart : c ≠ '/' := fun slash => plain (slash ▸ member)
  simpa using apart

theorem baseChars_of_not_mem {path : List Char} (plain : '/' ∉ path) : baseChars path = path := by
  have whole : path.reverse.takeWhile (· != '/') = path.reverse ++ [].takeWhile (· != '/') := by
    rw [← List.takeWhile_append_of_pos, List.append_nil]
    exact fun c member => bne_slash_of_mem plain c (List.mem_reverse.mp member)
  rw [baseChars, whole]
  simp

theorem baseChars_append {front last : List Char} (plain : '/' ∉ last) :
    baseChars (front ++ '/' :: last) = last := by
  have taken : (last.reverse ++ '/' :: front.reverse).takeWhile (· != '/') = last.reverse := by
    rw [List.takeWhile_append_of_pos, List.takeWhile_cons_of_neg (by simp), List.append_nil]
    exact fun c member => bne_slash_of_mem plain c (List.mem_reverse.mp member)
  rw [baseChars, List.reverse_append, List.reverse_cons, List.append_assoc, List.singleton_append,
    taken, List.reverse_reverse]

/-- The last component of a name in a directory is that name. -/
theorem baseName_joinPath {name : String} (plain : '/' ∉ name.toList) (directory : String) :
    baseName (joinPath directory name) = name := by
  have relative : ¬ (name.toList.head? == some '/') = true := by
    simpa using fun slash => plain (List.mem_of_head? slash)
  have last : baseChars (joinChars directory.toList name.toList) = name.toList := by
    rw [joinChars, if_neg relative]
    split
    · rename_i ends
      rcases List.eq_nil_or_concat directory.toList with empty | ⟨front, c, whole⟩
      · rw [empty]
        exact baseChars_of_not_mem plain
      · obtain rfl : c = '/' := by simpa [whole] using ends
        rw [whole, List.concat_eq_append, List.append_assoc]
        exact baseChars_append plain
    · exact baseChars_append plain
  rw [baseName, joinPath, String.toList_ofList, last, String.ofList_toList]

/-- A path has a slash before its last component, or is one component. -/
theorem exists_last_slash (path : List Char) :
    '/' ∉ path ∨ ∃ front last, path = front ++ '/' :: last ∧ '/' ∉ last := by
  by_cases slash : '/' ∈ path
  · obtain ⟨last, front, split, plain⟩ :=
      List.eq_append_cons_of_mem (List.mem_reverse.mpr slash)
    refine .inr ⟨front.reverse, last.reverse, ?_, by simpa using plain⟩
    rw [← List.reverse_reverse path, split]
    simp
  · exact .inl slash

namespace FileTree

theorem getLast?_components (path : String) :
    (components path).getLast? = some (baseName path) := by
  rw [components, List.getLast?_map, baseName]
  rcases exists_last_slash path.toList with plain | ⟨front, last, whole, plain⟩
  · rw [Text.split_of_not_mem plain, baseChars_of_not_mem plain]
    rfl
  · rw [whole, Text.split_append, Text.split_of_not_mem plain, baseChars_append plain,
      List.getLast?_append]
    rfl

/-! ## Components that lead nowhere -/

/-- Whether a component leads to where it is met. -/
def isStill (name : String) : Bool :=
  name = "" || name = "."

/-- Components of which some that lead nowhere are left out; the last one is kept. -/
inductive Skips : List String → List String → Prop
  | nil : Skips [] []
  | keep (name : String) {names kept : List String} (rest : Skips names kept) :
      Skips (name :: names) (name :: kept)
  | skip {name : String} {names kept : List String} (still : isStill name = true)
      (more : kept ≠ []) (rest : Skips names kept) : Skips (name :: names) kept

theorem Skips.refl (names : List String) : Skips names names := by
  induction names with
  | nil => exact .nil
  | cons name names induction => exact .keep name induction

theorem Skips.append_left {names kept : List String} (skips : Skips names kept)
    (front : List String) : Skips (front ++ names) (front ++ kept) := by
  induction front with
  | nil => exact skips
  | cons name front induction => exact .keep name induction

theorem Skips.isEmpty {names kept : List String} (skips : Skips names kept) :
    names.isEmpty = kept.isEmpty := by
  cases skips with
  | nil => rfl
  | keep => rfl
  | skip _ more _ =>
      rw [List.isEmpty_eq_false_iff.mpr more]
      rfl

/-- Slashes at the beginning may be left out. -/
theorem skips_slashes {slashes names : List String}
    (still : ∀ slash ∈ slashes, isStill slash = true) (some : names ≠ []) :
    Skips (slashes ++ names) names := by
  induction slashes with
  | nil => exact .refl names
  | cons slash slashes induction =>
      exact .skip (still slash List.mem_cons_self) some
        (induction fun other member => still other (List.mem_cons_of_mem slash member))

/-- All that leads nowhere may be left out, but for the last component. -/
theorem skips_filter {names : List String} (last : ∀ name ∈ names.getLast?, isStill name = false) :
    Skips names (names.filter (!isStill ·)) := by
  induction names with
  | nil => exact .nil
  | cons name names induction =>
      cases names with
      | nil =>
          have moves : isStill name = false := last name rfl
          rw [List.filter_cons_of_pos (by simp [moves])]
          exact .keep name .nil
      | cons other names =>
          have rest := induction last
          cases still : isStill name with
          | false =>
              rw [List.filter_cons_of_pos (by simp [still])]
              exact .keep name rest
          | true =>
              rw [List.filter_cons_of_neg (by simp [still])]
              refine .skip still (fun none => ?_) rest
              have empty := rest.isEmpty
              rw [none] at empty
              cases empty

theorem walkWith_skips {tree : FileTree}
    {follow : Location → List String → Except FileFault Target}
    (follows : ∀ start names kept, Skips names kept → follow start names = follow start kept)
    {names kept : List String} (skips : Skips names kept) (start : Location) :
    walkWith tree .follow follow start names = walkWith tree .follow follow start kept := by
  induction skips generalizing start with
  | nil => rfl
  | @keep name names kept rest induction =>
      have later : ∀ start text, follow start (components text ++ names) =
          follow start (components text ++ kept) :=
        fun start text => follows start _ _ (rest.append_left (components text))
      simp only [walkWith, induction, rest.isEmpty, later, reduceCtorEq, decide_false,
        Bool.false_and]
  | skip still _ _ induction =>
      exact (if_pos still).trans (induction start)

/-- What leads nowhere may be left out of a walk. -/
theorem walk_skips (tree : FileTree) (links : Nat) {names kept : List String}
    (skips : Skips names kept) (start : Location) :
    walk tree .follow links start names = walk tree .follow links start kept := by
  induction links generalizing start names kept with
  | zero => exact walkWith_skips (fun _ _ _ _ => rfl) skips start
  | succ links induction =>
      exact walkWith_skips (fun start _ _ skips => induction skips start) skips start

/-- A walk whose last component leads nowhere ends in a directory. -/
theorem WalksTo.directory_of_still {tree : FileTree} {links : Nat} {start : Location}
    {names : List String} {target : Target} (walks : WalksTo tree .follow links start names target)
    (last : ∀ name ∈ names.getLast?, isStill name = true) :
    ∃ place, target = .present place .directory := by
  have below {name : String} {rest : List String}
      (last : ∀ other ∈ (name :: rest).getLast?, isStill other = true) :
      ∀ other ∈ rest.getLast?, isStill other = true := by
    cases rest with
    | nil => nofun
    | cons other rest => exact last
  induction walks with
  | here => exact ⟨_, rfl⟩
  | stay _ _ induction | up _ induction | down _ _ _ induction => exact induction (below last)
  | @free _ _ name rest named _ made =>
      obtain rfl : rest = [] := by simpa using made.last
      exact absurd (last name rfl) named.moves
  | link _ _ kept => simp [PathEnd.follows] at kept
  | @follow _ _ name rest _ _ named _ _ _ induction =>
      cases rest with
      | nil => exact absurd (last name rfl) named.moves
      | cons other rest =>
          refine induction fun third member => last third ?_
          rwa [List.getLast?_append_of_ne_nil _ (List.cons_ne_nil other rest)] at member
  | @other _ _ name _ named _ _ => exact absurd (last name rfl) named.moves

end FileTree

namespace FilePath

/-- A path text that may be the path of a file: it ends in a name and is no longer than a path may
be. -/
structure NamesFile (text : String) : Prop where
  /-- It does not end in a slash. -/
  named : baseName text ≠ ""
  /-- It does not end in a dot for the directory before it. -/
  moves : baseName text ≠ "."
  /-- It is no longer than a path may be. -/
  short : FileTree.nameSize text ≤ FileTree.pathLimit

/-! ## Components of a normal form -/

theorem isName_eq (component : List Char) :
    isName component = !FileTree.isStill (String.ofList component) := by
  have empty : String.ofList component = "" ↔ component = [] := by simp [← String.toList_inj]
  have dot : String.ofList component = "." ↔ component = ['.'] := by simp [← String.toList_inj]
  rw [Bool.eq_iff_iff]
  simp [isName, FileTree.isStill, empty, dot]

/-- Names of a normal form are the components that lead somewhere. -/
theorem names_ofString (text : String) :
    (ofString text).names = (FileTree.components text).filter (!FileTree.isStill ·) := by
  rw [ofString, FileTree.components, List.filter_map]
  exact congrArg _ (List.filter_congr fun component _ => isName_eq component)

theorem not_mem_of_mem_names {text name : String} (member : name ∈ (ofString text).names) :
    '/' ∉ name.toList := by
  rw [names_ofString, FileTree.components] at member
  obtain ⟨part, among, rfl⟩ := List.mem_map.mp (List.mem_filter.mp member).1
  rw [String.toList_ofList]
  exact Text.not_mem_of_mem_split among

theorem ne_empty_of_mem_names {text name : String} (member : name ∈ (ofString text).names) :
    name ≠ "" := by
  rw [names_ofString] at member
  rintro rfl
  simp [FileTree.isStill] at member

/-- Components of the text of a path are its names behind the slashes of its root. -/
theorem components_text {path : FilePath} (some : path.names ≠ [])
    (plain : ∀ name ∈ path.names, '/' ∉ name.toList) :
    ∃ slashes, FileTree.components path.text = slashes ++ path.names ∧
      ∀ slash ∈ slashes, slash = "" := by
  have joined : (String.intercalate "/" path.names).toList =
      ['/'].intercalate (path.names.map String.toList) := String.toList_intercalate
  have parts : (Text.split '/' (String.intercalate "/" path.names).toList).map String.ofList =
      path.names := by
    rw [joined, Text.split_intercalate (by simpa using plain) (by simpa using some)]
    simp
  have text : path.text = rootText path.root ++ String.intercalate "/" path.names := by
    simp [FilePath.text, some]
  rw [text, FileTree.components, String.toList_append]
  cases path.root with
  | working => exact ⟨[], by simpa [rootText] using parts, by simp⟩
  | single => exact ⟨[""], by simpa [rootText, Text.split] using parts, by simp⟩
  | double => exact ⟨["", ""], by simpa [rootText, Text.split] using parts, by simp⟩

theorem isAbsolute_text {path : FilePath} (some : path.names ≠ [])
    (plain : ∀ name ∈ path.names, name ≠ "" ∧ '/' ∉ name.toList) :
    FileTree.isAbsolute path.text = decide (path.root ≠ .working) := by
  have text : path.text = rootText path.root ++ String.intercalate "/" path.names := by
    simp [FilePath.text, some]
  rw [text, FileTree.isAbsolute, String.toList_append, String.toList_intercalate]
  cases path.root with
  | single => rfl
  | double => rfl
  | working =>
      obtain ⟨name, names, whole⟩ := List.exists_cons_of_ne_nil some
      obtain ⟨named, unslashed⟩ := plain name (whole ▸ List.mem_cons_self)
      obtain ⟨c, rest, chars⟩ := List.exists_cons_of_ne_nil (mt String.toList_eq_nil_iff.mp named)
      have apart : c ≠ '/' := by
        rintro rfl
        exact unslashed (by simp [chars])
      rw [whole, List.map_cons, chars]
      cases names <;> simp [rootText, apart]

theorem isAbsolute_eq (text : String) :
    FileTree.isAbsolute text = decide ((ofString text).root ≠ .working) := by
  rw [FileTree.isAbsolute, ofString]
  dsimp only
  unfold rootOf
  split
  case h_4 unrooted =>
    cases chars : text.toList with
    | nil => rfl
    | cons c rest =>
        have apart : c ≠ '/' := by
          rintro rfl
          exact unrooted rest chars
        simp [apart]
  all_goals simp [*]

/-- A single name is its own normal form. -/
theorem text_ofString_name {name : String} (plain : '/' ∉ name.toList)
    (moves : FileTree.isStill name = false) : (ofString name).text = name := by
  have names : (ofString name).names = [name] := by
    rw [names_ofString, FileTree.components, Text.split_of_not_mem plain]
    simp [moves]
  have relative : (ofString name).root = .working := by
    have start := isAbsolute_eq name
    rw [FileTree.isAbsolute] at start
    by_contra rooted
    have slash : name.toList.head? = some '/' := by simpa [rooted] using start
    exact plain (List.mem_of_head? slash)
  have alone : String.intercalate "/" [name] = name := rfl
  simp [text, names, relative, rootText, alone]

end FilePath

namespace FileTree

variable {tree : FileTree} {text : String}

/-- A path text that names a file leads where its normal form leads. -/
theorem resolve_of_namesFile (namesFile : FilePath.NamesFile text) {target : Target}
    (resolved : tree.resolve .follow (FilePath.ofString text).text = .ok target) :
    tree.resolve .follow text = .ok target := by
  have last : ∀ name ∈ (components text).getLast?, isStill name = false := by
    rw [getLast?_components]
    rintro _ ⟨⟩
    simp [isStill, namesFile.named, namesFile.moves]
  have skips := skips_filter last
  rw [← FilePath.names_ofString] at skips
  have some : (FilePath.ofString text).names ≠ [] := by
    intro none
    have empty := skips.isEmpty
    rw [none] at empty
    have whole := getLast?_components text
    rw [List.isEmpty_iff.mp empty] at whole
    cases whole
  have start : isAbsolute text = isAbsolute (FilePath.ofString text).text := by
    rw [FilePath.isAbsolute_eq, FilePath.isAbsolute_text some fun name member =>
      ⟨FilePath.ne_empty_of_mem_names member, FilePath.not_mem_of_mem_names member⟩]
  obtain ⟨slashes, whole, empty⟩ :=
    FilePath.components_text some fun name => FilePath.not_mem_of_mem_names
  have rooted : Skips (slashes ++ (FilePath.ofString text).names) (FilePath.ofString text).names :=
    skips_slashes (fun slash member => by rw [empty slash member]; rfl) some
  obtain ⟨-, -, walks⟩ := resolve_eq_ok_iff.mp resolved
  refine resolve_eq_ok_iff.mpr ⟨?_, namesFile.short, ?_⟩
  · by_contra absent
    obtain rfl : text = "" := by simpa using absent
    exact namesFile.named rfl
  · rw [← walk_eq_ok_iff] at walks ⊢
    rw [start, walk_skips tree linkLimit skips, ← walk_skips tree linkLimit rooted, ← whole]
    exact walks

/-- A path text that names no file leads to a directory, if anywhere. -/
theorem directory_of_not_namesFile (unnamed : ¬ FilePath.NamesFile text) {target : Target}
    (resolved : tree.resolve .follow text = .ok target) :
    ∃ place, target = .present place .directory := by
  obtain ⟨-, short, walks⟩ := resolve_eq_ok_iff.mp resolved
  have still : isStill (baseName text) = true := by
    by_contra moves
    simp only [isStill, Bool.not_eq_true, Bool.or_eq_false_iff, decide_eq_false_iff_not] at moves
    exact unnamed ⟨moves.1, moves.2, short⟩
  exact walks.directory_of_still (by simp [getLast?_components, still])

theorem contentOf_of_not_namesFile (unnamed : ¬ FilePath.NamesFile text) :
    ∃ fault, tree.contentOf text = .error fault := by
  cases resolved : tree.resolve .follow text with
  | error fault => exact ⟨fault, by simp [contentOf, inspect, resolved]⟩
  | ok target =>
      obtain ⟨place, rfl⟩ := directory_of_not_namesFile unnamed resolved
      exact ⟨.isDirectory, by simp [contentOf, inspect, resolved]⟩

end FileTree

end RepoCatalog
