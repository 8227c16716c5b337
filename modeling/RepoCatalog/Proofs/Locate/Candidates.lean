import RepoCatalog.Proofs.File.Spelling
import RepoCatalog.Proofs.Locate.Search
import RepoCatalog.Proofs.Text.Blank

/-!
# Candidates for a companion

The sibling of a program and its call with its own name replaced are the same path, unless the name
of the program also occurs in a directory of its path. So the second strategy finds nothing that the
first one does not.
-/

namespace RepoCatalog

/-! ## Replacing a part of a text -/

namespace Strategy

variable {part replacement text : List Char}

/-- A part without slashes does not reach over one. -/
theorem prefix_append_slash_iff (unslashed : '/' ∉ part) (front back : List Char) :
    part <+: front ++ '/' :: back ↔ part <+: front := by
  refine ⟨fun begins => ?_, fun begins => begins.trans (List.prefix_append _ _)⟩
  rcases Nat.lt_or_ge front.length part.length with long | short
  · have slashed : front ++ ['/'] <+: part := by
      refine List.prefix_of_prefix_length_le ⟨back, by simp⟩ begins ?_
      simpa using Nat.succ_le_of_lt long
    exact absurd (slashed.subset (by simp)) unslashed
  · exact List.prefix_of_prefix_length_le begins (List.prefix_append _ _) short

/-- Fuel beyond the length of a text does not count. -/
theorem replaceChars_of_le (some : part ≠ []) {fuel other : Nat} (enough : text.length ≤ fuel)
    (more : text.length ≤ other) :
    replaceChars part replacement fuel text = replaceChars part replacement other text := by
  induction fuel generalizing other text with
  | zero =>
      obtain rfl : text = [] := List.length_eq_zero_iff.mp (Nat.le_zero.mp enough)
      cases other <;> rfl
  | succ fuel induction =>
      cases text with
      | nil => cases other <;> rfl
      | cons c rest =>
          cases other with
          | zero => simp at more
          | succ other =>
              have positive : 0 < part.length := List.length_pos_iff.mpr some
              simp only [List.length_cons] at enough more
              have later {tail : List Char} (shorter : tail.length ≤ rest.length) :
                  replaceChars part replacement fuel tail =
                    replaceChars part replacement other tail :=
                induction (by omega) (by omega)
              rw [replaceChars, replaceChars, later (Nat.le_refl _)]
              split
              · rw [later]
                simp only [List.length_drop, List.length_cons]
                omega
              · rfl

theorem replaceChars_self (some : part ≠ []) {fuel : Nat} (enough : part.length ≤ fuel) :
    replaceChars part replacement fuel part = replacement := by
  obtain ⟨c, rest, whole⟩ := List.exists_cons_of_ne_nil some
  have begins : part.isPrefixOf (c :: rest) = true :=
    List.isPrefixOf_iff_prefix.mpr (whole ▸ List.prefix_refl part)
  cases fuel with
  | zero => exact absurd (List.length_eq_zero_iff.mp (Nat.le_zero.mp enough)) some
  | succ fuel =>
      have none : replaceChars part replacement fuel [] = [] := by cases fuel <;> rfl
      conv => lhs; arg 4; rw [whole]
      rw [replaceChars, if_pos begins, ← whole, List.drop_length, none, List.append_nil]

/-- A part that does not occur is not replaced. -/
theorem replaceChars_of_absent (absent : ¬ part <:+: text) (fuel : Nat) :
    replaceChars part replacement fuel text = text := by
  induction fuel generalizing text with
  | zero => rfl
  | succ fuel induction =>
      cases text with
      | nil => rfl
      | cons c rest =>
          rw [List.infix_cons_iff, not_or] at absent
          rw [replaceChars, if_neg (mt List.isPrefixOf_iff_prefix.mp absent.1), induction absent.2]

/-- The components of a path are replaced one by one. -/
theorem replaceChars_append_slash (some : part ≠ []) (unslashed : '/' ∉ part)
    {front back : List Char} {fuel : Nat} (enough : (front ++ '/' :: back).length ≤ fuel) :
    replaceChars part replacement fuel (front ++ '/' :: back) =
      replaceChars part replacement fuel front ++
        '/' :: replaceChars part replacement fuel back := by
  induction fuel generalizing front with
  | zero => simp at enough
  | succ fuel induction =>
      have later : replaceChars part replacement fuel back =
          replaceChars part replacement (fuel + 1) back := by
        simp only [List.length_append, List.length_cons] at enough
        exact replaceChars_of_le some (by omega) (by omega)
      cases front with
      | nil =>
          have apart : ¬ part.isPrefixOf ('/' :: back) = true := by
            rw [List.isPrefixOf_iff_prefix]
            exact fun begins => some (List.prefix_nil.mp
              ((prefix_append_slash_iff unslashed [] back).mp begins))
          have kept : replaceChars part replacement (fuel + 1) ('/' :: back) =
              '/' :: replaceChars part replacement fuel back := if_neg apart
          rw [List.nil_append, kept, later]
          rfl
      | cons c rest =>
          simp only [List.cons_append, List.length_cons, List.length_append] at enough
          have begins_iff : part.isPrefixOf (c :: (rest ++ '/' :: back)) =
              part.isPrefixOf (c :: rest) := by
            rw [Bool.eq_iff_iff, List.isPrefixOf_iff_prefix, List.isPrefixOf_iff_prefix]
            exact prefix_append_slash_iff unslashed (c :: rest) back
          rw [List.cons_append, replaceChars, replaceChars, begins_iff]
          split
          · rename_i begins
            have within : part.length ≤ (c :: rest).length :=
              (List.isPrefixOf_iff_prefix.mp begins).length_le
            have positive : 0 < part.length := List.length_pos_iff.mpr some
            rw [← List.cons_append, List.drop_append_of_le_length within, induction, ← later,
              List.append_assoc]
            simp only [List.length_append, List.length_drop, List.length_cons] at within ⊢
            omega
          · rw [induction, ← later, List.cons_append]
            simp only [List.length_append, List.length_cons]
            omega

end Strategy

/-- A part without slashes that occurs in a path occurs in one of its components. -/
theorem exists_component_of_isInfix {part text : List Char} (unslashed : '/' ∉ part)
    (within : part <:+: text) : ∃ component ∈ Text.split '/' text, part <:+: component := by
  have emptied {rest : List Char} (sub : rest ⊆ part) {back : List Char}
      (begins : rest <+: '/' :: back) : rest = [] := by
    cases rest with
    | nil => rfl
    | cons c rest =>
        obtain rfl : c = '/' := (List.cons_prefix_cons.mp begins).1
        exact absurd (sub List.mem_cons_self) unslashed
  by_cases slash : '/' ∈ text
  · obtain ⟨front, back, rfl, plain⟩ := List.eq_append_cons_of_mem slash
    rw [Text.split_append, Text.split_of_not_mem plain]
    rcases List.infix_append_iff.mp within with
      inFront | inBack | ⟨before, behind, rfl, ends, begins⟩
    · exact ⟨front, by simp, inFront⟩
    · rcases List.infix_cons_iff.mp inBack with begins | later
      · obtain rfl := emptied (List.Subset.refl part) begins
        exact ⟨front, by simp, List.nil_infix⟩
      · obtain ⟨component, among, holds⟩ := exists_component_of_isInfix unslashed later
        exact ⟨component, List.mem_append_right [front] among, holds⟩
    · obtain rfl := emptied (List.subset_append_right before behind) begins
      exact ⟨front, by simp, by simpa using ends.isInfix⟩
  · rw [Text.split_of_not_mem slash]
    exact ⟨text, by simp, within⟩
termination_by text.length
decreasing_by simp_all [Nat.lt_add_left]

/-! ## A path and its directory -/

theorem directoryChars_of_head {path head : List Char}
    (above : Text.dropEndWhile (· != '/') path = head) :
    directoryChars path = if (Text.dropEndWhile (· == '/') head).isEmpty then head
      else Text.dropEndWhile (· == '/') head := by
  subst above
  rfl

/-- A path with a slash, cut around the slashes in front of its last component. -/
structure IsCut (path kept slashes last : List Char) : Prop where
  /-- One slash is counted with the last component. -/
  whole : path = kept ++ slashes ++ '/' :: last
  /-- There is nothing else between. -/
  between : ∀ c ∈ slashes, c = '/'
  /-- All slashes are cut off. -/
  ends : ∀ c ∈ kept.getLast?, c ≠ '/'
  /-- The last component has none. -/
  plain : '/' ∉ last

theorem exists_isCut {path : List Char} (slash : '/' ∈ path) :
    ∃ kept slashes last, IsCut path kept slashes last := by
  rcases exists_last_slash path with plain | ⟨front, last, rfl, plain⟩
  · exact absurd slash plain
  · have whole : Text.dropEndWhile (· == '/') front ++ front.rtakeWhile (· == '/') = front :=
      List.rdropWhile_append_rtakeWhile
    refine ⟨Text.dropEndWhile (· == '/') front, front.rtakeWhile (· == '/'), last,
      ?_, ?_, ?_, plain⟩
    · rw [whole]
    · exact fun c member => by simpa using List.mem_rtakeWhile_imp member
    · exact fun c member => by simpa using Text.getLast?_dropEndWhile (· == '/') front c member

namespace IsCut

variable {path kept slashes last : List Char}

theorem baseChars_eq (cut : IsCut path kept slashes last) : baseChars path = last := by
  rw [cut.whole, baseChars_append cut.plain]

theorem directoryChars_eq (cut : IsCut path kept slashes last) :
    directoryChars path = if kept.isEmpty then slashes ++ ['/'] else kept := by
  have head : Text.dropEndWhile (· != '/') path = kept ++ slashes ++ ['/'] := by
    rw [cut.whole, List.append_cons, Text.dropEndWhile_append (bne_slash_of_mem cut.plain)]
    exact Text.dropEndWhile_eq_self_iff.mpr (by simp)
  have front : Text.dropEndWhile (· == '/') (kept ++ slashes ++ ['/']) = kept := by
    have dropped : ∀ c ∈ slashes ++ ['/'], (c == '/') = true := by
      simpa [or_imp] using cut.between
    rw [List.append_assoc, Text.dropEndWhile_append dropped]
    exact Text.dropEndWhile_eq_self_iff.mpr (by simpa using cut.ends)
  rw [directoryChars_of_head head, front]
  split
  · rename_i empty
    rw [List.isEmpty_iff.mp empty, List.nil_append]
  · rfl

end IsCut

theorem directoryChars_of_not_mem {path : List Char} (plain : '/' ∉ path) :
    directoryChars path = [] := by
  have head : Text.dropEndWhile (· != '/') path = [] :=
    List.rdropWhile_eq_nil_iff.mpr (bne_slash_of_mem plain)
  rw [directoryChars_of_head head]
  rfl

/-! ## Slashes and normal forms -/

theorem split_slashes {slashes : List Char} (all : ∀ c ∈ slashes, c = '/') :
    Text.split '/' slashes = [] :: slashes.map fun _ => [] := by
  induction slashes with
  | nil => rfl
  | cons c rest induction =>
      obtain ⟨rfl, later⟩ := List.forall_mem_cons.mp all
      rw [Text.split, if_pos rfl, induction later, List.map_cons]

theorem split_append_slashes {slashes : List Char} (all : ∀ c ∈ slashes, c = '/')
    (front : List Char) :
    Text.split '/' (front ++ slashes) = Text.split '/' front ++ slashes.map fun _ => [] := by
  cases slashes with
  | nil => simp
  | cons c rest =>
      obtain ⟨rfl, later⟩ := List.forall_mem_cons.mp all
      rw [Text.split_append, split_slashes later, List.map_cons]

namespace FilePath

theorem rootOf_append {front : List Char} (some : front ≠ [])
    (ends : ∀ c ∈ front.getLast?, c ≠ '/') (back other : List Char) :
    rootOf (front ++ back) = rootOf (front ++ other) := by
  rcases front with _ | ⟨first, _ | ⟨second, _ | ⟨third, rest⟩⟩⟩
  · exact absurd rfl some
  · have apart : first ≠ '/' := ends first rfl
    simp [rootOf, apart]
  · have apart : second ≠ '/' := ends second rfl
    by_cases slash : first = '/' <;> simp [rootOf, apart, slash]
  · by_cases slash : first = '/' <;> by_cases double : second = '/' <;>
      by_cases triple : third = '/' <;> simp [rootOf, slash, double, triple]

/-- Slashes behind a directory do not count. -/
theorem ofString_slashes {front slashes : List Char} (some : front ≠ [])
    (ends : ∀ c ∈ front.getLast?, c ≠ '/') (all : ∀ c ∈ slashes, c = '/') (back : List Char) :
    ofString (String.ofList (front ++ slashes ++ '/' :: back)) =
      ofString (String.ofList (front ++ '/' :: back)) := by
  have empty : (slashes.map fun _ => ([] : List Char)).filter isName = [] := by
    simp [isName]
  rw [ofString, ofString, String.toList_ofList, String.toList_ofList, List.append_assoc,
    rootOf_append some ends (slashes ++ '/' :: back) ('/' :: back), ← List.append_assoc,
    Text.split_append, Text.split_append, split_append_slashes all, List.filter_append,
    List.filter_append, List.filter_append, empty, List.append_nil]

end FilePath

/-! ## Proposals of the strategies -/

namespace Strategy

variable {name invocation candidate : String} {kept slashes last : List Char}

theorem adjacent_of_bare (plain : '/' ∉ invocation.toList) (called : invocation ≠ "") :
    adjacent name invocation = some name := by
  have joined : joinChars [] name.toList = name.toList := by simp [joinChars]
  rw [adjacent, if_neg called, joinPath, directoryName, String.toList_ofList,
    directoryChars_of_not_mem plain, joined, String.ofList_toList]

theorem substitute_of_bare (plain : '/' ∉ invocation.toList) (called : invocation ≠ "") :
    substitute name invocation = some name := by
  have base : baseName invocation = invocation := by
    rw [baseName, baseChars_of_not_mem plain, String.ofList_toList]
  have some : invocation.toList ≠ [] := mt String.toList_eq_nil_iff.mp called
  rw [substitute, base, if_neg called, replaceAll,
    replaceChars_self some (Nat.le_of_eq String.length_toList), String.ofList_toList]

theorem adjacent_of_isCut (cut : IsCut invocation.toList kept slashes last)
    (relative : name.toList.head? ≠ some '/') : adjacent name invocation =
      some (String.ofList ((if kept.isEmpty then slashes else kept) ++ '/' :: name.toList)) := by
  have called : invocation ≠ "" := by
    rintro rfl
    simpa using cut.whole
  have joined : joinChars (directoryChars invocation.toList) name.toList =
      (if kept.isEmpty then slashes else kept) ++ '/' :: name.toList := by
    rw [cut.directoryChars_eq, joinChars, if_neg (by simpa using relative)]
    cases empty : kept.isEmpty with
    | true => simp
    | false =>
        have ends : ¬ kept.getLast? = some '/' := fun slash => cut.ends '/' slash rfl
        simp [empty, ends]
  rw [adjacent, if_neg called, joinPath, directoryName, String.toList_ofList, joined]

theorem substitute_of_isCut (cut : IsCut invocation.toList kept slashes last)
    (named : last ≠ []) : substitute name invocation =
      some (String.ofList (replaceChars last name.toList invocation.length (kept ++ slashes) ++
        '/' :: name.toList)) := by
  have base : baseName invocation = String.ofList last := by rw [baseName, cut.baseChars_eq]
  have called : String.ofList last ≠ "" := by simpa [← String.toList_inj] using named
  have enough : (kept ++ slashes ++ '/' :: last).length ≤ invocation.length := by
    rw [← cut.whole, String.length_toList]
  have fits : last.length ≤ invocation.length := by
    simp only [List.length_append, List.length_cons] at enough
    omega
  rw [substitute, base, if_neg called, replaceAll, String.toList_ofList, cut.whole,
    replaceChars_append_slash named cut.plain enough, replaceChars_self named fits]

theorem not_substitute_of_isCut (cut : IsCut invocation.toList kept slashes []) :
    substitute name invocation = none := by
  have base : baseName invocation = "" := by rw [baseName, cut.baseChars_eq, String.ofList_nil]
  exact if_pos base

/-- The name of a program does not occur in the directories of its path. -/
def OccursLast (invocation : String) : Prop :=
  baseName invocation = "" ∨ ∀ component ∈ FileTree.components (directoryName invocation),
    ¬ (baseName invocation).toList <:+: component.toList

theorem OccursLast.absent (once : OccursLast invocation)
    (cut : IsCut invocation.toList kept slashes last) (named : last ≠ []) :
    ¬ last <:+: kept ++ slashes := by
  have base : (baseName invocation).toList = last := by
    rw [baseName, cut.baseChars_eq, String.toList_ofList]
  intro within
  obtain ⟨component, among, within⟩ := exists_component_of_isInfix cut.plain within
  have some : component ≠ [] := by
    rintro rfl
    exact named (List.infix_nil.mp within)
  rcases once with empty | absent
  · rw [empty] at base
    exact named base.symm
  · refine absent (String.ofList component) ?_ (by rwa [base, String.toList_ofList])
    rw [FileTree.components, directoryName, String.toList_ofList, cut.directoryChars_eq]
    refine List.mem_map_of_mem ?_
    split
    · rename_i empty
      rw [List.isEmpty_iff.mp empty, List.nil_append] at among
      rw [Text.split_append]
      exact List.mem_append_left _ among
    · rw [split_append_slashes cut.between] at among
      rcases List.mem_append.mp among with inFront | empty
      · exact inFront
      · obtain ⟨-, -, rfl⟩ := List.mem_map.mp empty
        exact absurd rfl some

/-- What the second strategy proposes is the sibling in another spelling. -/
theorem proposes_adjacent (relative : name.toList.head? ≠ some '/') (once : OccursLast invocation)
    (proposes : Search.Proposes substitute name invocation candidate) :
    ∃ sibling, Search.Proposes adjacent name invocation sibling ∧
      FilePath.ofString sibling = FilePath.ofString candidate := by
  obtain ⟨proposed, some⟩ := proposes
  have called : invocation ≠ "" := by
    rintro rfl
    cases proposed
  by_cases slash : '/' ∈ invocation.toList
  · obtain ⟨kept, slashes, last, cut⟩ := exists_isCut slash
    by_cases named : last = []
    · subst named
      rw [not_substitute_of_isCut cut] at proposed
      cases proposed
    · rw [substitute_of_isCut cut named, replaceChars_of_absent (once.absent cut named)]
        at proposed
      cases proposed
      refine ⟨_, ⟨adjacent_of_isCut cut relative, by simp [← String.toList_inj]⟩, ?_⟩
      cases empty : kept.isEmpty with
      | true =>
          rw [if_pos rfl, List.isEmpty_iff.mp empty, List.nil_append]
      | false =>
          have below : kept ≠ [] := List.isEmpty_eq_false_iff.mp empty
          rw [if_neg Bool.false_ne_true, FilePath.ofString_slashes below cut.ends cut.between]
  · rw [substitute_of_bare slash called] at proposed
    cases proposed
    exact ⟨name, ⟨adjacent_of_bare slash called, some⟩, rfl⟩

end Strategy

/-! ## The course of the search for a companion -/

/-- The second strategy is of no use where the name of the program occurs in no directory. -/
theorem Search.outcome_defaults {usable : String → Except Failure Bool} {name invocation : String}
    (alike : GoesByNormalForm usable) (relative : name.toList.head? ≠ some '/')
    (once : Strategy.OccursLast invocation) :
    (run usable name invocation [] Strategy.defaults).outcome =
      (run usable name invocation [] [Strategy.adjacent]).outcome := by
  change (run usable name invocation [] ([Strategy.adjacent] ++ [Strategy.substitute])).outcome = _
  refine outcome_append_of_passed fun passed candidate proposes => ?_
  obtain ⟨sibling, adjacent, same⟩ := Strategy.proposes_adjacent relative once proposes
  rw [← alike sibling candidate same]
  exact passed Strategy.adjacent List.mem_cons_self sibling adjacent

/-- A name that is too long cannot be inspected. -/
theorem Search.isUsable_of_lengthy {name : String} (plain : '/' ∉ name.toList)
    (clean : hasNull name = false) (lengthy : FileTree.nameLimit < FileTree.nameSize name)
    (files : FileTree) :
    isUsable files name = .error (.system (FileFault.nameTooLong.about name)) := by
  have differs {short : String} (fits : FileTree.nameSize short ≤ FileTree.nameLimit) :
      name ≠ short := by
    rintro rfl
    exact absurd lengthy (Nat.not_lt.mpr fits)
  have named : name ≠ "" := differs (by decide)
  have moves : name ≠ "." := differs (by decide)
  have descends : name ≠ ".." := differs (by decide)
  have components : FileTree.components name = [name] := by
    rw [FileTree.components, Text.split_of_not_mem plain, List.map_singleton, String.ofList_toList]
  have resolved : files.resolve .follow name = .error .nameTooLong := by
    simp [FileTree.resolve, FileTree.walk, FileTree.walkWith, FileTree.linkLimit, components,
      named, moves, descends, lengthy]
  rw [isUsable, FilePath.text_ofString_name plain (by simp [FileTree.isStill, named, moves])]
  simp [clean, FileTree.inspect, resolved, FileFault.meansMissing]

/-- A search takes the first candidate whose normal form leads to something other than a directory,
unless it gets to one that cannot be inspected before; without either, the bare name is left. Only
the strategies up to that candidate are asked, each once and in order. Of the default strategies the
second one does not count where the name of the program occurs in no directory. -/
theorem locate_in_order (files : FileTree) (strategies : List Strategy) (name invocation : String) :
    Search.Ends (Search.isUsable files) name invocation strategies
      (locate files strategies name invocation) ∧
    ((∀ strategy ∈ strategies,
        Search.PassesOver (Search.isUsable files) name invocation strategy) ∨
      ∀ others, locate files
        ((locate files strategies name invocation).asked ++ others) name invocation = locate files strategies name invocation) ∧
    (∀ candidate,
      (Search.isUsable files candidate = .ok true ↔
        hasNull (FilePath.ofString candidate).text = false ∧
        ∃ place entry, files.resolve .follow (FilePath.ofString candidate).text =
          .ok (.present place entry) ∧ entry ≠ .directory) ∧
      ∀ failure, Search.isUsable files candidate = .error failure ↔
        hasNull (FilePath.ofString candidate).text = false ∧
        ∃ fault, files.resolve .follow (FilePath.ofString candidate).text = .error fault ∧
          fault.meansMissing = false ∧
          failure = .system (fault.about (FilePath.ofString candidate).text)) ∧
    (name.toList.head? ≠ some '/' → Strategy.OccursLast invocation →
      ∀ usable, Search.GoesByNormalForm usable →
        (Search.run usable name invocation [] Strategy.defaults).outcome =
          (Search.run usable name invocation [] [Strategy.adjacent]).outcome) := by
  refine ⟨Search.ends_run _ name invocation strategies,
    Search.passed_or_run_asked _ name invocation strategies, ?_, ?_⟩
  · exact fun candidate =>
      ⟨Search.isUsable_eq_true_iff, fun failure => Search.isUsable_eq_error_iff⟩
  · exact fun relative once usable alike => Search.outcome_defaults alike relative once

/-- A directory is passed over, a candidate whose name is too long ends the search, and doubled
slashes do not tell the default strategies apart. -/
theorem locate_in_order_slashed :
    let files : FileTree := {
      entries := [(["opt"], .directory), (["opt", "tool"], .file [] true)], working := [] }
    let proposing (candidate : String) : Strategy := fun _ _ => some candidate
    let lengthy := String.ofList (List.replicate 256 'a')
    (∀ others, locate files ([proposing "opt", proposing "opt/tool"] ++ others) "tool" "prog" =
      ⟨[proposing "opt", proposing "opt/tool"], .ok "opt/tool"⟩) ∧
    (∃ failure, (locate files [proposing lengthy, proposing "opt/tool"] "tool" "prog").outcome =
      .error failure) ∧
    (locate files Strategy.defaults "tool" "//opt//main").outcome = .ok "//opt/tool" ∧
    (locate files [Strategy.adjacent] "tool" "//opt//main").outcome = .ok "//opt/tool" := by
  intro files proposing lengthy
  refine ⟨fun others => ?_, ?_, rfl, ?_⟩
  · have seen : Search.isUsable files "opt/tool" = .ok true := rfl
    rcases (locate_in_order files [proposing "opt", proposing "opt/tool"] "tool" "prog").2.1 with
      passed | same
    · have unseen := passed (proposing "opt/tool") (by simp) "opt/tool" ⟨rfl, by decide⟩
      rw [seen] at unseen
      cases unseen
    · exact same others
  · have only : ∀ c ∈ lengthy.toList, c = 'a' := fun c member =>
      List.eq_of_mem_replicate (by rwa [String.toList_ofList] at member)
    have unseen := @Search.isUsable_of_lengthy lengthy
      (fun slash => absurd (only _ slash) (by decide))
      (by simpa [hasNull] using fun null => absurd (only _ null) (by decide))
      (by decide +kernel) files
    have gets : Search.GetsTo (Search.isUsable files) "tool" "prog"
        [proposing lengthy, proposing "opt/tool"] [] (proposing lengthy) lengthy :=
      ⟨⟨_, rfl⟩, ⟨rfl, fun empty =>
        absurd (congrArg FileTree.nameSize empty) (by decide +kernel)⟩, by simp⟩
    exact ⟨_, congrArg Search.outcome (gets.run_of_unseen unseen)⟩
  · have alike := (locate_in_order files [] "tool" "//opt//main").2.2.2 (by decide +kernel)
      (.inr (by decide +kernel)) (Search.isUsable files) (Search.goesByNormalForm_isUsable files)
    exact alike.symm

end RepoCatalog
