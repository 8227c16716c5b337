import Mathlib.Data.List.Infix
import RepoCatalog.Address
import RepoCatalog.Proofs.Text.Blank

/-!
# Roots of instances

All spellings of an instance stand for one root address: blanks around it, slashes behind it and the
path of the programming interface do not count, and an address without a scheme gets one. The roots
are the addresses that stand for themselves.
-/

namespace RepoCatalog

/-- An address with nothing at its ends that does not count. -/
structure IsUndecorated (address : String) : Prop where
  /-- There are no blanks around it. -/
  trimmed : Text.IsTrimmed address.toList
  /-- It does not end in a slash. -/
  unslashed : address.toList.getLast? ≠ some '/'
  /-- It does not end with the path of the programming interface. -/
  bare : ¬ interfacePath <:+ address.toList

/-- The root address of an instance. -/
structure IsInstanceRoot (address : String) : Prop extends IsUndecorated address where
  /-- It has a scheme. -/
  schemed : schemeMark <:+: address.toList

/-- An address, possibly empty, that lacks a scheme to be the root of an instance. -/
structure IsSchemelessRoot (address : String) : Prop extends IsUndecorated address where
  /-- It has no scheme. -/
  schemeless : ¬ schemeMark <:+: address.toList
  /-- The slash that ends a scheme does not make it the path of the programming interface. -/
  named : address ≠ "api/v4"

/-- What may be put around the root of an instance. -/
structure Decoration where
  /-- What stands in front of it. -/
  front : List Char
  /-- Whether the path of the programming interface follows it. -/
  interface : Bool
  /-- Number of slashes behind that. -/
  slashes : Nat
  /-- What stands at the end. -/
  back : List Char
  /-- Nothing but blanks stand in front. -/
  leading : ∀ c ∈ front, Text.isBlank c = true
  /-- Nothing but blanks stand at the end. -/
  trailing : ∀ c ∈ back, Text.isBlank c = true

namespace Decoration

/-- The path of the programming interface, if it is part of a decoration. -/
def path (decoration : Decoration) : List Char :=
  if decoration.interface then interfacePath else []

/-- An address with a decoration around it. -/
def spell (decoration : Decoration) (address : String) : String :=
  String.ofList (decoration.front
    ++ (address.toList ++ decoration.path ++ List.replicate decoration.slashes '/')
    ++ decoration.back)

end Decoration

/-! ## What does not count at the ends -/

/-- An address without the blanks around it and the slashes behind it. -/
def bareChars (address : List Char) : List Char :=
  Text.dropEndWhile (· == '/') (Text.strip address)

theorem isInfix_bareChars (address : List Char) : bareChars address <:+: address :=
  (Text.isPrefix_dropEndWhile _ _).isInfix.trans (Text.isInfix_strip address)

/-- Of an address that does not begin with a blank nothing is taken in front. -/
theorem bareChars_prefix {address : List Char}
    (head : ∀ c ∈ address.head?, Text.isBlank c = false) : bareChars address <+: address := by
  rw [bareChars, Text.strip, Text.dropWhile_of_head head]
  exact (Text.isPrefix_dropEndWhile _ _).trans (Text.isPrefix_dropEndWhile _ _)

theorem isTrimmed_of_bareChars {address : List Char} (same : bareChars address = address) :
    Text.IsTrimmed address ∧ address.getLast? ≠ some '/' := by
  have first : bareChars address <+: Text.strip address := Text.isPrefix_dropEndWhile _ _
  rw [same] at first
  have stripped : Text.strip address = address :=
    (Text.isInfix_strip address).eq_of_length
      (Nat.le_antisymm (Text.isInfix_strip address).length_le first.length_le)
  refine ⟨Text.strip_eq_self_iff.mp stripped, fun last => ?_⟩
  rw [bareChars, stripped] at same
  have apart := Text.dropEndWhile_eq_self_iff.mp same '/' last
  simp at apart

theorem bareChars_spelled {front back address : List Char}
    (leading : ∀ c ∈ front, Text.isBlank c = true) (trailing : ∀ c ∈ back, Text.isBlank c = true)
    (trimmed : Text.IsTrimmed address) (unslashed : address.getLast? ≠ some '/') (slashes : Nat) :
    bareChars (front ++ (address ++ List.replicate slashes '/') ++ back) = address := by
  have slashed : Text.IsTrimmed (List.replicate slashes '/') := by
    constructor <;> intro c member
    · rw [List.eq_of_mem_replicate (List.mem_of_head? member)]
      decide
    · rw [List.eq_of_mem_replicate (List.mem_of_getLast? member)]
      decide
  have last : ∀ c ∈ address.getLast?, (c == '/') = false := by
    rintro c member
    have apart : c ≠ '/' := by
      rintro rfl
      exact unslashed member
    simpa using apart
  rw [bareChars, Text.strip_padded leading trailing,
    Text.strip_of_isTrimmed (trimmed.append slashed),
    Text.dropEndWhile_append (fun c member => by simp [List.eq_of_mem_replicate member])]
  exact Text.dropEndWhile_eq_self_iff.mpr last

/-! ## Schemes and endings -/

theorem withScheme_of_schemed {address : List Char} (schemed : schemeMark <:+: address)
    (scheme : List Char) : withScheme scheme address = address :=
  if_pos ((occurs_iff schemeMark address).mpr schemed)

theorem withScheme_of_schemeless {address : List Char} (schemeless : ¬ schemeMark <:+: address)
    (scheme : List Char) : withScheme scheme address = scheme ++ schemeMark ++ address :=
  if_neg (mt (occurs_iff schemeMark address).mp schemeless)

theorem withoutEnding_append (ending text : List Char) :
    withoutEnding ending (text ++ ending) = text := by
  have ends : ending.isSuffixOf (text ++ ending) = true :=
    List.isSuffixOf_iff_suffix.mpr (List.suffix_append text ending)
  rw [withoutEnding, if_pos ends, List.length_append, Nat.add_sub_cancel, List.take_left]

theorem withoutEnding_of_not_suffix {ending text : List Char} (bare : ¬ ending <:+ text) :
    withoutEnding ending text = text :=
  if_neg (mt List.isSuffixOf_iff_suffix.mp bare)

theorem not_suffix_of_withoutEnding {ending text : List Char} (some : ending ≠ [])
    (same : withoutEnding ending text = text) : ¬ ending <:+ text := by
  rintro ⟨front, rfl⟩
  rw [withoutEnding_append] at same
  exact some (List.self_eq_append_right.mp same)

theorem withoutEnding_prefix (ending text : List Char) : withoutEnding ending text <+: text := by
  unfold withoutEnding
  split
  · exact List.take_prefix _ _
  · exact List.prefix_refl text

/-- The path of the programming interface does not complete the mark of a scheme. -/
theorem schemeless_append {address : List Char} (schemeless : ¬ schemeMark <:+: address)
    (unslashed : address.getLast? ≠ some '/') : ¬ schemeMark <:+: address ++ interfacePath := by
  rw [List.infix_append_iff]
  rintro (within | within | ⟨before, behind, whole, ends, begins⟩)
  · exact schemeless within
  · revert within
    decide
  · have cut : before ∈ schemeMark.inits := (List.mem_inits _ _).mpr ⟨behind, whole.symm⟩
    obtain rfl : behind = schemeMark.drop before.length := by
      rw [whole, List.drop_left]
    simp only [schemeMark, List.inits, List.map_cons, List.map_nil, List.mem_cons, List.not_mem_nil,
      or_false] at cut
    rcases cut with rfl | rfl | rfl | rfl
    · revert begins
      decide
    · revert begins
      decide
    · obtain ⟨front, rfl⟩ := ends
      simp at unslashed
    · exact schemeless ends.isInfix

/-- The scheme of an instance. -/
def instanceScheme : List Char := ['h', 't', 't', 'p', 's']

theorem instanceRootChars_eq (address : List Char) :
    instanceRootChars address =
      withoutEnding interfacePath (withScheme instanceScheme (bareChars address)) := rfl

/-- A scheme in front does not make an address end with the path of the programming interface. -/
theorem IsSchemelessRoot.bare_append {address : String} (root : IsSchemelessRoot address) :
    ¬ interfacePath <:+ instanceScheme ++ schemeMark ++ address.toList := by
  intro ends
  rcases Nat.le_total interfacePath.length address.toList.length with short | long
  · exact root.bare
      (List.suffix_of_suffix_length_le ends (List.suffix_append _ address.toList) short)
  · have cut : address.toList ∈ interfacePath.tails := (List.mem_tails _ _).mpr
      (List.suffix_of_suffix_length_le (List.suffix_append _ address.toList) ends long)
    have overlaps : ∀ rest ∈ interfacePath.tails,
        interfacePath <:+ instanceScheme ++ schemeMark ++ rest →
          rest = interfacePath ∨ rest = interfacePath.tail := by
      decide
    rcases overlaps _ cut ends with whole | tail
    · exact root.bare (whole ▸ List.suffix_refl _)
    · exact root.named (String.toList_inj.mp tail)

/-! ## Spellings -/

theorem Decoration.bareChars_spell (decoration : Decoration) {address : String}
    (plain : IsUndecorated address) :
    bareChars (decoration.spell address).toList = address.toList ++ decoration.path := by
  have path : Text.IsTrimmed decoration.path ∧
      (address.toList ++ decoration.path).getLast? ≠ some '/' := by
    unfold path
    split
    · exact ⟨by decide, by simp [interfacePath]⟩
    · exact ⟨⟨nofun, nofun⟩, by simpa using plain.unslashed⟩
  rw [spell, String.toList_ofList]
  exact bareChars_spelled decoration.leading decoration.trailing (plain.trimmed.append path.1)
    path.2 decoration.slashes

theorem IsInstanceRoot.instanceRoot_spell {address : String} (root : IsInstanceRoot address)
    (decoration : Decoration) : instanceRoot (decoration.spell address) = address := by
  have schemed : schemeMark <:+: address.toList ++ decoration.path :=
    root.schemed.trans (List.prefix_append _ _).isInfix
  rw [instanceRoot, instanceRootChars_eq, decoration.bareChars_spell root.toIsUndecorated,
    withScheme_of_schemed schemed]
  unfold Decoration.path
  split
  · rw [withoutEnding_append, String.ofList_toList]
  · rw [List.append_nil, withoutEnding_of_not_suffix root.bare, String.ofList_toList]

theorem IsSchemelessRoot.instanceRoot_spell {address : String} (root : IsSchemelessRoot address)
    (decoration : Decoration) :
    instanceRoot (decoration.spell address) = "https://" ++ address := by
  have schemeless : ¬ schemeMark <:+: address.toList ++ decoration.path := by
    unfold Decoration.path
    split
    · exact schemeless_append root.schemeless root.unslashed
    · rw [List.append_nil]
      exact root.schemeless
  have named : "https://" ++ address =
      String.ofList (instanceScheme ++ schemeMark ++ address.toList) := by
    rw [String.ofList_append, String.ofList_toList]
    rfl
  rw [instanceRoot, instanceRootChars_eq, decoration.bareChars_spell root.toIsUndecorated,
    withScheme_of_schemeless schemeless, named]
  unfold Decoration.path
  split
  · rw [← List.append_assoc, withoutEnding_append]
  · rw [List.append_nil, withoutEnding_of_not_suffix root.bare_append]

/-! ## Addresses that stand for themselves -/

/-- An address that stands for itself has a scheme: one that gets its scheme could only be the
beginning of one, and none of those stands for itself. -/
theorem schemed_of_fixed {address : List Char} (fixed : instanceRootChars address = address) :
    schemeMark <:+: bareChars address := by
  by_contra schemeless
  let scheme := instanceScheme ++ schemeMark
  have short : address <+: scheme ++ bareChars address := by
    have whole := withoutEnding_prefix interfacePath (withScheme instanceScheme (bareChars address))
    rwa [← instanceRootChars_eq, fixed, withScheme_of_schemeless schemeless] at whole
  have within : address <+: scheme ++ scheme.dropLast := by
    rcases address with _ | ⟨c, rest⟩
    · exact List.nil_prefix
    · have first : c = 'h' := (List.cons_prefix_cons.mp short).1
      have kept : bareChars (c :: rest) <+: c :: rest := bareChars_prefix (by simp [first]; decide)
      have again := kept.trans short
      rcases Nat.lt_or_ge (bareChars (c :: rest)).length scheme.length with less | more
      · have start : bareChars (c :: rest) <+: scheme.dropLast :=
          List.prefix_of_prefix_length_le again
            ((List.dropLast_prefix scheme).trans (List.prefix_append _ _))
            (by rw [List.length_dropLast]; omega)
        exact short.trans ((List.prefix_append_right_inj scheme).mpr start)
      · exact absurd (List.prefix_of_prefix_length_le (List.prefix_append _ _) again more).isInfix
          (fun inside => schemeless ((by decide : schemeMark <:+: scheme).trans inside))
  have none : ∀ start ∈ (scheme ++ scheme.dropLast).inits, instanceRootChars start = start →
      schemeMark <:+: bareChars start := by
    decide
  exact schemeless (none address ((List.mem_inits _ _).mpr within) fixed)

theorem IsInstanceRoot.of_fixed {address : String} (fixed : instanceRoot address = address) :
    IsInstanceRoot address := by
  have fixed : instanceRootChars address.toList = address.toList := by
    rw [← String.toList_ofList (l := instanceRootChars address.toList)]
    exact congrArg String.toList fixed
  have schemed := schemed_of_fixed fixed
  rw [instanceRootChars_eq, withScheme_of_schemed schemed] at fixed
  have kept := withoutEnding_prefix interfacePath (bareChars address.toList)
  rw [fixed] at kept
  have bare : bareChars address.toList = address.toList :=
    (isInfix_bareChars _).eq_of_length
      (Nat.le_antisymm (isInfix_bareChars _).length_le kept.length_le)
  rw [bare] at fixed schemed
  exact
    { trimmed := (isTrimmed_of_bareChars bare).1
      unslashed := (isTrimmed_of_bareChars bare).2
      bare := not_suffix_of_withoutEnding (List.cons_ne_nil _ _) fixed
      schemed := schemed }

/-- Nothing put around an address. -/
def Decoration.none : Decoration :=
  ⟨[], false, 0, [], nofun, nofun⟩

theorem Decoration.spell_none (address : String) : Decoration.none.spell address = address := by
  simp [spell, path, none]

/-- All spellings of an instance stand for its root, which has the scheme that the spelling has, or
else the usual one. The roots are the addresses that stand for themselves. -/
theorem instanceRoot_of_spellings (address : String) :
    (IsInstanceRoot address →
      ∀ decoration : Decoration, instanceRoot (decoration.spell address) = address) ∧
    (IsSchemelessRoot address →
      ∀ decoration : Decoration,
        instanceRoot (decoration.spell address) = "https://" ++ address) ∧
    (instanceRoot address = address ↔ IsInstanceRoot address) := by
  refine ⟨IsInstanceRoot.instanceRoot_spell, IsSchemelessRoot.instanceRoot_spell,
    IsInstanceRoot.of_fixed, fun root => ?_⟩
  have plain := root.instanceRoot_spell Decoration.none
  rwa [Decoration.spell_none] at plain

/-- A root with a scheme and one without, each between blanks, behind it the path of the programming
interface and two slashes. The second one ends in a part of that path. -/
theorem instanceRoot_of_spellings_padded :
    let decoration : Decoration := ⟨['\t', ' '], true, 2, [' '],
      List.all_eq_true.mp (by decide), List.all_eq_true.mp (by decide)⟩
    decoration.spell "http://h/api" = "\t http://h/api/api/v4// " ∧
    IsInstanceRoot "http://h/api" ∧
      instanceRoot (decoration.spell "http://h/api") = "http://h/api" ∧
    IsSchemelessRoot "pi/v4" ∧ instanceRoot (decoration.spell "pi/v4") = "https://pi/v4" := by
  intro decoration
  have root : IsInstanceRoot "http://h/api" :=
    { trimmed := by decide, unslashed := by decide, bare := by decide
      schemed := by decide }
  have schemeless : IsSchemelessRoot "pi/v4" :=
    { trimmed := by decide, unslashed := by decide, bare := by decide
      schemeless := by decide, named := by decide }
  exact ⟨by decide, root, (instanceRoot_of_spellings "http://h/api").1 root decoration, schemeless,
    (instanceRoot_of_spellings "pi/v4").2.1 schemeless decoration⟩

end RepoCatalog
