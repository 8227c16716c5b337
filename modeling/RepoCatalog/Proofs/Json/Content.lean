import RepoCatalog.Proofs.Json.Writing
import RepoCatalog.Repository

/-!
# What stands in JSON values

A feature of single values stands in a value if that one has it, or one of its items or members
does. Two features keep a value from being written out: a number with too many digits, which has no
text, and a character without an encoding. Every character of the text of a value is an ASCII
character or stands in the value.
-/

namespace RepoCatalog

namespace Json

/-! ## Characters -/

/-- Whether every character of a text is ASCII. -/
def IsAscii (text : List Char) : Prop :=
  ∀ c ∈ text, c.toNat < 0x80

instance : DecidablePred IsAscii :=
  fun text => decidable_of_iff (text.all (decide <| ·.toNat < 0x80) = true) (by simp [IsAscii])

theorem IsAscii.append {text more : List Char} (ascii : IsAscii text) (also : IsAscii more) :
    IsAscii (text ++ more) :=
  List.forall_mem_append.mpr ⟨ascii, also⟩

theorem IsAscii.cons {c : Char} {text : List Char} (small : c.toNat < 0x80)
    (ascii : IsAscii text) : IsAscii (c :: text) :=
  List.forall_mem_cons.mpr ⟨small, ascii⟩

theorem IsAscii.of_subset {text more : List Char} (ascii : IsAscii more) (among : text ⊆ more) :
    IsAscii text :=
  fun c member => ascii c (among member)

/-- A character beyond ASCII stands in no such text. -/
theorem IsAscii.not_mem {text : List Char} (ascii : IsAscii text) {c : Char}
    (foreign : 0x80 ≤ c.toNat) : c ∉ text :=
  fun member => Nat.not_lt_of_ge foreign (ascii c member)

theorem ne_of_ascii {c : Char} (foreign : 0x80 ≤ c.toNat) (mark : Char)
    (ascii : mark.toNat < 0x80) : c ≠ mark := by
  rintro rfl
  exact Nat.not_lt_of_ge foreign ascii

theorem isAscii_replicate {c : Char} (small : c.toNat < 0x80) (count : Nat) :
    IsAscii (List.replicate count c) := by
  intro d member
  rwa [List.eq_of_mem_replicate member]

theorem isAscii_naturalText (n : Nat) : IsAscii (Text.naturalText n) := by
  intro c member
  have greatest : c ≤ '9' := (isDigit_of_mem_naturalText member).2
  exact Nat.lt_of_le_of_lt greatest (by decide)

theorem isAscii_hexadecimal (width n : Nat) : IsAscii (Text.hexadecimal width n) := by
  induction width generalizing n with
  | zero => exact fun _ => nofun
  | succ width induction =>
      have digits : ∀ digit < 16, (Text.hexDigit digit).toNat < 0x80 := by decide
      exact (induction _).append (.cons (digits _ (Nat.mod_lt n (by decide))) fun _ => nofun)

theorem isAscii_writeInteger (value : Int) : IsAscii (writeInteger value) := by
  cases value with
  | ofNat n => exact isAscii_naturalText n
  | negSucc n => exact .cons (by decide) (isAscii_naturalText _)

theorem isAscii_newLine (level : Nat) : IsAscii (newLine level) :=
  .cons (by decide) (isAscii_replicate (by decide) _)

theorem isAscii_shortestDigits (significand : Nat) (exponent : Int) :
    IsAscii (Double.shortestDigits significand exponent).1 := by
  unfold Double.shortestDigits
  dsimp only
  split
  · rename_i digits _ _
    refine (isAscii_naturalText digits).of_subset fun c member => ?_
    exact List.mem_reverse.mp
      ((List.dropWhile_suffix _).subset (List.mem_reverse.mp member))
  · exact .cons (by decide) fun _ => nofun

theorem isAscii_layout {digits : List Char} (ascii : IsAscii digits) (point : Int) :
    IsAscii (Double.layout digits point) := by
  have zeros (count : Nat) : IsAscii (List.replicate count '0') := isAscii_replicate (by decide) _
  have first (count : Nat) : IsAscii (digits.take count) := ascii.of_subset (List.take_subset _ _)
  have later (count : Nat) : IsAscii (digits.drop count) := ascii.of_subset (List.drop_subset _ _)
  have power := isAscii_naturalText (point - 1).natAbs
  unfold Double.layout
  dsimp only
  split
  · split
    · exact .cons (by decide) (.cons (by decide) ((zeros _).append ascii))
    · refine ((first _).append (zeros _)).append (.cons (by decide) ?_)
      split
      · exact .cons (by decide) fun _ => nofun
      · exact later _
  · refine ((first 1).append ?_).append (.cons (by decide) (.cons ?_ ?_))
    · split
      · exact fun _ => nofun
      · exact .cons (by decide) (later 1)
    · split <;> decide
    · split
      · exact .cons (by decide) power
      · exact power

theorem isAscii_writeDouble (value : Double) : IsAscii (writeDouble value) := by
  cases value with
  | finite negative significand exponent =>
      have sign : IsAscii (if negative then "-" else "").toList := by
        cases negative <;> decide
      simp only [writeDouble, Double.toText]
      split
      · rw [String.toList_append]
        exact sign.append (by decide)
      · rw [String.toList_append, String.toList_ofList]
        exact sign.append (isAscii_layout (isAscii_shortestDigits _ _) _)
  | infinite negative => cases negative <;> decide
  | undefined => decide

/-! ## Features -/

/-- Whether a feature stands somewhere in a value. -/
inductive Holds (feature : Json → Prop) : Json → Prop
  | here {value : Json} (has : feature value) : Holds feature value
  | item {items : List Json} {item : Json} (among : item ∈ items) (inside : Holds feature item) :
      Holds feature (array items)
  | member {members : List (String × Json)} {member : String × Json} (among : member ∈ members)
      (inside : Holds feature member.2) : Holds feature (object members)

/-- A number with more digits than can be written. -/
inductive IsLong : Json → Prop
  | integer {value : Int} (long : Nat.pow 10 Failure.digitLimit ≤ value.natAbs) :
      IsLong (integer value)

/-- A text with a character in it, or a name of a member. -/
inductive Tells (c : Char) : Json → Prop
  | text {text : String} (among : c ∈ text.toList) : Tells c (string text)
  | name {members : List (String × Json)} {member : String × Json} (among : member ∈ members)
      (inside : c ∈ member.1.toList) : Tells c (object members)

section Parts

variable {feature : Json → Prop}

end Parts

/-! ## Long numbers -/

mutual

theorem holds_of_hasLongNumber (value : Json) (long : value.hasLongNumber = true) :
    Holds IsLong value := by
  cases value with
  | integer value =>
      rw [hasLongNumber, decide_eq_true_iff] at long
      exact .here (.integer long)
  | array items =>
      obtain ⟨item, among, inside⟩ := holds_of_anyLongNumber items long
      exact .item among inside
  | object members =>
      obtain ⟨member, among, inside⟩ := holds_of_anyLongMember members long
      exact .member among inside
  | _ => cases long

theorem holds_of_anyLongNumber (items : List Json) (long : anyLongNumber items = true) :
    ∃ item ∈ items, Holds IsLong item := by
  cases items with
  | nil => cases long
  | cons item items =>
      rcases Bool.or_eq_true_iff.mp long with first | later
      · exact ⟨item, List.mem_cons_self, holds_of_hasLongNumber item first⟩
      · obtain ⟨other, among, inside⟩ := holds_of_anyLongNumber items later
        exact ⟨other, List.mem_cons_of_mem item among, inside⟩

theorem holds_of_anyLongMember (members : List (String × Json))
    (long : anyLongMember members = true) : ∃ member ∈ members, Holds IsLong member.2 := by
  cases members with
  | nil => cases long
  | cons member members =>
      rcases Bool.or_eq_true_iff.mp long with first | later
      · exact ⟨member, List.mem_cons_self, holds_of_hasLongNumber member.2 first⟩
      · obtain ⟨other, among, inside⟩ := holds_of_anyLongMember members later
        exact ⟨other, List.mem_cons_of_mem _ among, inside⟩

end

/-! ## Characters of the text -/

section Written

variable {c : Char} (foreign : 0x80 ≤ c.toNat)

include foreign

theorem eq_of_mem_escapedChar {d : Char} (member : c ∈ escapedChar d) : c = d := by
  unfold escapedChar at member
  split_ifs at member
  iterate 7 exact absurd member (IsAscii.not_mem (by decide) foreign)
  · have escaped : IsAscii ('\\' :: 'u' :: Text.hexadecimal 4 d.toNat) :=
      .cons (by decide) (.cons (by decide) (isAscii_hexadecimal 4 _))
    exact absurd member (escaped.not_mem foreign)
  · exact List.mem_singleton.mp member

theorem mem_of_mem_writeString {text : String} (member : c ∈ writeString text) :
    c ∈ text.toList := by
  have unquoted : c ∉ ['\x22'] := IsAscii.not_mem (by decide) foreign
  rcases List.mem_append.mp member with opened | closing
  · rcases List.mem_cons.mp opened with rfl | escaped
    · exact absurd (List.mem_singleton.mpr rfl) unquoted
    · obtain ⟨d, among, inside⟩ := List.mem_flatMap.mp escaped
      exact eq_of_mem_escapedChar foreign inside ▸ among
  · exact absurd closing unquoted

theorem not_mem_newLine (level : Nat) : c ∉ newLine level :=
  (isAscii_newLine level).not_mem foreign

mutual

/-- A character beyond ASCII in the text of a value stands in the value. -/
theorem holds_of_mem_write (value : Json) (level : Nat) (member : c ∈ write level value) :
    Holds (Tells c) value := by
  have word (text : List Char) (ascii : IsAscii text) : c ∉ text := ascii.not_mem foreign
  cases value with
  | null => exact absurd member (word "null".toList (by decide))
  | boolean value =>
      cases value with
      | true => exact absurd member (word "true".toList (by decide))
      | false => exact absurd member (word "false".toList (by decide))
  | integer value => exact absurd member (word _ (isAscii_writeInteger value))
  | float value => exact absurd member (word _ (isAscii_writeDouble value))
  | string value => exact .here (.text (mem_of_mem_writeString foreign member))
  | array items =>
      cases items with
      | nil => exact absurd member (word ['[', ']'] (by decide))
      | cons item items =>
          simp only [write, List.mem_append, List.mem_cons, List.not_mem_nil, or_false, false_or,
            not_mem_newLine foreign, ne_of_ascii foreign '[' (by decide),
            ne_of_ascii foreign ']' (by decide)] at member
          rcases member with first | later
          · exact .item List.mem_cons_self (holds_of_mem_write item _ first)
          · obtain ⟨other, among, inside⟩ := exists_of_mem_writeItems items _ later
            exact .item (List.mem_cons_of_mem item among) inside
  | object members =>
      cases members with
      | nil => exact absurd member (word ['\x7b', '\x7d'] (by decide))
      | cons first members =>
          simp only [write, List.mem_append, List.mem_cons, List.not_mem_nil, or_false, false_or,
            not_mem_newLine foreign, ne_of_ascii foreign '\x7b' (by decide),
            ne_of_ascii foreign '\x7d' (by decide), ne_of_ascii foreign ':' (by decide),
            ne_of_ascii foreign ' ' (by decide)] at member
          rcases member with (name | inside) | later
          · exact .here (.name List.mem_cons_self (mem_of_mem_writeString foreign name))
          · exact .member List.mem_cons_self (holds_of_mem_write first.2 _ inside)
          · obtain ⟨other, among, name | inside⟩ := exists_of_mem_writeMembers members _ later
            · exact .here (.name (List.mem_cons_of_mem first among) name)
            · exact .member (List.mem_cons_of_mem first among) inside

theorem exists_of_mem_writeItems (items : List Json) (level : Nat)
    (member : c ∈ writeItems level items) : ∃ item ∈ items, Holds (Tells c) item := by
  cases items with
  | nil => cases member
  | cons item items =>
      simp only [writeItems, List.mem_append, List.mem_cons, false_or, not_mem_newLine foreign,
        ne_of_ascii foreign ',' (by decide)] at member
      rcases member with first | later
      · exact ⟨item, List.mem_cons_self, holds_of_mem_write item _ first⟩
      · obtain ⟨other, among, inside⟩ := exists_of_mem_writeItems items _ later
        exact ⟨other, List.mem_cons_of_mem item among, inside⟩

theorem exists_of_mem_writeMembers (members : List (String × Json)) (level : Nat)
    (member : c ∈ writeMembers level members) :
    ∃ member ∈ members, c ∈ member.1.toList ∨ Holds (Tells c) member.2 := by
  cases members with
  | nil => cases member
  | cons first members =>
      simp only [writeMembers, List.mem_append, List.mem_cons, List.not_mem_nil, or_false,
        false_or, not_mem_newLine foreign, ne_of_ascii foreign ',' (by decide),
        ne_of_ascii foreign ':' (by decide), ne_of_ascii foreign ' ' (by decide)] at member
      rcases member with (name | inside) | later
      · exact ⟨first, List.mem_cons_self, .inl (mem_of_mem_writeString foreign name)⟩
      · exact ⟨first, List.mem_cons_self, .inr (holds_of_mem_write first.2 _ inside)⟩
      · obtain ⟨other, among, inside⟩ := exists_of_mem_writeMembers members _ later
        exact ⟨other, List.mem_cons_of_mem first among, inside⟩

end

end Written

end Json

end RepoCatalog
