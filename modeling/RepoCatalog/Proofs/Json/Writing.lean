import Mathlib.Tactic.SplitIfs
import RepoCatalog.Json.Writer
import RepoCatalog.Proofs.Json.Grammar
import RepoCatalog.Text.Digit

/-!
# Writing what the grammar allows

The text of a value without floats and repeated names is in the grammar, with that value as its
meaning.
-/

namespace RepoCatalog.Json

open Grammar

/-- Whether a value has neither floats nor repeated names in it. -/
inductive IsExact : Json → Prop
  | null : IsExact null
  | boolean (value : Bool) : IsExact (boolean value)
  | integer (value : Int) : IsExact (integer value)
  | string (value : String) : IsExact (string value)
  | array {items : List Json} (all : ∀ item ∈ items, IsExact item) : IsExact (array items)
  | object {members : List (String × Json)} (all : ∀ member ∈ members, IsExact member.2)
      (distinct : (members.map Prod.fst).Nodup) : IsExact (object members)

/-! ## Strings -/

theorem hexDigit_of_lt {digit : Nat} (small : digit < 16) :
    HexDigit (Text.hexDigit digit) digit := by
  by_cases decimal : digit < 10
  · have all : ∀ digit < 10, '0' ≤ Text.hexDigit digit ∧ Text.hexDigit digit ≤ '9' ∧
        (Text.hexDigit digit).toNat - '0'.toNat = digit := by
      decide
    obtain ⟨least, greatest, value⟩ := all digit decimal
    have found := HexDigit.decimal least greatest
    rwa [value] at found
  · have all : ∀ digit < 16, ¬ digit < 10 → 'a' ≤ Text.hexDigit digit ∧
        Text.hexDigit digit ≤ 'f' ∧ (Text.hexDigit digit).toNat - 'a'.toNat + 10 = digit := by
      decide
    obtain ⟨least, greatest, value⟩ := all digit small decimal
    have found := HexDigit.lower least greatest
    rwa [value] at found

theorem codeUnit_hexadecimal {unit : Nat} (small : unit < 65536) :
    CodeUnit (Text.hexadecimal 4 unit) unit := by
  have digits := CodeUnit.digits
    (hexDigit_of_lt (Nat.mod_lt (unit / 16 / 16 / 16) (by decide : 0 < 16)))
    (hexDigit_of_lt (Nat.mod_lt (unit / 16 / 16) (by decide : 0 < 16)))
    (hexDigit_of_lt (Nat.mod_lt (unit / 16) (by decide : 0 < 16)))
    (hexDigit_of_lt (Nat.mod_lt unit (by decide : 0 < 16)))
  have value : ((unit / 16 / 16 / 16 % 16 * 16 + unit / 16 / 16 % 16) * 16 + unit / 16 % 16) * 16 +
      unit % 16 = unit := by
    omega
  rwa [value] at digits

theorem characters_escapedChar (c : Char) {text meant : List Char}
    (rest : Characters text meant) : Characters (escapedChar c ++ text) (c :: meant) := by
  unfold escapedChar
  simp only [beq_iff_eq]
  split_ifs with quote backslash newline carriage tab backspace feed control
  · subst quote
    exact .short (by decide) rest
  · subst backslash
    exact .short (by decide) rest
  · subst newline
    exact .short (by decide) rest
  · subst carriage
    exact .short (by decide) rest
  · subst tab
    exact .short (by decide) rest
  · subst backspace
    exact .short (by decide) rest
  · subst feed
    exact .short (by decide) rest
  · have written := codeUnit_hexadecimal (show c.toNat < 65536 by omega)
    have escaped := Characters.code written (.inl (by omega)) rest
    rwa [Char.ofNat_toNat] at escaped
  · exact .plain (Nat.le_of_not_lt control) quote backslash rest

theorem characters_escaped (text : List Char) : Characters (text.flatMap escapedChar) text := by
  induction text with
  | nil => exact .none
  | cons c text induction => exact characters_escapedChar c induction

/-! ## Integers -/

theorem isDigit_of_mem_naturalText {n : Nat} {c : Char} (member : c ∈ Text.naturalText n) :
    IsDigit c := by
  have digit := Nat.isDigit_of_mem_toDigits (by decide) (by decide) member
  simpa [Char.isDigit, IsDigit, Char.le_def] using digit

theorem head_naturalText {n : Nat} (positive : 0 < n) : (Text.naturalText n).head? ≠ some '0' := by
  induction n using Nat.strongRecOn with
  | ind n induction =>
      unfold Text.naturalText at induction ⊢
      by_cases small : n < 10
      · rw [Nat.toDigits_of_lt_base small]
        simp [Nat.digitChar_eq_zero, Nat.ne_of_gt positive]
      · have large : 10 ≤ n := Nat.le_of_not_lt small
        have shorter : n / 10 < n := Nat.div_lt_self positive (by decide)
        have nonzero : 0 < n / 10 := Nat.div_pos large (by decide)
        rw [Nat.toDigits_of_base_le (by decide) large, List.head?_append]
        obtain ⟨c, rest, digits⟩ := List.exists_cons_of_ne_nil
          (Nat.toDigits_ne_nil (n := n / 10) (b := 10))
        have found := induction (n / 10) shorter nonzero
        rw [digits] at found ⊢
        exact found

theorem whole_naturalText (n : Nat) : Whole (Text.naturalText n) := by
  have digits : Digits (Text.naturalText n) :=
    ⟨Nat.toDigits_ne_nil, fun c member => isDigit_of_mem_naturalText member⟩
  refine ⟨digits, fun leading => ?_⟩
  rcases Nat.eq_zero_or_pos n with rfl | positive
  · rfl
  · exact absurd leading (head_naturalText positive)

theorem numberOf_naturalText (n : Nat) : numberOf (Text.naturalText n) = n :=
  Nat.ofDigitChars_ten_toDigits

theorem value_writeInteger (value : Int) : Value (writeInteger value) (integer value) := by
  cases value with
  | ofNat n =>
      have whole := Numeral.whole .none (whole_naturalText n)
      rw [numberOf_naturalText] at whole
      exact .number whole
  | negSucc n =>
      have whole := Numeral.whole .minus (whole_naturalText (n + 1))
      rw [numberOf_naturalText] at whole
      exact .number whole

/-! ## Containers -/

theorem blanks_nil : Blanks [] := fun _ member => absurd member List.not_mem_nil

theorem blanks_newLine (level : Nat) : Blanks (newLine level) := by
  intro c member
  rcases List.mem_cons.mp member with rfl | space
  · decide
  · rw [List.eq_of_mem_replicate space]
    decide

theorem items_write {level : Nat} {item : Json} {items : List Json}
    (all : ∀ other ∈ item :: items, Value (write level other) other) {after : List Char}
    (blanksAfter : Blanks after) :
    Items (newLine level ++ write level item ++ (writeItems level items ++ after))
      (item :: items) := by
  induction items generalizing item with
  | nil => exact .last (blanks_newLine level) (all item List.mem_cons_self) blanksAfter
  | cons next items induction =>
      have others := induction fun other member => all other (List.mem_cons_of_mem item member)
      have found := Items.next (blanks_newLine level) (all item List.mem_cons_self)
        blanks_nil others
      simpa [writeItems] using found

theorem members_write {level : Nat} {member : String × Json} {members : List (String × Json)}
    (all : ∀ other ∈ member :: members, Value (write level other.2) other.2) {after : List Char}
    (blanksAfter : Blanks after) :
    Members (newLine level ++ writeString member.1 ++ [':', ' '] ++ write level member.2 ++
      (writeMembers level members ++ after)) (member :: members) := by
  have gap : Blanks [' '] := by
    intro c member
    rw [List.mem_singleton.mp member]
    decide
  induction members generalizing member with
  | nil =>
      have found := Members.last (blanks_newLine level) (characters_escaped member.1.toList)
        blanks_nil gap (all member List.mem_cons_self) blanksAfter
      simpa [writeMembers, writeString] using found
  | cons next members induction =>
      have others := induction fun other among => all other (List.mem_cons_of_mem member among)
      have found := Members.next (blanks_newLine level) (characters_escaped member.1.toList)
        blanks_nil gap (all member List.mem_cons_self) blanks_nil others
      simpa [writeMembers, writeString] using found

/-- The text of a value is in the grammar, and means that value. -/
theorem value_write {value : Json} (precise : IsExact value) (level : Nat) :
    Value (write level value) value := by
  induction precise generalizing level with
  | null => exact .null
  | boolean value =>
      cases value with
      | false => exact .no
      | true => exact .yes
  | integer value => exact value_writeInteger value
  | string value =>
      have found := Value.string (characters_escaped value.toList)
      rwa [String.ofList_toList] at found
  | @array items all induction =>
      cases items with
      | nil => exact .emptyArray blanks_nil
      | cons item items =>
          have items := items_write (fun other member => induction other member (level + 1))
            (blanks_newLine level)
          simpa [write] using Value.array items
  | @object members all distinct induction =>
      cases members with
      | nil => exact .emptyObject blanks_nil
      | cons member members =>
          have members := members_write (fun other among => induction other among (level + 1))
            (blanks_newLine level)
          simpa [write] using Value.object members distinct

theorem document_pretty {value : Json} (precise : IsExact value) :
    Document value.pretty.toList value := by
  have written := Document.value blanks_nil (value_write precise 0) blanks_nil
  rwa [List.nil_append, List.append_nil, ← String.toList_ofList (l := write 0 value)] at written

end RepoCatalog.Json
