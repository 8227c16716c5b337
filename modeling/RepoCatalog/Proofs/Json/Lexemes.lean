import Mathlib.Data.List.TakeDrop
import RepoCatalog.Json.Reader
import RepoCatalog.Proofs.Json.Grammar

/-!
# Reading numbers and strings

The reader gives every numeral and every string of the grammar its meaning. What follows a number
must not continue it; a string ends with its closing quote.
-/

namespace RepoCatalog.Json

open Grammar

/-! ## Blanks -/

theorem isBlank_iff (c : Char) :
    (c == ' ' || c == '\n' || c == '\r' || c == '\t') = true ↔ IsBlank c := by
  simp only [IsBlank, Bool.or_eq_true, beq_iff_eq]
  grind

theorem skipBlanks_append {blanks : List Char} (inside : Blanks blanks) (text : List Char) :
    skipBlanks (blanks ++ text) = skipBlanks text := by
  unfold skipBlanks
  exact List.dropWhile_append_of_pos fun c member => (isBlank_iff c).mpr (inside c member)

theorem skipBlanks_cons {c : Char} (solid : ¬ IsBlank c) (text : List Char) :
    skipBlanks (c :: text) = c :: text := by
  unfold skipBlanks
  rw [List.dropWhile_cons_of_neg]
  rwa [isBlank_iff]

/-! ## Digits -/

theorem isNumberDigit_iff (c : Char) : isNumberDigit c = true ↔ IsDigit c := by
  simp [isNumberDigit, IsDigit]

theorem eq_of_isDigit {c : Char} (digit : IsDigit c) :
    c ∈ ['0', '1', '2', '3', '4', '5', '6', '7', '8', '9'] := by
  obtain ⟨least, greatest⟩ := digit
  rw [Char.le_def, UInt32.le_iff_toNat_le] at least greatest
  have all : ∀ n < 10, Char.ofNat (48 + n) ∈
      ['0', '1', '2', '3', '4', '5', '6', '7', '8', '9'] := by
    decide
  have place : 48 + (c.toNat - 48) = c.toNat := Nat.add_sub_cancel' least
  have small : c.toNat ≤ 57 := greatest
  have here := all (c.toNat - 48) (by omega)
  rwa [place, Char.ofNat_toNat] at here

theorem decimalValue?_of_isDigit {c : Char} (digit : IsDigit c) :
    Text.decimalValue? c = some (c.toNat - '0'.toNat) := by
  have listed := eq_of_isDigit digit
  simp only [List.mem_cons, List.not_mem_nil, or_false] at listed
  rcases listed with rfl | rfl | rfl | rfl | rfl | rfl | rfl | rfl | rfl | rfl <;> decide

theorem decimalNumber_of_digits {digits : List Char} (written : ∀ c ∈ digits, IsDigit c) :
    Text.decimalNumber digits = numberOf digits := by
  have folds : ∀ start, digits.foldl
      (fun value c => 10 * value + (Text.decimalValue? c).getD 0) start =
        digits.foldl (fun number c => 10 * number + (c.toNat - '0'.toNat)) start := by
    induction digits with
    | nil => exact fun _ => rfl
    | cons c digits induction =>
        intro start
        have here := decimalValue?_of_isDigit (written c List.mem_cons_self)
        simp only [List.foldl_cons, here, Option.getD_some]
        exact induction (fun other member => written other (List.mem_cons_of_mem c member)) _
  exact folds 0

/-- Whether a text does not go on with a digit. -/
def Undigited (text : List Char) : Prop :=
  ∀ c ∈ text.head?, ¬ IsDigit c

theorem spanDigits_append {digits rest : List Char} (written : ∀ c ∈ digits, IsDigit c)
    (ends : Undigited rest) : spanDigits (digits ++ rest) = (digits, rest) := by
  have all : ∀ c ∈ digits, isNumberDigit c = true := fun c member =>
    (isNumberDigit_iff c).mpr (written c member)
  rw [spanDigits, List.span_eq_takeWhile_dropWhile, List.takeWhile_append_of_pos all,
    List.dropWhile_append_of_pos all]
  cases rest with
  | nil => simp
  | cons c rest =>
      have stops : ¬ isNumberDigit c = true := by
        rw [isNumberDigit_iff]
        exact ends c rfl
      rw [List.takeWhile_cons_of_neg stops, List.dropWhile_cons_of_neg stops, List.append_nil]

/-! ## Numbers -/

/-- Whether a text does not continue a number. -/
def EndsNumber (text : List Char) : Prop :=
  ∀ c ∈ text.head?, ¬ IsDigit c ∧ c ≠ '.' ∧ c ≠ 'e' ∧ c ≠ 'E'

theorem EndsNumber.undigited {text : List Char} (ends : EndsNumber text) : Undigited text :=
  fun c first => (ends c first).1

/-- Whether a text does not continue the digits of a number and their fraction. -/
def Unpointed (text : List Char) : Prop :=
  ∀ c ∈ text.head?, ¬ IsDigit c ∧ c ≠ '.'

theorem EndsNumber.unpointed {text : List Char} (ends : EndsNumber text) : Unpointed text :=
  fun c first => ⟨(ends c first).1, (ends c first).2.1⟩

theorem unpointed_of_exponent {mark : List Char} {power : Int} (raised : Exponent mark power)
    (rest : List Char) : Unpointed (mark ++ rest) := by
  cases raised with
  | plain marks | plus marks | minus marks =>
      intro c first
      cases first
      rcases marks with rfl | rfl <;> decide

theorem readFraction_of_point {point decimals rest : List Char} (pointed : Fraction point decimals)
    (ends : Undigited rest) : readFraction (point ++ rest) = some (decimals, rest) := by
  obtain ⟨⟨nonempty, digits⟩⟩ := pointed
  rw [List.cons_append, readFraction, spanDigits_append digits ends]
  cases decimals with
  | nil => exact absurd rfl nonempty
  | cons c decimals => rfl

theorem readFraction_of_unpointed {text : List Char} (unpointed : Unpointed text) :
    readFraction text = some ([], text) := by
  cases text with
  | nil => rfl
  | cons c rest =>
      have differs := (unpointed c rfl).2
      unfold readFraction
      split
      · rename_i same
        exact absurd (List.cons.inj same).1 differs
      · rfl

theorem readExponent_of_mark {mark rest : List Char} {power : Int} (raised : Exponent mark power)
    (ends : Undigited rest) : readExponent (mark ++ rest) = some (some power, rest) := by
  cases raised with
  | @plain mark digits marks written =>
      have marked : (mark == 'e' || mark == 'E') = true := by simpa using marks
      obtain ⟨c, digits, rfl⟩ := List.exists_cons_of_ne_nil written.1
      have digit := written.2 c List.mem_cons_self
      have minus : c ≠ '-' := by
        rintro rfl
        exact absurd digit (by decide)
      have plus : c ≠ '+' := by
        rintro rfl
        exact absurd digit (by decide)
      have spanned := spanDigits_append written.2 ends
      rw [List.cons_append] at spanned
      simp [readExponent, marked, minus, plus, spanned, decimalNumber_of_digits written.2]
  | @plus mark digits marks written =>
      have marked : (mark == 'e' || mark == 'E') = true := by simpa using marks
      obtain ⟨c, digits, rfl⟩ := List.exists_cons_of_ne_nil written.1
      have spanned := spanDigits_append written.2 ends
      rw [List.cons_append] at spanned
      simp [readExponent, marked, spanned, decimalNumber_of_digits written.2]
  | @minus mark digits marks written =>
      have marked : (mark == 'e' || mark == 'E') = true := by simpa using marks
      obtain ⟨c, digits, rfl⟩ := List.exists_cons_of_ne_nil written.1
      have spanned := spanDigits_append written.2 ends
      rw [List.cons_append] at spanned
      simp [readExponent, marked, spanned, decimalNumber_of_digits written.2]

theorem readExponent_of_ends {text : List Char} (ends : EndsNumber text) :
    readExponent text = some (none, text) := by
  cases text with
  | nil => rfl
  | cons c rest =>
      obtain ⟨-, -, lower, upper⟩ := ends c rfl
      simp [readExponent, lower, upper]

/-- Digits before the point are read up to what does not continue them. -/
theorem readMagnitude_of_whole {digits text : List Char} (written : Whole digits)
    (ends : Undigited text) (negative : Bool) :
    readMagnitude negative (digits ++ text) = (do
      let (fractional, rest) ← readFraction text
      let (power, rest) ← readExponent rest
      if fractional.isEmpty && power.isNone then
        let size : Int := Text.decimalNumber digits
        return (integer (if negative then -size else size), rest)
      else
        let number := Text.decimalNumber (digits ++ fractional)
        return (float (Double.ofDecimal negative number (power.getD 0 - fractional.length)),
          rest)) := by
  obtain ⟨⟨nonempty, all⟩, leading⟩ := written
  rw [readMagnitude, spanDigits_append all ends]
  cases digits with
  | nil => exact absurd rfl nonempty
  | cons c digits =>
      by_cases zero : c = '0'
      · subst zero
        obtain rfl : digits = [] := by simpa using leading rfl
        rfl
      · split
        · rename_i same
          cases same
        · rename_i same
          cases same
          exact absurd rfl zero
        · rename_i same
          cases same
          rfl

theorem afterWord?_of_ne {first c : Char} (differs : c ≠ first) (word text : List Char) :
    afterWord? (first :: word) (c :: text) = none := by
  simp [afterWord?, List.isPrefixOf, Ne.symm differs]

/-- A number that starts with a digit, after its sign, is no word. -/
theorem readNumber_of_sign {sign text : List Char} {negative : Bool} (signed : Sign sign negative)
    (digit : ∃ c rest, text = c :: rest ∧ IsDigit c) :
    readNumber (sign ++ text) = readMagnitude negative text := by
  obtain ⟨c, rest, rfl, digit⟩ := digit
  have minus : c ≠ '-' := by
    rintro rfl
    exact absurd digit (by decide)
  have undefined : afterWord? "NaN".toList (c :: rest) = none := by
    refine @afterWord?_of_ne 'N' c ?_ ['a', 'N'] rest
    rintro rfl
    exact absurd digit (by decide)
  have infinite : afterWord? "Infinity".toList (c :: rest) = none := by
    refine @afterWord?_of_ne 'I' c ?_ ['n', 'f', 'i', 'n', 'i', 't', 'y'] rest
    rintro rfl
    exact absurd digit (by decide)
  cases signed with
  | none =>
      unfold readNumber
      split
      · rename_i same
        exact absurd (List.cons.inj same).1 minus
      · rw [List.nil_append, undefined]
        simp only [readUnsigned, infinite]
  | minus =>
      simp only [List.cons_append, List.nil_append, readNumber, readUnsigned, infinite]

theorem head_of_whole {digits : List Char} (written : Whole digits) (rest : List Char) :
    ∃ c later, digits ++ rest = c :: later ∧ IsDigit c := by
  obtain ⟨c, digits, rfl⟩ := List.exists_cons_of_ne_nil written.1.1
  exact ⟨c, digits ++ rest, rfl, written.1.2 c List.mem_cons_self⟩

theorem undigited_of_fraction {point decimals : List Char} (pointed : Fraction point decimals)
    (rest : List Char) : Undigited (point ++ rest) := by
  obtain ⟨-⟩ := pointed
  intro c first
  cases first
  decide

theorem decimalNumber_append {digits point decimals : List Char} (written : Whole digits)
    (pointed : Fraction point decimals) :
    decimals ≠ [] ∧ Text.decimalNumber (digits ++ decimals) = numberOf (digits ++ decimals) := by
  obtain ⟨nonempty, all⟩ := pointed
  refine ⟨nonempty, decimalNumber_of_digits fun c member => ?_⟩
  rcases List.mem_append.mp member with before | after
  · exact written.1.2 c before
  · exact all c after

/-- A numeral is read up to what does not continue it. -/
theorem readNumber_of_numeral {text rest : List Char} {value : Json} (numeral : Numeral text value)
    (ends : EndsNumber rest) : readNumber (text ++ rest) = some (value, rest) := by
  cases numeral with
  | whole signed written =>
      rw [List.append_assoc, readNumber_of_sign signed (head_of_whole written _),
        readMagnitude_of_whole written ends.undigited, readFraction_of_unpointed ends.unpointed]
      simp [readExponent_of_ends ends, decimalNumber_of_digits written.1.2]
  | fraction signed written pointed =>
      obtain ⟨nonempty, number⟩ := decimalNumber_append written pointed
      rw [List.append_assoc, List.append_assoc,
        readNumber_of_sign signed (head_of_whole written _),
        readMagnitude_of_whole written (undigited_of_fraction pointed rest),
        readFraction_of_point pointed ends.undigited]
      simp [readExponent_of_ends ends, nonempty, number]
  | power signed written raised =>
      have unpointed := unpointed_of_exponent raised rest
      rw [List.append_assoc, List.append_assoc,
        readNumber_of_sign signed (head_of_whole written _),
        readMagnitude_of_whole written fun c first => (unpointed c first).1,
        readFraction_of_unpointed unpointed]
      simp [readExponent_of_mark raised ends.undigited, decimalNumber_of_digits written.1.2]
  | scientific signed written pointed raised =>
      obtain ⟨nonempty, number⟩ := decimalNumber_append written pointed
      have unpointed := unpointed_of_exponent raised rest
      rw [List.append_assoc, List.append_assoc, List.append_assoc,
        readNumber_of_sign signed (head_of_whole written _),
        readMagnitude_of_whole written (undigited_of_fraction pointed _),
        readFraction_of_point pointed fun c first => (unpointed c first).1]
      simp [readExponent_of_mark raised ends.undigited, nonempty, number]

theorem head_of_numeral {text : List Char} {value : Json} (numeral : Numeral text value) :
    ∃ c rest, text = c :: rest ∧ (IsDigit c ∨ c = '-') := by
  have signed : ∀ {sign digits : List Char} {negative : Bool}, Sign sign negative →
      Whole digits → ∀ rest, ∃ c later, sign ++ digits ++ rest = c :: later ∧
        (IsDigit c ∨ c = '-') := by
    intro sign digits negative signed written rest
    cases signed with
    | none =>
        obtain ⟨c, later, same, digit⟩ := head_of_whole written rest
        exact ⟨c, later, same, .inl digit⟩
    | minus => exact ⟨'-', digits ++ rest, rfl, .inr rfl⟩
  cases numeral with
  | whole sign written =>
      have found := signed sign written []
      rwa [List.append_nil] at found
  | fraction sign written pointed => exact signed sign written _
  | power sign written raised => exact signed sign written _
  | scientific sign written pointed raised =>
      rw [List.append_assoc]
      exact signed sign written _

/-! ## Strings -/

theorem hexValue?_of_digit {c : Char} {value : Nat} (digit : HexDigit c value) :
    hexValue? c = some value := by
  have order : ∀ a b : Char, a ≤ b ↔ a.toNat ≤ b.toNat := fun _ _ => Iff.rfl
  cases digit with
  | decimal least greatest => simp [hexValue?, least, greatest]
  | lower least greatest =>
      simp only [order] at least greatest
      have above : ¬ c.toNat ≤ '9'.toNat := fun below =>
        absurd (Nat.le_trans least below) (by decide)
      have place : c.toNat - 87 = c.toNat - 'a'.toNat + 10 := by
        have small : 97 ≤ c.toNat := least
        exact (by omega : c.toNat - 87 = c.toNat - 97 + 10)
      simp only [hexValue?, order, least, greatest, above, decide_true, decide_false,
        Bool.and_false, Bool.and_self, Bool.false_eq_true, if_false, if_true, place]
  | upper least greatest =>
      simp only [order] at least greatest
      have above : ¬ c.toNat ≤ '9'.toNat := fun below =>
        absurd (Nat.le_trans least below) (by decide)
      have below : ¬ 'a'.toNat ≤ c.toNat := fun above =>
        absurd (Nat.le_trans above greatest) (by decide)
      have place : c.toNat - 55 = c.toNat - 'A'.toNat + 10 := by
        have small : 65 ≤ c.toNat := least
        exact (by omega : c.toNat - 55 = c.toNat - 65 + 10)
      simp only [hexValue?, order, least, greatest, above, below, decide_true, decide_false,
        Bool.and_false, Bool.false_and, Bool.and_self, Bool.false_eq_true, if_false, if_true, place]

theorem hexQuad?_of_unit {a b c d : Char} {unit : Nat} (written : CodeUnit [a, b, c, d] unit) :
    hexQuad? a b c d = some unit := by
  obtain ⟨a_digit, b_digit, c_digit, d_digit⟩ := written
  simp [hexQuad?, hexValue?_of_digit a_digit, hexValue?_of_digit b_digit,
    hexValue?_of_digit c_digit, hexValue?_of_digit d_digit]

theorem exists_digits_of_unit {digits : List Char} {unit : Nat} (written : CodeUnit digits unit) :
    ∃ a b c d, digits = [a, b, c, d] := by
  obtain ⟨-, -, -, -⟩ := written
  exact ⟨_, _, _, _, rfl⟩

theorem shortEscape?_of_mem {letter c : Char} (stands : (letter, c) ∈ shortEscapes) :
    shortEscape? letter = some c ∧ letter ≠ 'u' := by
  simp only [shortEscapes, List.mem_cons, Prod.mk.injEq, List.not_mem_nil, or_false] at stands
  rcases stands with ⟨rfl, rfl⟩ | ⟨rfl, rfl⟩ | ⟨rfl, rfl⟩ | ⟨rfl, rfl⟩ | ⟨rfl, rfl⟩ | ⟨rfl, rfl⟩ |
    ⟨rfl, rfl⟩ | ⟨rfl, rfl⟩ <;> decide

section Characters

variable (read : List Char) {text : List Char}

theorem readString_plain {c : Char} (printed : 0x20 ≤ c.toNat) (unquoted : c ≠ '\x22')
    (unescaped : c ≠ '\\') : readString read (c :: text) = readString (c :: read) text := by
  have allowed : ¬ (c.toNat < 32 || c == '\\') = true := by
    simp [unescaped, printed]
  rw [readString.eq_def]
  split
  case h_1 same => exact absurd (List.cons.inj same).1 unquoted
  case h_2 same => exact absurd (List.cons.inj same).1 unescaped
  case h_3 same => exact absurd (List.cons.inj same).1 unescaped
  case h_4 same =>
    cases same
    rw [if_neg allowed]
  case h_5 same => cases same

theorem readString_short {letter c : Char} (stands : (letter, c) ∈ shortEscapes) :
    readString read ('\\' :: letter :: text) = readString (c :: read) text := by
  obtain ⟨found, differs⟩ := shortEscape?_of_mem stands
  rw [readString.eq_def]
  split
  case h_1 same => cases same
  case h_2 same => exact absurd (List.cons.inj (List.cons.inj same).2).1 differs
  case h_3 same =>
    cases same
    simp only [found]
  case h_4 other same =>
    obtain ⟨rfl, later⟩ := List.cons.inj same
    exact (other letter text rfl later.symm).elim
  case h_5 same => cases same

theorem readString_code {digits : List Char} {unit : Nat} (written : CodeUnit digits unit)
    (scalar : unit < 0xD800 ∨ 0xE000 ≤ unit) :
    readString read ('\\' :: 'u' :: digits ++ text) =
      readString (Char.ofNat unit :: read) text := by
  obtain ⟨a, b, c, d, rfl⟩ := exists_digits_of_unit written
  have high : isHighSurrogate unit = false := by
    unfold isHighSurrogate
    grind
  have low : isLowSurrogate unit = false := by
    unfold isLowSurrogate
    grind
  simp [readString, hexQuad?_of_unit written, high, low]

theorem readString_pair {highs lows : List Char} {high low : Nat} (first : CodeUnit highs high)
    (isHigh : 0xD800 ≤ high ∧ high < 0xDC00) (second : CodeUnit lows low)
    (isLow : 0xDC00 ≤ low ∧ low < 0xE000) :
    readString read ('\\' :: 'u' :: highs ++ '\\' :: 'u' :: lows ++ text) =
      readString (joinSurrogates high low :: read) text := by
  obtain ⟨a, b, c, d, rfl⟩ := exists_digits_of_unit first
  obtain ⟨e, f, g, h, rfl⟩ := exists_digits_of_unit second
  have highFirst : isHighSurrogate high = true := by
    unfold isHighSurrogate
    grind
  have lowSecond : isLowSurrogate low = true := by
    unfold isLowSurrogate
    grind
  simp [readString, hexQuad?_of_unit first, hexQuad?_of_unit second, highFirst, lowSecond]

/-- What a string means is read up to its closing quote. -/
theorem readString_append {meant : List Char} (written : Characters text meant)
    (rest : List Char) :
    readString read (text ++ '\x22' :: rest) = some (read.reverse ++ meant, rest) := by
  induction written generalizing read with
  | none => simp [readString]
  | plain printed unquoted unescaped _ induction =>
      rw [List.cons_append, readString_plain read printed unquoted unescaped, induction]
      simp
  | short stands _ induction =>
      rw [List.cons_append, List.cons_append, readString_short read stands, induction]
      simp
  | code written scalar _ induction =>
      rw [List.append_assoc, readString_code read written scalar, induction]
      simp
  | pair first isHigh second isLow _ induction =>
      rw [List.append_assoc, readString_pair read first isHigh second isLow, induction]
      simp [joinSurrogates]

end Characters

end RepoCatalog.Json
