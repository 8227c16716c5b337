import Mathlib.Data.Nat.Digits.Defs
import RepoCatalog.CommandLine.Configuration
import RepoCatalog.Proofs.Text.Blank

/-!
# Numbers on the command line

A number is accepted if decimal digits write it, four thousand and three hundred of them at most,
blanks around them aside. All other texts are refused with guidance, but for two kinds: texts of
digits that are not all decimal, and texts with more digits than that. They pass for numerals and
fail as such.
-/

namespace RepoCatalog

/-- Decimal digits that write a number, most significant first. -/
structure Writes (text : List Char) (number : Nat) : Prop where
  /-- There is a digit. -/
  nonempty : text ≠ []
  /-- There are not too many. -/
  short : text.length ≤ 4300
  /-- Each is a decimal digit of some script, and together they have the value of the number. -/
  value : ∃ digits : List Nat, text.map Text.decimalValue? = digits.map some ∧
    Nat.ofDigits 10 digits.reverse = number

/-- Digits that pass for a numeral and are none. -/
structure IsDeceptive (text : List Char) : Prop where
  /-- There is a digit. -/
  nonempty : text ≠ []
  /-- There is nothing but digits. -/
  digits : ∀ c ∈ text, Text.isDigit c = true
  /-- One of them is not decimal, or there are too many. -/
  flawed : (∃ c ∈ text, Text.isDecimal c = false) ∨ 4300 < text.length

/-- What is wrong with digits that are no numeral. -/
inductive NumeralFault : List Char → Failure → Prop
  /-- There are too many decimal digits at the front. -/
  | tooLong {decimals rest : List Char} (front : ∀ c ∈ decimals, Text.isDecimal c = true)
      (next : ∀ c ∈ rest.head?, Text.isDecimal c = false) (long : 4300 < decimals.length) :
      NumeralFault (decimals ++ rest) (.numeralTooLong decimals.length)
  /-- Not too many decimal digits are followed by a digit of another kind. -/
  | notDecimal {decimals rest : List Char} {c : Char}
      (front : ∀ c ∈ decimals, Text.isDecimal c = true) (short : decimals.length ≤ 4300)
      (other : Text.isDecimal c = false) :
      NumeralFault (decimals ++ c :: rest) (.notANumeral (String.ofList (decimals ++ c :: rest)))

variable {text digits : List Char} {number other : Nat}

/-! ## Numerals -/

theorem isDecimal_of_value {c : Char} {digit : Nat} (value : Text.decimalValue? c = some digit) :
    Text.isDecimal c = true := by
  rw [Text.isDecimal, value, Option.isSome_some]

theorem isDigit_of_isDecimal {c : Char} (decimal : Text.isDecimal c = true) :
    Text.isDigit c = true := by
  rw [Text.isDigit, decimal, Bool.true_or]

/-- The number that decimal digits write is their positional value. -/
theorem decimalNumber_of_values {values : List Nat}
    (written : text.map Text.decimalValue? = values.map some) :
    Text.decimalNumber text = Nat.ofDigits 10 values.reverse := by
  have folds : ∀ start, text.foldl
      (fun value c => 10 * value + (Text.decimalValue? c).getD 0) start =
        values.foldl (fun value digit => digit + 10 * value) start := by
    induction text generalizing values with
    | nil =>
        intro start
        rw [List.map_nil, eq_comm, List.map_eq_nil_iff] at written
        rw [written]
        rfl
    | cons c rest induction =>
        intro start
        cases values with
        | nil => cases written
        | cons digit others =>
            simp only [List.map_cons, List.cons.injEq] at written
            rw [List.foldl_cons, List.foldl_cons, written.1, Option.getD_some, Nat.add_comm]
            exact induction written.2 _
  rw [Nat.ofDigits_eq_foldr, List.foldr_reverse]
  exact folds 0

theorem Writes.isDecimal (written : Writes text number) : ∀ c ∈ text, Text.isDecimal c = true := by
  obtain ⟨values, same, -⟩ := written.value
  intro c member
  have value : Text.decimalValue? c ∈ values.map some := by
    rw [← same]
    exact List.mem_map_of_mem member
  obtain ⟨digit, -, found⟩ := List.mem_map.mp value
  exact isDecimal_of_value found.symm

theorem Writes.decimalNumber (written : Writes text number) : Text.decimalNumber text = number := by
  obtain ⟨values, same, whole⟩ := written.value
  rw [decimalNumber_of_values same, whole]

theorem Writes.unique (first : Writes text number) (second : Writes text other) :
    number = other := by
  rw [← first.decimalNumber, second.decimalNumber]

theorem Writes.not_isDeceptive (written : Writes text number) : ¬ IsDeceptive text := by
  intro deceptive
  rcases deceptive.flawed with ⟨c, member, apart⟩ | long
  · rw [written.isDecimal c member] at apart
    cases apart
  · have short := written.short
    omega

/-- Decimal digits, if there are some and not too many, write a number. -/
theorem writes_decimalNumber (nonempty : text ≠ []) (short : text.length ≤ 4300)
    (decimal : ∀ c ∈ text, Text.isDecimal c = true) : Writes text (Text.decimalNumber text) := by
  have written : text.map Text.decimalValue? =
      (text.map fun c => (Text.decimalValue? c).getD 0).map some := by
    rw [List.map_map]
    refine List.map_congr_left fun c member => ?_
    obtain ⟨digit, value⟩ := Option.isSome_iff_exists.mp (decimal c member)
    rw [Function.comp_apply, value, Option.getD_some]
  exact ⟨nonempty, short, _, written, (decimalNumber_of_values written).symm⟩

theorem readDigits_of_writes (written : Writes digits number) : readDigits digits = .ok number := by
  have short := written.short
  have all : digits.takeWhile Text.isDecimal = digits :=
    List.takeWhile_eq_self_iff.mpr written.isDecimal
  unfold readDigits
  dsimp only
  rw [all, if_neg (by unfold Failure.digitLimit; omega), if_neg (Nat.lt_irrefl _),
    written.decimalNumber]

theorem readDigits_of_isDeceptive (deceptive : IsDeceptive digits) :
    ∃ failure, NumeralFault digits failure ∧ readDigits digits = .error failure := by
  obtain ⟨decimals, size⟩ : ∃ decimals, digits.takeWhile Text.isDecimal = decimals := ⟨_, rfl⟩
  obtain ⟨rest, left⟩ : ∃ rest, digits.dropWhile Text.isDecimal = rest := ⟨_, rfl⟩
  have whole : decimals ++ rest = digits := by rw [← size, ← left, List.takeWhile_append_dropWhile]
  have front : ∀ c ∈ decimals, Text.isDecimal c = true := fun c member =>
    List.mem_takeWhile_imp (size ▸ member)
  have next : ∀ c ∈ rest.head?, Text.isDecimal c = false := by
    intro c member
    have apart := List.head?_dropWhile_not Text.isDecimal digits
    rw [left, Option.mem_def.mp member] at apart
    exact apart
  have read : readDigits digits =
      if 4300 < decimals.length then .error (.numeralTooLong decimals.length)
      else if decimals.length < digits.length then .error (.notANumeral (String.ofList digits))
      else .ok (Text.decimalNumber digits) := by
    rw [← size]
    rfl
  by_cases long : 4300 < decimals.length
  · rw [read, if_pos long, ← whole]
    exact ⟨_, .tooLong front next long, rfl⟩
  · cases rest with
    | nil =>
        -- Then all digits are decimal and not too many.
        rw [List.append_nil] at whole
        subst whole
        rcases deceptive.flawed with ⟨c, member, apart⟩ | many
        · rw [front c member] at apart
          cases apart
        · exact absurd many long
    | cons c rest =>
        have shorter : decimals.length < digits.length := by
          simp [← whole]
        rw [read, if_neg long, if_pos shorter, ← whole]
        exact ⟨_, .notDecimal front (Nat.le_of_not_lt long) (next c rfl), rfl⟩

/-! ## Readers -/

theorem digitsOf?_eq_some_iff {text : String} : digitsOf? text = some digits ↔
    digits = Text.strip text.toList ∧ digits ≠ [] ∧ ∀ c ∈ digits, Text.isDigit c = true := by
  unfold digitsOf?
  dsimp only
  split
  · rename_i found
    have shown : Text.strip text.toList ≠ [] ∧
        ∀ c ∈ Text.strip text.toList, Text.isDigit c = true := by
      simpa using found
    constructor
    · rintro ⟨⟩
      exact ⟨rfl, shown⟩
    · rintro ⟨rfl, -⟩
      rfl
  · rename_i missing
    constructor
    · rintro ⟨⟩
    · rintro ⟨rfl, nonempty, all⟩
      exact absurd (by simpa using ⟨nonempty, all⟩) missing

/-- How the readers of numbers take a text, blanks around it aside. -/
inductive Reading (text : String) : Prop
  /-- It writes a number. -/
  | number {number : Nat} (written : Writes (Text.strip text.toList) number)
      (plain : readNonNegative text = .ok number)
      (positive : readPositive text =
        if number = 0 then .error (.badArgument "Use a positive integer (e.g., 8).")
        else .ok number)
  /-- It passes for a numeral and fails as such. -/
  | fault {failure : Failure} (deceptive : IsDeceptive (Text.strip text.toList))
      (fault : NumeralFault (Text.strip text.toList) failure)
      (plain : readNonNegative text = .error failure)
      (positive : readPositive text = .error failure)
  /-- It does not pass for a numeral. -/
  | refused (honest : ¬ IsDeceptive (Text.strip text.toList))
      (unwritten : ∀ number, ¬ Writes (Text.strip text.toList) number)
      (plain : readNonNegative text = .error (.badArgument "Use 0 or a positive integer."))
      (positive : readPositive text = .error (.badArgument "Use a positive integer (e.g., 8)."))

theorem reading_of_writes {text : String} (found : digitsOf? text = some digits)
    (same : digits = Text.strip text.toList) (written : Writes digits number) : Reading text := by
  have read := readDigits_of_writes written
  refine .number (same ▸ written) (by simp only [readNonNegative, found, read]) ?_
  simp only [readPositive, found, read]
  cases number with
  | zero => rfl
  | succ number =>
      rw [if_neg (Nat.succ_ne_zero number)]
      rfl

theorem reading_of_isDeceptive {text : String} (found : digitsOf? text = some digits)
    (same : digits = Text.strip text.toList) (deceptive : IsDeceptive digits) : Reading text := by
  obtain ⟨failure, fault, read⟩ := readDigits_of_isDeceptive deceptive
  refine .fault (same ▸ deceptive) (same ▸ fault) ?_ ?_
  · simp only [readNonNegative, found, read]
  · simp only [readPositive, found, read]

theorem reading_of_missing {text : String} (missing : digitsOf? text = none) : Reading text := by
  have absent : ∀ digits, ¬ digitsOf? text = some digits := by simp [missing]
  refine .refused (fun deceptive => ?_) (fun number written => ?_) ?_ ?_
  · exact absent _ (digitsOf?_eq_some_iff.mpr ⟨rfl, deceptive.nonempty, deceptive.digits⟩)
  · exact absent _ (digitsOf?_eq_some_iff.mpr
      ⟨rfl, written.nonempty, fun c member => isDigit_of_isDecimal (written.isDecimal c member)⟩)
  · simp only [readNonNegative, missing]
  · simp only [readPositive, missing]

/-- Every text is taken in one of the three ways. -/
theorem reading (text : String) : Reading text := by
  cases found : digitsOf? text with
  | none => exact reading_of_missing found
  | some digits =>
      obtain ⟨same, nonempty, all⟩ := digitsOf?_eq_some_iff.mp found
      by_cases decimal : ∀ c ∈ digits, Text.isDecimal c = true
      · by_cases short : digits.length ≤ 4300
        · exact reading_of_writes found same (writes_decimalNumber nonempty short decimal)
        · exact reading_of_isDeceptive found same ⟨nonempty, all, .inr (Nat.not_le.mp short)⟩
      · obtain ⟨c, member, other⟩ : ∃ c ∈ digits, ¬ Text.isDecimal c = true := by
          simpa using decimal
        exact reading_of_isDeceptive found same
          ⟨nonempty, all, .inl ⟨c, member, Bool.eq_false_iff.mpr other⟩⟩

theorem readNonNegative_eq_ok_iff (text : String) (number : Nat) :
    readNonNegative text = .ok number ↔ Writes (Text.strip text.toList) number := by
  cases reading text with
  | number written plain positive =>
      rw [plain, Except.ok.injEq]
      constructor
      · rintro rfl
        exact written
      · exact written.unique
  | fault deceptive fault plain positive =>
      simp only [plain, reduceCtorEq, false_iff]
      exact fun written => written.not_isDeceptive deceptive
  | refused honest unwritten plain positive =>
      simp only [plain, reduceCtorEq, false_iff]
      exact unwritten number

/-- A number that may not be zero is read like one that may be. -/
theorem readPositive_eq_ok_iff (text : String) (number : Nat) :
    readPositive text = .ok number ↔ readNonNegative text = .ok number ∧ 0 < number := by
  cases reading text with
  | @number other written plain positive =>
      rw [plain, positive, Except.ok.injEq]
      by_cases zero : other = 0
      · simp only [if_pos zero, reduceCtorEq, false_iff]
        omega
      · simp only [if_neg zero, Except.ok.injEq]
        omega
  | fault deceptive fault plain positive => simp [plain, positive]
  | refused honest unwritten plain positive => simp [plain, positive]

theorem readNonNegative_eq_error_iff {text : String}
    (honest : ¬ IsDeceptive (Text.strip text.toList)) (failure : Failure) :
    readNonNegative text = .error failure ↔
      (∀ number, ¬ Writes (Text.strip text.toList) number) ∧
        failure = .badArgument "Use 0 or a positive integer." := by
  cases reading text with
  | @number other written plain positive =>
      simp only [plain, reduceCtorEq, false_iff]
      exact fun refused => refused.1 other written
  | fault deceptive fault plain positive => exact absurd deceptive honest
  | refused honest unwritten plain positive =>
      rw [plain, Except.error.injEq, eq_comm]
      exact ⟨fun same => ⟨unwritten, same⟩, fun refused => refused.2⟩

theorem readPositive_eq_error_iff {text : String}
    (honest : ¬ IsDeceptive (Text.strip text.toList)) (failure : Failure) :
    readPositive text = .error failure ↔
      (∀ number, Writes (Text.strip text.toList) number → number = 0) ∧
        failure = .badArgument "Use a positive integer (e.g., 8)." := by
  cases reading text with
  | @number other written plain positive =>
      rw [positive]
      by_cases zero : other = 0
      · have only : ∀ number, Writes (Text.strip text.toList) number → number = 0 :=
          fun number wrote => (wrote.unique written).trans zero
        rw [if_pos zero, Except.error.injEq, eq_comm]
        exact ⟨fun same => ⟨only, same⟩, fun refused => refused.2⟩
      · simp only [if_neg zero, reduceCtorEq, false_iff]
        exact fun refused => zero (refused.1 other written)
  | fault deceptive fault plain positive => exact absurd deceptive honest
  | refused honest unwritten plain positive =>
      rw [positive, Except.error.injEq, eq_comm]
      exact ⟨fun same => ⟨fun number wrote => absurd wrote (unwritten number), same⟩,
        fun refused => refused.2⟩

/-- A number is read exactly from the decimal digits that write it, blanks around them aside, and
one that may not be zero is read like one that may be. Digits that pass for a numeral and are none
fail as such; of all other texts, those that are no such number are refused with guidance. -/
theorem readNumbers_unless_deceptive (text : String) :
    let digits := Text.strip text.toList
    (∀ number, readNonNegative text = .ok number ↔ Writes digits number) ∧
    (∀ number, readPositive text = .ok number ↔ readNonNegative text = .ok number ∧ 0 < number) ∧
    (IsDeceptive digits → ∃ failure, NumeralFault digits failure ∧
      readNonNegative text = .error failure ∧ readPositive text = .error failure) ∧
    (¬ IsDeceptive digits → ∀ failure,
      (readNonNegative text = .error failure ↔
        (∀ number, ¬ Writes digits number) ∧
          failure = .badArgument "Use 0 or a positive integer.") ∧
      (readPositive text = .error failure ↔
        (∀ number, Writes digits number → number = 0) ∧
          failure = .badArgument "Use a positive integer (e.g., 8).")) := by
  intro digits
  refine ⟨readNonNegative_eq_ok_iff text, readPositive_eq_ok_iff text, fun deceptive => ?_,
    fun honest failure => ⟨readNonNegative_eq_error_iff honest failure,
      readPositive_eq_error_iff honest failure⟩⟩
  cases reading text with
  | number written plain positive => exact absurd deceptive written.not_isDeceptive
  | fault deceptive fault plain positive => exact ⟨_, fault, plain, positive⟩
  | refused honest unwritten plain positive => exact absurd deceptive honest

/-- Digits of another script with blanks around them, a sign, zeros, and a superscript. -/
theorem readNumbers_unless_deceptive_superscript :
    Writes ['٤', '٢'] 42 ∧ readNonNegative " ٤٢\t" = .ok 42 ∧ readPositive " ٤٢\t" = .ok 42 ∧
      readNonNegative "-1" = .error (.badArgument "Use 0 or a positive integer.") ∧
      readPositive "00" = .error (.badArgument "Use a positive integer (e.g., 8).") ∧
      IsDeceptive ['4', '²'] ∧
      (∃ failure, NumeralFault ['4', '²'] failure ∧
        readNonNegative "4²" = .error failure ∧ readPositive "4²" = .error failure) ∧
      readNonNegative "4²" = .error (.notANumeral "4²") := by
  have written : Writes ['٤', '٢'] 42 := ⟨by decide, by decide, [4, 2], by decide, by decide⟩
  have zeros : Writes ['0', '0'] 0 := ⟨by decide, by decide, [0, 0], by decide, by decide⟩
  have squared : IsDeceptive ['4', '²'] := by
    refine ⟨by decide, fun c member => ?_, .inl ⟨'²', by decide, by decide +kernel⟩⟩
    rcases List.mem_pair.mp member with rfl | rfl
    · decide +kernel
    · decide +kernel
  have read : readNonNegative " ٤٢\t" = .ok 42 :=
    ((readNumbers_unless_deceptive " ٤٢\t").1 42).mpr written
  have signed : ¬ IsDeceptive ['-', '1'] := fun deceptive =>
    absurd (deceptive.digits '-' (by decide)) (by decide +kernel)
  refine ⟨written, read, ?_, ?_, ?_, squared, ?_, by decide +kernel⟩
  · exact ((readNumbers_unless_deceptive " ٤٢\t").2.1 42).mpr ⟨read, by decide⟩
  · refine ((readNumbers_unless_deceptive "-1").2.2.2 signed _).1.mpr ⟨fun number wrote => ?_, rfl⟩
    exact absurd (wrote.isDecimal '-' (by decide)) (by decide +kernel)
  · exact ((readNumbers_unless_deceptive "00").2.2.2 zeros.not_isDeceptive _).2.mpr
      ⟨fun number wrote => wrote.unique zeros, rfl⟩
  · exact (readNumbers_unless_deceptive "4²").2.2.1 squared

end RepoCatalog
