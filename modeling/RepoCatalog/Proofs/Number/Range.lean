import Mathlib.Algebra.Order.Field.Power
import Mathlib.Algebra.Order.Ring.Rat
import Mathlib.Tactic.FieldSimp
import Mathlib.Tactic.Linarith
import Mathlib.Tactic.Ring
import RepoCatalog.Number.Double

/-!
# The range of doubles

Which numbers are rounded to finite doubles: those below half a unit above the largest one.
-/

namespace RepoCatalog.Double

/-- What is half a unit below a power of two, in terms of half a unit. -/
def halfUnitBelow (power : Nat) : Nat :=
  (2 ^ 54 - 1) * Nat.pow 2 power

/-- The least number that is rounded to an infinite double. -/
def overflowStart : Nat :=
  halfUnitBelow 970

/-! ## Rounding to whole numbers -/

theorem div_le_divideToEven (numerator denominator : Nat) :
    numerator / denominator ≤ divideToEven numerator denominator := by
  unfold divideToEven
  grind

theorem divideToEven_le (numerator denominator : Nat) :
    divideToEven numerator denominator ≤ numerator / denominator + 1 := by
  unfold divideToEven
  grind

/-- An even number is reached from half a unit below it. -/
theorem even_le_divideToEven_iff {half numerator denominator : Nat} (positive : 0 < denominator) :
    2 * (half + 1) ≤ divideToEven numerator denominator ↔
      (4 * half + 3) * denominator ≤ 2 * numerator := by
  have parts := Nat.div_add_mod numerator denominator
  have small := Nat.mod_lt numerator positive
  unfold divideToEven
  generalize numerator / denominator = quotient at parts ⊢
  generalize numerator % denominator = remainder at parts small ⊢
  rcases Nat.lt_trichotomy quotient (2 * half + 1) with below | rfl | above
  · have whole : denominator * quotient ≤ denominator * (2 * half) :=
      Nat.mul_le_mul_left denominator (Nat.le_of_lt_succ below)
    constructor
    · grind
    · intro reached
      nlinarith
  · have tie : (4 * half + 3) * denominator ≤ 2 * numerator ↔ denominator ≤ 2 * remainder := by
      constructor <;> intro reached <;> nlinarith
    rw [tie]
    grind
  · have whole : denominator * (2 * half + 2) ≤ denominator * quotient :=
      Nat.mul_le_mul_left denominator above
    constructor
    · intro reached
      nlinarith
    · grind

/-! ## Scaling -/

variable {numerator denominator : Nat}

theorem scaled_pos (numerator : Nat) (positive : 0 < denominator) (exponent : Int) :
    0 < (scaled numerator denominator exponent).2 := by
  unfold scaled
  split
  · exact Nat.mul_pos positive (Nat.pow_pos (by decide))
  · exact positive

theorem scaled_value (exponent : Int) :
    ((scaled numerator denominator exponent).1 : ℚ) / (scaled numerator denominator exponent).2 =
      numerator / denominator / 2 ^ exponent := by
  unfold scaled
  split
  · rename_i raised
    obtain ⟨power, rfl⟩ := Int.eq_ofNat_of_zero_le raised
    simp [div_div]
  · rename_i lowered
    obtain ⟨power, rfl⟩ : ∃ power : Nat, exponent = -power := ⟨(-exponent).toNat, by omega⟩
    simp [zpow_neg, mul_div_right_comm]

/-- Whole part of a fraction in units of a power of two. -/
def wholePart (numerator denominator : Nat) (exponent : Int) : Nat :=
  (scaled numerator denominator exponent).1 / (scaled numerator denominator exponent).2

/-- Whole number nearest to a fraction in units of a power of two. -/
def nearest (numerator denominator : Nat) (exponent : Int) : Nat :=
  divideToEven (scaled numerator denominator exponent).1 (scaled numerator denominator exponent).2

theorem wholePart_lt_iff (positive : 0 < denominator) (exponent : Int) (bound : Nat) :
    wholePart numerator denominator exponent < bound ↔
      (numerator : ℚ) / denominator < bound * 2 ^ exponent := by
  have divisor := scaled_pos numerator positive exponent
  have divisorRat : (0 : ℚ) < (scaled numerator denominator exponent).2 := by
    exact_mod_cast divisor
  have unit : (0 : ℚ) < 2 ^ exponent := zpow_pos (by decide) exponent
  rw [wholePart, Nat.div_lt_iff_lt_mul divisor, ← div_lt_iff₀ unit, ← scaled_value,
    div_lt_iff₀ divisorRat]
  exact_mod_cast Iff.rfl

/-- An even number of units is reached from half a unit below it. -/
theorem even_le_nearest_iff (numerator : Nat) (positive : 0 < denominator) (exponent : Int)
    (half : Nat) :
    2 * (half + 1) ≤ nearest numerator denominator exponent ↔
      (4 * half + 3 : ℚ) * 2 ^ exponent ≤ 2 * (numerator / denominator) := by
  have divisor := scaled_pos numerator positive exponent
  have divisorRat : (0 : ℚ) < (scaled numerator denominator exponent).2 := by
    exact_mod_cast divisor
  have unit : (0 : ℚ) < 2 ^ exponent := zpow_pos (by decide) exponent
  rw [nearest, even_le_divideToEven_iff divisor, ← le_div_iff₀ unit, mul_div_assoc, ← scaled_value,
    ← mul_div_assoc, le_div_iff₀ divisorRat]
  exact_mod_cast Iff.rfl

/-! ## Choosing an exponent -/

/-- Exponent that leaves 53 or 54 bits. -/
def guessed (numerator denominator : Nat) : Int :=
  (bitLength numerator : Int) - bitLength denominator - 53

/-- Exponent that leaves 53 bits, or the least one. -/
def chosen (numerator denominator : Nat) : Int :=
  max leastExponent
    (if wholePart numerator denominator (guessed numerator denominator) < Nat.pow 2 53 then
      guessed numerator denominator
    else guessed numerator denominator + 1)

theorem ofFraction_eq (negative : Bool) (numerator denominator : Nat) :
    ofFraction negative numerator denominator =
      let exponent := chosen numerator denominator
      let significand := nearest numerator denominator exponent
      let carried :=
        if significand = Nat.pow 2 53 then (Nat.pow 2 52, exponent + 1) else (significand, exponent)
      if carried.1 = 0 then .finite negative 0 0
      else if greatestExponent < carried.2 then .infinite negative
      else .finite negative carried.1 carried.2 := rfl

theorem lt_pow_bitLength (n : Nat) : n < 2 ^ bitLength n := by
  unfold bitLength
  split
  · rename_i zero
    rw [zero]
    decide
  · exact Nat.lt_log2_self

theorem pow_bitLength_le {n : Nat} (nonzero : n ≠ 0) : 2 ^ bitLength n ≤ 2 * n := by
  rw [bitLength, if_neg nonzero, Nat.pow_succ']
  exact Nat.mul_le_mul_left 2 (Nat.log2_self_le nonzero)

theorem lt_of_guessed (numerator : Nat) (positive : 0 < denominator) :
    (numerator : ℚ) / denominator < 2 ^ (guessed numerator denominator + 54) := by
  have above : (numerator : ℚ) < 2 ^ bitLength numerator := by
    exact_mod_cast lt_pow_bitLength numerator
  have below : (2 : ℚ) ^ bitLength denominator ≤ 2 * denominator := by
    exact_mod_cast pow_bitLength_le (Nat.ne_of_gt positive)
  have divisor : (0 : ℚ) < denominator := by
    exact_mod_cast positive
  have place : guessed numerator denominator + 54 =
      (bitLength numerator : Int) + 1 - bitLength denominator := by
    unfold guessed
    ring
  rw [place, zpow_sub₀ two_ne_zero, zpow_add_one₀ two_ne_zero, zpow_natCast, zpow_natCast,
    div_lt_div_iff₀ divisor (by positivity)]
  nlinarith

theorem le_of_guessed (positive : 0 < denominator) (nonzero : numerator ≠ 0) :
    (2 : ℚ) ^ (guessed numerator denominator + 52) ≤ numerator / denominator := by
  have above : (2 : ℚ) ^ bitLength numerator ≤ 2 * numerator := by
    exact_mod_cast pow_bitLength_le nonzero
  have below : (denominator : ℚ) < 2 ^ bitLength denominator := by
    exact_mod_cast lt_pow_bitLength denominator
  have divisor : (0 : ℚ) < denominator := by
    exact_mod_cast positive
  have place : guessed numerator denominator + 52 =
      (bitLength numerator : Int) - (bitLength denominator + 1) := by
    unfold guessed
    ring
  rw [place, zpow_sub₀ two_ne_zero, zpow_add_one₀ two_ne_zero, zpow_natCast, zpow_natCast,
    div_le_div_iff₀ (by positivity) divisor]
  nlinarith

/-- At the exponent chosen the whole part has 53 bits at most. -/
theorem lt_of_chosen (numerator : Nat) (positive : 0 < denominator) :
    (numerator : ℚ) / denominator < 2 ^ 53 * 2 ^ chosen numerator denominator := by
  have raise : ∀ {exponent : Int}, exponent ≤ chosen numerator denominator →
      (2 : ℚ) ^ 53 * 2 ^ exponent ≤ 2 ^ 53 * 2 ^ chosen numerator denominator :=
    fun within => mul_le_mul_of_nonneg_left (zpow_le_zpow_right₀ one_le_two within) (by positivity)
  by_cases short : wholePart numerator denominator (guessed numerator denominator) < Nat.pow 2 53
  · have within : guessed numerator denominator ≤ chosen numerator denominator := by
      rw [chosen, if_pos short]
      exact le_max_right _ _
    have bounded := (wholePart_lt_iff positive _ _).mp short
    exact lt_of_lt_of_le (by exact_mod_cast bounded) (raise within)
  · have within : guessed numerator denominator + 1 ≤ chosen numerator denominator := by
      rw [chosen, if_neg short]
      exact le_max_right _ _
    have bounded := lt_of_guessed numerator positive
    have split : (2 : ℚ) ^ (guessed numerator denominator + 54) =
        2 ^ 53 * 2 ^ (guessed numerator denominator + 1) := by
      rw [← zpow_natCast, ← zpow_add₀ two_ne_zero]
      congr 1
      push_cast
      ring
    rw [split] at bounded
    exact lt_of_lt_of_le bounded (raise within)

/-- Above the least exponent the whole part has 53 bits at least. -/
theorem le_of_chosen (positive : 0 < denominator) (nonzero : numerator ≠ 0)
    (raised : leastExponent < chosen numerator denominator) :
    (2 : ℚ) ^ 52 * 2 ^ chosen numerator denominator ≤ numerator / denominator := by
  by_cases short : wholePart numerator denominator (guessed numerator denominator) < Nat.pow 2 53
  · have here : chosen numerator denominator = guessed numerator denominator := by
      rw [chosen, if_pos short] at raised ⊢
      omega
    have bounded := le_of_guessed positive nonzero
    rw [here, ← zpow_natCast, ← zpow_add₀ two_ne_zero, add_comm]
    exact bounded
  · have here : chosen numerator denominator = guessed numerator denominator + 1 := by
      rw [chosen, if_neg short] at raised ⊢
      omega
    rw [wholePart_lt_iff positive, not_lt] at short
    have split : (2 : ℚ) ^ 52 * 2 ^ (guessed numerator denominator + 1) =
        2 ^ 53 * 2 ^ guessed numerator denominator := by
      rw [zpow_add_one₀ two_ne_zero]
      ring
    rw [here, split]
    exact_mod_cast short

theorem nearest_chosen_le (numerator : Nat) (positive : 0 < denominator) :
    nearest numerator denominator (chosen numerator denominator) ≤ Nat.pow 2 53 := by
  have bounded : wholePart numerator denominator (chosen numerator denominator) < Nat.pow 2 53 := by
    rw [wholePart_lt_iff positive]
    exact_mod_cast lt_of_chosen numerator positive
  exact (divideToEven_le _ _).trans bounded

/-! ## The range -/

/-- Half a unit below a power of two is rounded up to it. -/
theorem carries_iff (positive : 0 < denominator) :
    nearest numerator denominator (chosen numerator denominator) = Nat.pow 2 53 ↔
      (2 ^ 54 - 1 : ℚ) * 2 ^ chosen numerator denominator ≤ 2 * (numerator / denominator) := by
  have reached := even_le_nearest_iff numerator positive
    (chosen numerator denominator) (2 ^ 52 - 1)
  have half : 2 * (2 ^ 52 - 1 + 1) = Nat.pow 2 53 := by decide
  have units : (4 * ((2 ^ 52 - 1 : Nat) : ℚ) + 3) = 2 ^ 54 - 1 := by norm_num
  rw [half, units] at reached
  rw [← reached]
  exact ⟨fun same => same.ge, fun least => le_antisymm (nearest_chosen_le numerator positive) least⟩

theorem cast_halfUnitBelow (power : Nat) :
    (halfUnitBelow power : ℚ) = (2 ^ 54 - 1) * 2 ^ (power : Int) := by
  have units : ((2 ^ 54 - 1 : Nat) : ℚ) = 2 ^ 54 - 1 := by norm_num
  rw [halfUnitBelow, Nat.cast_mul, units, Nat.pow_eq, Nat.cast_pow, zpow_natCast]
  rfl

theorem cast_overflowStart : (overflowStart : ℚ) = (2 ^ 54 - 1) * 2 ^ ((970 : Nat) : Int) :=
  cast_halfUnitBelow 970

/-- Below the start of the overflow no exponent is too large, not even after a carry. -/
theorem chosen_of_lt (positive : 0 < denominator) (nonzero : numerator ≠ 0)
    (small : (numerator : ℚ) / denominator < overflowStart) :
    chosen numerator denominator < greatestExponent ∨
      chosen numerator denominator = greatestExponent ∧
        nearest numerator denominator (chosen numerator denominator) ≠ Nat.pow 2 53 := by
  obtain ⟨power, place⟩ : ∃ power : Int, power = ((970 : Nat) : Int) := ⟨_, rfl⟩
  rw [cast_overflowStart, ← place] at small
  have unit : (0 : ℚ) < 2 ^ power := zpow_pos two_pos power
  by_cases low : chosen numerator denominator < greatestExponent
  · exact .inl low
  · unfold greatestExponent at low ⊢
    have raised : leastExponent < chosen numerator denominator := by
      unfold leastExponent
      omega
    have least := le_of_chosen positive nonzero raised
    have below : (2 : ℚ) ^ chosen numerator denominator < 2 ^ (power + 2) := by
      rw [zpow_add₀ two_ne_zero]
      norm_num
      linarith
    have bound := (zpow_lt_zpow_iff_right₀ one_lt_two).mp below
    have here : chosen numerator denominator = power + 1 := by omega
    refine .inr ⟨by omega, fun carried => ?_⟩
    rw [carries_iff positive, here, zpow_add_one₀ two_ne_zero] at carried
    linarith

/-- From the start of the overflow on every exponent is too large, at least after a carry. -/
theorem chosen_of_le (positive : 0 < denominator)
    (large : (overflowStart : ℚ) ≤ numerator / denominator) :
    greatestExponent < chosen numerator denominator ∨
      chosen numerator denominator = greatestExponent ∧
        nearest numerator denominator (chosen numerator denominator) = Nat.pow 2 53 := by
  obtain ⟨power, place⟩ : ∃ power : Int, power = ((970 : Nat) : Int) := ⟨_, rfl⟩
  rw [cast_overflowStart, ← place] at large
  have unit : (0 : ℚ) < 2 ^ power := zpow_pos two_pos power
  have bounded := lt_of_chosen numerator positive
  have above : (2 : ℚ) ^ power < 2 ^ chosen numerator denominator := by linarith
  have bound := (zpow_lt_zpow_iff_right₀ one_lt_two).mp above
  by_cases high : greatestExponent < chosen numerator denominator
  · exact .inl high
  · unfold greatestExponent at high ⊢
    have here : chosen numerator denominator = power + 1 := by omega
    refine .inr ⟨by omega, (carries_iff positive).mpr ?_⟩
    rw [here, zpow_add_one₀ two_ne_zero]
    linarith

theorem nearest_zero (denominator : Nat) (exponent : Int) : nearest 0 denominator exponent = 0 := by
  unfold nearest scaled
  split <;> simp [divideToEven]

/-- A fraction below the start of the overflow is rounded to a finite number. -/
theorem ofFraction_of_lt (positive : 0 < denominator)
    (small : (numerator : ℚ) / denominator < overflowStart) (negative : Bool) :
    ∃ significand exponent, ofFraction negative numerator denominator =
      .finite negative significand exponent ∧ significand < Nat.pow 2 53 ∧
        exponent ≤ greatestExponent := by
  rw [ofFraction_eq]
  by_cases zero : nearest numerator denominator (chosen numerator denominator) = 0
  · exact ⟨0, 0, by simp [zero], by decide, by decide⟩
  · have nonzero : numerator ≠ 0 := by
      rintro rfl
      exact zero (nearest_zero denominator _)
    have within := chosen_of_lt positive nonzero small
    by_cases carried :
        nearest numerator denominator (chosen numerator denominator) = Nat.pow 2 53
    · have low : ¬ greatestExponent < chosen numerator denominator + 1 := by omega
      exact ⟨Nat.pow 2 52, chosen numerator denominator + 1, by simp [carried, low], by decide,
        by omega⟩
    · have low : ¬ greatestExponent < chosen numerator denominator := by omega
      have bounded := nearest_chosen_le numerator positive
      refine ⟨nearest numerator denominator (chosen numerator denominator),
        chosen numerator denominator, ?_, lt_of_le_of_ne bounded carried, by omega⟩
      simp only [if_neg carried, if_neg zero, if_neg low]

/-- A fraction from the start of the overflow on is rounded to an infinite number. -/
theorem ofFraction_of_le (positive : 0 < denominator)
    (large : (overflowStart : ℚ) ≤ numerator / denominator) (negative : Bool) :
    ofFraction negative numerator denominator = .infinite negative := by
  have beyond := chosen_of_le positive large
  rw [ofFraction_eq]
  by_cases carried : nearest numerator denominator (chosen numerator denominator) = Nat.pow 2 53
  · have high : greatestExponent < chosen numerator denominator + 1 := by omega
    simp [carried, high]
  · have high : greatestExponent < chosen numerator denominator := by omega
    have numeratorNonzero : numerator ≠ 0 := by
      rintro rfl
      rw [Nat.cast_zero, zero_div, cast_overflowStart] at large
      have unit : (0 : ℚ) < 2 ^ ((970 : Nat) : Int) := zpow_pos two_pos _
      linarith
    have raised : leastExponent < chosen numerator denominator := by
      unfold leastExponent
      unfold greatestExponent at high
      omega
    have least := le_of_chosen positive numeratorNonzero raised
    have bits : ¬ wholePart numerator denominator (chosen numerator denominator) < 2 ^ 52 := by
      rw [wholePart_lt_iff positive, not_lt]
      exact_mod_cast least
    have nonzero : nearest numerator denominator (chosen numerator denominator) ≠ 0 := by
      have above : wholePart numerator denominator (chosen numerator denominator) ≤
          nearest numerator denominator (chosen numerator denominator) :=
        div_le_divideToEven _ _
      omega
    simp only [if_neg carried, if_neg nonzero, if_pos high]

/-! ## Whole numbers and products -/

theorem halfUnitBelow_le {power larger : Nat} (above : power + 54 ≤ larger) :
    halfUnitBelow power ≤ Nat.pow 2 larger := by
  have raised : Nat.pow 2 (power + 54) ≤ Nat.pow 2 larger := Nat.pow_le_pow_right two_pos above
  refine le_trans ?_ raised
  rw [halfUnitBelow, Nat.pow_eq, Nat.pow_eq, pow_add, Nat.mul_comm]
  exact Nat.mul_le_mul_left _ (by decide)

/-- A whole number below the start of the overflow is rounded to a finite number. -/
theorem ofInt_of_lt {number : Int} (small : number.natAbs < overflowStart) :
    ∃ significand exponent, ofInt number = .finite (number < 0) significand exponent ∧
      significand < Nat.pow 2 53 ∧ exponent ≤ greatestExponent := by
  obtain ⟨larger, same⟩ : ∃ larger : Nat, larger = 1025 := ⟨1025, rfl⟩
  have bound : overflowStart ≤ Nat.pow 2 larger := @halfUnitBelow_le 970 larger (by omega)
  rw [ofInt, ← same, if_neg (not_le.mpr (lt_of_lt_of_le small bound))]
  refine ofFraction_of_lt one_pos ?_ _
  rw [Nat.cast_one, div_one]
  exact_mod_cast small

/-- A whole number from the start of the overflow on is rounded to an infinite number. -/
theorem ofInt_of_le {number : Int} (large : overflowStart ≤ number.natAbs) :
    ofInt number = .infinite (number < 0) := by
  unfold ofInt
  split
  · rfl
  · refine ofFraction_of_le one_pos ?_ _
    rw [Nat.cast_one, div_one]
    exact_mod_cast large

theorem fraction_pos (significand : Nat) (exponent : Int) :
    0 < (fraction significand exponent).2 := by
  unfold fraction
  split
  · exact one_pos
  · exact Nat.pow_pos two_pos

theorem fraction_value (significand : Nat) (exponent : Int) :
    ((fraction significand exponent).1 : ℚ) / (fraction significand exponent).2 =
      significand * 2 ^ exponent := by
  unfold fraction
  split
  · rename_i raised
    obtain ⟨power, rfl⟩ := Int.eq_ofNat_of_zero_le raised
    simp
  · rename_i lowered
    obtain ⟨power, rfl⟩ : ∃ power : Nat, exponent = -power := ⟨(-exponent).toNat, by omega⟩
    simp [zpow_neg, div_eq_mul_inv]

theorem product_lt_overflowStart {significand factor : Nat} {exponent power : Int}
    (bits : significand < Nat.pow 2 53) (low : exponent ≤ greatestExponent)
    (factorBits : factor < Nat.pow 2 53) (factorLow : power ≤ -54) :
    (significand * factor : ℚ) * 2 ^ (exponent + power) < overflowStart := by
  obtain ⟨start, place⟩ : ∃ start : Int, start = ((970 : Nat) : Int) := ⟨_, rfl⟩
  have unit : (0 : ℚ) < 2 ^ start := zpow_pos two_pos start
  have bitsRat : (significand : ℚ) ≤ 2 ^ 53 := by
    exact_mod_cast Nat.le_of_lt bits
  have factorRat : (factor : ℚ) < 2 ^ 53 := by
    exact_mod_cast factorBits
  have within : exponent + power ≤ start - 53 := by
    unfold greatestExponent at low
    omega
  have raised := zpow_le_zpow_right₀ (one_le_two : (1 : ℚ) ≤ 2) within
  have lowered : (2 : ℚ) ^ (start - 53) * 2 ^ 53 = 2 ^ start := by
    rw [zpow_sub₀ two_ne_zero]
    field_simp
  calc (significand * factor : ℚ) * 2 ^ (exponent + power)
      ≤ 2 ^ 53 * 2 ^ 53 * 2 ^ (start - 53) := by gcongr
    _ = 2 ^ 53 * 2 ^ start := by
        rw [← lowered]
        ring
    _ < (2 ^ 54 - 1) * 2 ^ start := by
        gcongr
        norm_num
    _ = overflowStart := by
        rw [place]
        exact cast_overflowStart.symm

/-- A product of a finite number and a factor below one half has an integer part. -/
theorem productFloor_of_lt {negative other : Bool} {significand factor : Nat}
    {exponent power : Int} (bits : significand < Nat.pow 2 53) (low : exponent ≤ greatestExponent)
    (factorBits : factor < Nat.pow 2 53) (factorLow : power ≤ -54) :
    ∃ whole, (finite negative significand exponent).productFloor (finite other factor power) =
      some whole := by
  have small := product_lt_overflowStart bits low factorBits factorLow
  rw [← Nat.cast_mul, ← fraction_value] at small
  obtain ⟨product, place, rounds, -⟩ :=
    ofFraction_of_lt (fraction_pos _ _) small (negative != other)
  unfold productFloor
  dsimp only
  rw [rounds]
  exact ⟨_, rfl⟩

end RepoCatalog.Double
