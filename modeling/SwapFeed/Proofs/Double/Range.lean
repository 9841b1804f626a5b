import SwapFeed.Proofs.Double.Order

/-!
# Results that stay finite

Rounding gives a finite number unless the exact result is far above every number that a 64-bit
integer, or a product of one with a fraction, comes to.  The bound here is half of the least power
of two that is too large, which leaves room for rounding up to the next power.
-/

namespace SwapFeed

theorem nearestEven_le (numerator denominator : Nat) :
    nearestEven numerator denominator ≤ numerator / denominator + 1 := by
  rw [nearestEven]
  split
  · exact Nat.le_succ _
  · split
    · exact Nat.le_refl _
    · exact Nat.add_le_add_left (Nat.le_of_lt_succ (Nat.mod_lt _ (by decide))) _

namespace Double

/-- The rounded significand is one past the last of its binade at most. -/
theorem significand_le (numerator denominator : Nat) :
    nearestEven numerator
        (denominator * Nat.pow 2 ((numerator / denominator).log2 - 52)) ≤ Nat.pow 2 53 := by
  have shifted : numerator / (denominator * Nat.pow 2 ((numerator / denominator).log2 - 52)) <
      Nat.pow 2 53 := by
    rw [← Nat.div_div_eq_div_mul]
    apply Nat.div_lt_of_lt_mul
    generalize numerator / denominator = quotient
    calc quotient < 2 ^ (quotient.log2 + 1) := Nat.lt_log2_self
      _ ≤ 2 ^ (quotient.log2 - 52 + 53) := Nat.pow_le_pow_right (by decide) (by omega)
      _ = Nat.pow 2 (quotient.log2 - 52) * Nat.pow 2 53 := Nat.pow_add 2 _ 53
  exact Nat.le_trans (nearestEven_le _ _) shifted

/-- Rounding leads into the next binade at most. -/
theorem magnitudeOfUnits_le (numerator denominator : Nat) :
    magnitudeOfUnits numerator denominator ≤
      ((numerator / denominator).log2 - 52 + 2) * Nat.pow 2 52 := by
  rw [magnitudeOfUnits]
  refine Nat.le_trans (Nat.min_le_right _ _) ?_
  rw [Nat.add_mul]
  apply Nat.add_le_add_left
  calc nearestEven numerator (denominator * Nat.pow 2 ((numerator / denominator).log2 - 52))
      ≤ Nat.pow 2 53 := significand_le numerator denominator
    _ = 2 * Nat.pow 2 52 := by decide

theorem magnitude_ofMagnitude {negative : Bool} {magnitude : Nat}
    (fits : magnitude < Nat.pow 2 63) : (ofMagnitude negative magnitude).magnitude = magnitude := by
  have half : Nat.pow 2 63 = 9223372036854775808 := rfl
  have all : UInt64.size = 18446744073709551616 := rfl
  rw [ofMagnitude, Double.magnitude, Nat.mod_eq_of_lt fits, UInt64.toNat_ofNat_of_lt']
  · cases negative <;> simp <;> omega
  · cases negative <;> simp <;> omega

/-- Less than half of the least power of two that is too large. -/
def Moderate (units : Nat) : Prop := units.log2 < 2097

theorem log2_lt_of_lt {number exponent : Nat} (lt : number < Nat.pow 2 exponent)
    (positive : 0 < exponent) : number.log2 < exponent := by
  by_cases zero : number = 0
  · rw [zero, Nat.log2_zero]
    exact positive
  · exact (Nat.log2_lt zero).mpr lt

theorem moderate_of_lt {units exponent : Nat} (lt : units < Nat.pow 2 exponent)
    (positive : 0 < exponent) (small : exponent ≤ 2097) : Moderate units :=
  Nat.lt_of_lt_of_le (log2_lt_of_lt lt positive) small

/-- A moderate result is not rounded to an infinity. -/
theorem magnitudeOfUnits_lt {numerator denominator : Nat}
    (moderate : Moderate (numerator / denominator)) :
    magnitudeOfUnits numerator denominator < infiniteMagnitude := by
  have binades : (numerator / denominator).log2 - 52 + 2 ≤ 2046 := by
    rw [Moderate] at moderate
    omega
  exact Nat.lt_of_le_of_lt (magnitudeOfUnits_le numerator denominator)
    (Nat.lt_of_le_of_lt (Nat.mul_le_mul_right _ binades) (by decide))

/-- A moderate result is finite. -/
theorem isFinite_of_moderate {negative : Bool} {numerator denominator : Nat}
    (moderate : Moderate (numerator / denominator)) :
    (ofMagnitude negative (magnitudeOfUnits numerator denominator)).isFinite = true := by
  have small := magnitudeOfUnits_lt moderate
  rw [isFinite, magnitude_ofMagnitude (Nat.lt_trans small (by decide))]
  exact decide_eq_true small

/-- The magnitude of a rounded result, finite or not. -/
theorem magnitude_rounded_le (negative : Bool) (numerator denominator : Nat) :
    (ofMagnitude negative (magnitudeOfUnits numerator denominator)).magnitude ≤
      ((numerator / denominator).log2 - 52 + 2) * Nat.pow 2 52 := by
  have word : magnitudeOfUnits numerator denominator < Nat.pow 2 63 :=
    Nat.lt_of_le_of_lt (Nat.min_le_left _ _) (by decide)
  rw [magnitude_ofMagnitude word]
  exact magnitudeOfUnits_le numerator denominator

theorem units_lt_of_magnitude_le {value : Double} {binades : Nat}
    (le : value.magnitude ≤ binades * Nat.pow 2 52) : value.units < Nat.pow 2 (52 + binades) := by
  have exponent : value.magnitude / Nat.pow 2 52 ≤ binades := by
    rw [← Nat.mul_div_cancel binades (show 0 < Nat.pow 2 52 by decide)]
    exact Nat.div_le_div_right le
  calc value.units
      < Nat.pow 2 52 * Nat.pow 2 (value.magnitude / Nat.pow 2 52) := units_lt_of_exponent
    _ ≤ Nat.pow 2 52 * Nat.pow 2 binades :=
        Nat.mul_le_mul_left _ (Nat.pow_le_pow_right (by decide) exponent)
    _ = Nat.pow 2 (52 + binades) := (Nat.pow_add 2 52 binades).symm

theorem exists_unitsPerOne_eq : ∃ exponent ≤ 1074, unitsPerOne = Nat.pow 2 exponent := by
  unfold unitsPerOne
  generalize 1074 = exponent
  exact ⟨exponent, Nat.le_refl _, rfl⟩

/-! ## Integers and their fractions -/

section Integers

variable {value : Int} {factor : Double}

/-- The units of an integer of 64 bits, signed or not. -/
theorem units_of_fits (fits : value.natAbs < Nat.pow 2 64) {exponent : Nat}
    (one : unitsPerOne = Nat.pow 2 exponent) :
    value.natAbs * unitsPerOne / 1 < Nat.pow 2 (64 + exponent) := by
  have split : Nat.pow 2 (64 + exponent) = Nat.pow 2 64 * Nat.pow 2 exponent :=
    Nat.pow_add 2 64 exponent
  rw [Nat.div_one, one, split]
  exact Nat.mul_lt_mul_of_pos_right fits (Nat.two_pow_pos exponent)

theorem isFinite_ofInt (fits : value.natAbs < Nat.pow 2 64) : (ofInt value).isFinite = true := by
  obtain ⟨exponent, small, one⟩ := exists_unitsPerOne_eq
  exact isFinite_of_moderate (moderate_of_lt (units_of_fits fits one) (by omega) (by omega))

theorem isNaN_of_isFinite {value : Double} (finite : value.isFinite = true) :
    value.isNaN = false := by
  simp only [isFinite, decide_eq_true_eq] at finite
  exact decide_eq_false (Nat.lt_asymm finite)

theorem mul_of_isFinite {left right : Double} (leftFinite : left.isFinite = true)
    (rightFinite : right.isFinite = true) :
    left * right = ofMagnitude (left.isNegative != right.isNegative)
      (magnitudeOfUnits (left.units * right.units) unitsPerOne) := by
  change mul left right = _
  have leftNumber := isNaN_of_isFinite leftFinite
  have rightNumber := isNaN_of_isFinite rightFinite
  simp only [isFinite, decide_eq_true_eq] at leftFinite rightFinite
  have leftBounded : left.isInfinite = false := decide_eq_false (by omega)
  have rightBounded : right.isInfinite = false := decide_eq_false (by omega)
  rw [mul]
  simp only [leftNumber, rightNumber, leftBounded, rightBounded, Bool.or_self, Bool.false_eq_true,
    if_false]

theorem isFinite_mul {left right : Double} (leftFinite : left.isFinite = true)
    (rightFinite : right.isFinite = true)
    (moderate : Moderate (left.units * right.units / unitsPerOne)) :
    (left * right).isFinite = true := by
  rw [mul_of_isFinite leftFinite rightFinite]
  exact isFinite_of_moderate moderate

/-- An integer times a fraction of one. -/
theorem isFinite_ofInt_mul (fits : value.natAbs < Nat.pow 2 64) (finite : factor.isFinite = true)
    (atMostOne : factor.units ≤ unitsPerOne) : (ofInt value * factor).isFinite = true := by
  obtain ⟨exponent, small, one⟩ := exists_unitsPerOne_eq
  have units : (ofInt value).units < Nat.pow 2 (52 + (14 + exponent)) := by
    apply units_lt_of_magnitude_le
    refine Nat.le_trans (magnitude_rounded_le _ _ _) (Nat.mul_le_mul_right _ ?_)
    have few := log2_lt_of_lt (units_of_fits fits one) (by omega)
    omega
  apply isFinite_mul (isFinite_ofInt fits) finite
  apply moderate_of_lt (Nat.lt_of_le_of_lt ?_ units) (by omega) (by omega)
  apply Nat.div_le_of_le_mul
  rw [Nat.mul_comm]
  exact Nat.mul_le_mul_right _ atMostOne

end Integers

end Double

end SwapFeed
