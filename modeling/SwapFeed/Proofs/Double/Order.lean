import SwapFeed.Double.Rounding

/-!
# Order and units

A number without a sign has as many units as its magnitude tells, and more magnitude means no fewer
units.  So a bound on such a number in the order of numbers is a bound on its units, and on the
natural number nearest to it.
-/

namespace SwapFeed.Double

/-- The units of a binade lie below those of every later one. -/
theorem units_lt_of_exponent {value : Double} :
    value.units < Nat.pow 2 52 * Nat.pow 2 (value.magnitude / Nat.pow 2 52) := by
  have small : value.magnitude % Nat.pow 2 52 < Nat.pow 2 52 := Nat.mod_lt _ (by decide)
  rw [units]
  generalize value.magnitude / Nat.pow 2 52 = exponent
  cases exponent with
  | zero => simpa using small
  | succ exponent =>
      have twice : Nat.pow 2 (exponent + 1) = 2 * Nat.pow 2 exponent := by
        simp only [Nat.pow_eq, Nat.pow_succ, Nat.mul_comm]
      have positive : 0 < Nat.pow 2 exponent := Nat.two_pow_pos exponent
      simp only [Nat.add_one_ne_zero, if_false, Nat.add_sub_cancel, twice]
      calc (Nat.pow 2 52 + value.magnitude % Nat.pow 2 52) * Nat.pow 2 exponent
          < (Nat.pow 2 52 + Nat.pow 2 52) * Nat.pow 2 exponent :=
            Nat.mul_lt_mul_of_pos_right (Nat.add_lt_add_left small _) positive
        _ = Nat.pow 2 52 * (2 * Nat.pow 2 exponent) := by
            rw [← Nat.two_mul, Nat.mul_comm 2, Nat.mul_assoc]

theorem le_units_of_exponent {value : Double} (normal : value.magnitude / Nat.pow 2 52 ≠ 0) :
    Nat.pow 2 52 * Nat.pow 2 (value.magnitude / Nat.pow 2 52 - 1) ≤ value.units := by
  rw [units]
  simp only [normal, if_false]
  exact Nat.mul_le_mul_right _ (Nat.le_add_right _ _)

/-- Units grow with the magnitude. -/
theorem units_le_units {left right : Double} (le : left.magnitude ≤ right.magnitude) :
    left.units ≤ right.units := by
  have exponents := Nat.div_le_div_right (c := Nat.pow 2 52) le
  rcases Nat.lt_or_eq_of_le exponents with below | same
  · have normal : right.magnitude / Nat.pow 2 52 ≠ 0 := Nat.ne_zero_of_lt below
    have step : left.magnitude / Nat.pow 2 52 ≤ right.magnitude / Nat.pow 2 52 - 1 :=
      Nat.le_sub_one_of_lt below
    calc left.units
        ≤ Nat.pow 2 52 * Nat.pow 2 (left.magnitude / Nat.pow 2 52) :=
          Nat.le_of_lt units_lt_of_exponent
      _ ≤ Nat.pow 2 52 * Nat.pow 2 (right.magnitude / Nat.pow 2 52 - 1) :=
          Nat.mul_le_mul_left _ (Nat.pow_le_pow_right (by decide) step)
      _ ≤ right.units := le_units_of_exponent normal
  · have fractions : left.magnitude % Nat.pow 2 52 ≤ right.magnitude % Nat.pow 2 52 := by
      have leftParts := Nat.div_add_mod left.magnitude (Nat.pow 2 52)
      have rightParts := Nat.div_add_mod right.magnitude (Nat.pow 2 52)
      rw [same] at leftParts
      omega
    simp only [units, same]
    split
    · exact fractions
    · exact Nat.mul_le_mul_right _ (Nat.add_le_add_left fractions _)

theorem position_le_magnitude (value : Double) : value.position ≤ value.magnitude := by
  rw [position]
  split <;> omega

theorem units_le_of_atMost {value bound : Double} (unsigned : value.isNegative = false)
    (atMost : Double.atMost value bound = true) : value.units ≤ bound.units := by
  simp only [Double.atMost, Bool.and_eq_true, decide_eq_true_eq] at atMost
  have ahead : value.position = value.magnitude := by simp [position, unsigned]
  have behind := bound.position_le_magnitude
  exact units_le_units (Int.ofNat_le.mp (by omega))

theorem unitsPerOne_pos : 0 < unitsPerOne := by decide +kernel

/-- A number of at most so many units rounds to at most that many. -/
theorem nearestNat_le {value : Double} {bound : Nat}
    (few : value.units ≤ bound * unitsPerOne) : value.nearestNat ≤ bound := by
  have positive := unitsPerOne_pos
  rw [nearestNat]
  generalize unitsPerOne = one at few positive
  refine Nat.le_of_lt_succ (Nat.div_lt_of_lt_mul ?_)
  calc 2 * value.units + one
      ≤ 2 * (bound * one) + one := Nat.add_le_add_right (Nat.mul_le_mul_left 2 few) one
    _ < 2 * (bound * one) + 2 * one := by omega
    _ = 2 * one * (bound + 1) := by
        rw [Nat.mul_add, Nat.mul_one, Nat.mul_assoc, Nat.mul_comm bound]

/-! ## Signs -/

theorem isNegative_of_less_zero {value : Double} (positive : Double.less .zero value = true) :
    value.isNegative = false := by
  simp only [less, Bool.and_eq_true, decide_eq_true_eq] at positive
  have above := positive.2
  rw [position, position] at above
  cases sign : value.isNegative with
  | false => rfl
  | true =>
      simp only [magnitude_zero, sign, if_true] at above
      split at above <;> omega

@[simp] theorem isNegative_ofMagnitude_false (magnitude : Nat) :
    (ofMagnitude false magnitude).isNegative = false := by
  have small : magnitude % Nat.pow 2 63 < Nat.pow 2 63 := Nat.mod_lt _ (by decide)
  have half : Nat.pow 2 63 = 9223372036854775808 := rfl
  have fits : magnitude % Nat.pow 2 63 < UInt64.size := by
    have all : UInt64.size = 18446744073709551616 := rfl
    omega
  simp only [isNegative, ofMagnitude, Bool.false_eq_true, if_false, Nat.add_zero,
    UInt64.toNat_ofNat_of_lt' fits, decide_eq_false_iff_not, Nat.not_le]
  exact small

/-- A product of numbers without a sign has none. -/
theorem isNegative_mul {left right : Double} (leftUnsigned : left.isNegative = false)
    (rightUnsigned : right.isNegative = false) : (left * right).isNegative = false := by
  change (mul left right).isNegative = false
  simp only [mul, leftUnsigned, rightUnsigned, bne_self_eq_false]
  split
  · decide
  · split
    · split
      · decide
      · exact isNegative_ofMagnitude_false _
    · exact isNegative_ofMagnitude_false _

end SwapFeed.Double
