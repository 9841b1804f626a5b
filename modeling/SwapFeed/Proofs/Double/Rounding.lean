import Mathlib.Data.Nat.Dist
import SwapFeed.Proofs.Double.Range

/-!
# The error of rounding

Rounding replaces a quotient by the nearest multiple of a power of two, which is the spacing of the
numbers around it.  So the result is off by half of the spacing at most, and it is exact where the
quotient is such a multiple itself.  There are no fractions in these statements: the result times
the denominator is compared with the numerator.
-/

namespace SwapFeed

/-- Rounding a quotient moves it by one half at most. -/
theorem two_mul_dist_nearestEven_le (numerator : Nat) {denominator : Nat}
    (positive : 0 < denominator) :
    2 * Nat.dist (nearestEven numerator denominator * denominator) numerator ≤ denominator := by
  have parts := Nat.div_add_mod' numerator denominator
  have small := Nat.mod_lt numerator positive
  have next : (numerator / denominator + 1) * denominator =
      numerator / denominator * denominator + denominator := Nat.succ_mul _ _
  simp only [nearestEven, Nat.dist]
  split
  · omega
  · split
    · omega
    · rcases Nat.mod_two_eq_zero_or_one (numerator / denominator) with even | odd
      · rw [even, Nat.add_zero]
        omega
      · rw [odd]
        omega

theorem nearestEven_mul (quotient : Nat) {denominator : Nat} (positive : 0 < denominator) :
    nearestEven (quotient * denominator) denominator = quotient := by
  simp [nearestEven, positive]

theorem div_le_nearestEven (numerator denominator : Nat) :
    numerator / denominator ≤ nearestEven numerator denominator := by
  rw [nearestEven]
  split
  · exact Nat.le_refl _
  · split
    · exact Nat.le_succ _
    · exact Nat.le_add_right _ _

namespace Double

/-! ## The units of a rounded quotient -/

theorem units_of_parts {value : Double} {exponent fraction : Nat} (small : fraction < Nat.pow 2 52)
    (magnitude : value.magnitude = (exponent + 1) * Nat.pow 2 52 + fraction) :
    value.units = (Nat.pow 2 52 + fraction) * Nat.pow 2 exponent := by
  have positive : 0 < Nat.pow 2 52 := by decide
  have quotient : value.magnitude / Nat.pow 2 52 = exponent + 1 := by
    rw [magnitude, Nat.add_comm, Nat.add_mul_div_right _ _ positive, Nat.div_eq_of_lt small,
      Nat.zero_add]
  have rest : value.magnitude % Nat.pow 2 52 = fraction := by
    rw [magnitude, Nat.add_comm, Nat.add_mul_mod_self_right, Nat.mod_eq_of_lt small]
  simp [units, quotient, rest]

/-- A magnitude that is put together from a spacing and a significand.  The significand has its full
length unless the spacing is the least one, and it may be the first of the next binade. -/
theorem units_of_significand {value : Double} {binade significand : Nat}
    (magnitude : value.magnitude = binade * Nat.pow 2 52 + significand)
    (small : significand ≤ Nat.pow 2 53) (full : binade = 0 ∨ Nat.pow 2 52 ≤ significand) :
    value.units = significand * Nat.pow 2 binade := by
  have double : Nat.pow 2 53 = 2 * Nat.pow 2 52 := by decide
  rcases Nat.lt_or_ge significand (Nat.pow 2 52) with short | long
  · have least : binade = 0 := by omega
    subst least
    rw [Nat.zero_mul, Nat.zero_add] at magnitude
    simp [units, magnitude, Nat.div_eq_of_lt short, Nat.mod_eq_of_lt short]
  · rcases Nat.lt_or_eq_of_le small with inside | next
    · have parts : value.magnitude =
          (binade + 1) * Nat.pow 2 52 + (significand - Nat.pow 2 52) := by
        rw [magnitude, Nat.add_mul, Nat.one_mul]
        omega
      rw [units_of_parts (by omega) parts, Nat.add_sub_cancel' long]
    · have parts : value.magnitude = (binade + 1 + 1) * Nat.pow 2 52 + 0 := by
        rw [magnitude, next, double, Nat.add_zero, Nat.add_assoc, Nat.add_mul]
      have twice : Nat.pow 2 (binade + 1) = 2 * Nat.pow 2 binade := Nat.mul_comm _ _
      rw [units_of_parts (by decide) parts, next, double, twice, Nat.add_zero, Nat.mul_left_comm,
        Nat.mul_assoc]

section Quotient

variable {negative : Bool} {numerator denominator : Nat}

/-- Above the least spacing, a rounded significand has its full length. -/
theorem le_significand (spaced : (numerator / denominator).log2 - 52 ≠ 0) :
    Nat.pow 2 52 ≤
      nearestEven numerator (denominator * Nat.pow 2 ((numerator / denominator).log2 - 52)) := by
  refine Nat.le_trans ?_ (div_le_nearestEven _ _)
  rw [← Nat.div_div_eq_div_mul]
  generalize numerator / denominator = quotient at spaced ⊢
  have nonzero : quotient ≠ 0 := by
    rintro rfl
    exact spaced (by decide)
  apply (Nat.le_div_iff_mul_le (Nat.two_pow_pos _)).mpr
  calc Nat.pow 2 52 * Nat.pow 2 (quotient.log2 - 52)
      = 2 ^ (52 + (quotient.log2 - 52)) := (Nat.pow_add 2 _ _).symm
    _ = 2 ^ quotient.log2 := by rw [Nat.add_sub_cancel' (by omega)]
    _ ≤ quotient := Nat.log2_self_le nonzero

theorem magnitudeOfUnits_zero (denominator : Nat) : magnitudeOfUnits 0 denominator = 0 := by
  simp [magnitudeOfUnits, nearestEven]

theorem units_rounded (moderate : Moderate (numerator / denominator)) :
    (ofMagnitude negative (magnitudeOfUnits numerator denominator)).units =
      nearestEven numerator (denominator * Nat.pow 2 ((numerator / denominator).log2 - 52)) *
        Nat.pow 2 ((numerator / denominator).log2 - 52) := by
  have finite := magnitudeOfUnits_lt moderate
  have whole : magnitudeOfUnits numerator denominator =
      ((numerator / denominator).log2 - 52) * Nat.pow 2 52 +
        nearestEven numerator
          (denominator * Nat.pow 2 ((numerator / denominator).log2 - 52)) := by
    simp only [magnitudeOfUnits] at finite ⊢
    omega
  apply units_of_significand _ (significand_le numerator denominator)
  · exact (Nat.eq_zero_or_pos _).imp_right fun spaced => le_significand (Nat.ne_of_gt spaced)
  · rw [magnitude_ofMagnitude (Nat.lt_trans finite (by decide)), whole]

/-- The spacing at a quotient is known from a bound on the quotient. -/
theorem spacing_le {exponent : Nat}
    (below : numerator < denominator * Nat.pow 2 (53 + exponent)) :
    (numerator / denominator).log2 - 52 ≤ exponent := by
  have few := log2_lt_of_lt (Nat.div_lt_of_lt_mul below) (by omega)
  omega

/-- A rounded quotient is off by half of its spacing at most. -/
theorem two_mul_dist_units_rounded_le (negative : Bool) (positive : 0 < denominator)
    {exponent : Nat}
    (below : numerator < denominator * Nat.pow 2 (53 + exponent)) (small : exponent ≤ 2044) :
    2 * Nat.dist
        ((ofMagnitude negative (magnitudeOfUnits numerator denominator)).units * denominator)
        numerator ≤
      denominator * Nat.pow 2 exponent := by
  have moderate := moderate_of_lt (Nat.div_lt_of_lt_mul below) (by omega) (by omega)
  have spacing := spacing_le below
  rw [units_rounded moderate]
  generalize (numerator / denominator).log2 - 52 = binade at spacing ⊢
  have error := two_mul_dist_nearestEven_le numerator
    (Nat.mul_pos positive (Nat.two_pow_pos binade))
  calc 2 * Nat.dist (nearestEven numerator (denominator * Nat.pow 2 binade) *
          Nat.pow 2 binade * denominator) numerator
      = 2 * Nat.dist (nearestEven numerator (denominator * Nat.pow 2 binade) *
          (denominator * Nat.pow 2 binade)) numerator := by
        rw [Nat.mul_assoc, Nat.mul_comm denominator]
    _ ≤ denominator * Nat.pow 2 binade := error
    _ ≤ denominator * Nat.pow 2 exponent :=
        Nat.mul_le_mul_left _ (Nat.pow_le_pow_right (by decide) spacing)

/-- A quotient that is a multiple of its spacing is not changed. -/
theorem units_rounded_of_multiple {exponent factor : Nat} (fits : factor < Nat.pow 2 53)
    (small : exponent ≤ 2044) :
    (ofMagnitude negative (magnitudeOfUnits (factor * Nat.pow 2 exponent) 1)).units =
      factor * Nat.pow 2 exponent := by
  have below : factor * Nat.pow 2 exponent < 1 * Nat.pow 2 (53 + exponent) := by
    rw [Nat.one_mul]
    calc factor * Nat.pow 2 exponent
        < Nat.pow 2 53 * Nat.pow 2 exponent :=
          Nat.mul_lt_mul_of_pos_right fits (Nat.two_pow_pos exponent)
      _ = Nat.pow 2 (53 + exponent) := (Nat.pow_add 2 53 exponent).symm
  have moderate := moderate_of_lt (Nat.div_lt_of_lt_mul below) (by omega) (by omega)
  obtain ⟨rest, split⟩ := Nat.exists_eq_add_of_le' (spacing_le below)
  rw [units_rounded moderate]
  generalize (factor * Nat.pow 2 exponent / 1).log2 - 52 = binade at split ⊢
  have multiple : factor * Nat.pow 2 exponent =
      factor * Nat.pow 2 rest * Nat.pow 2 binade := by
    rw [split, Nat.mul_assoc]
    exact congrArg _ (Nat.pow_add 2 rest binade)
  have positive : 0 < Nat.pow 2 binade := Nat.two_pow_pos binade
  rw [multiple, Nat.one_mul, nearestEven_mul _ positive]

end Quotient

/-! ## Integers and products -/

/-- Integers of 53 bits are numbers themselves. -/
theorem units_ofInt {value : Int} (fits : value.natAbs < Nat.pow 2 53) :
    (ofInt value).units = value.natAbs * unitsPerOne := by
  obtain ⟨exponent, small, one⟩ := exists_unitsPerOne_eq
  rw [ofInt, ofRatio, one]
  exact units_rounded_of_multiple fits (by omega)

/-- A product that comes to a whole number of units is off by half of the spacing at that number
at most. -/
theorem two_mul_dist_units_mul_le {left right : Double} (leftFinite : left.isFinite = true)
    (rightFinite : right.isFinite = true) {exact exponent : Nat}
    (product : left.units * right.units = exact * unitsPerOne)
    (below : exact < Nat.pow 2 (53 + exponent)) (small : exponent ≤ 2044) :
    2 * Nat.dist (left * right).units exact ≤ Nat.pow 2 exponent := by
  have positive := unitsPerOne_pos
  rw [mul_of_isFinite leftFinite rightFinite, product]
  generalize unitsPerOne = one at positive
  have scaled : exact * one < one * Nat.pow 2 (53 + exponent) := by
    rw [Nat.mul_comm exact]
    exact Nat.mul_lt_mul_of_pos_left below positive
  have error := two_mul_dist_units_rounded_le (left.isNegative != right.isNegative) positive
    scaled small
  rw [Nat.dist_mul_right, ← Nat.mul_assoc, Nat.mul_comm one] at error
  exact Nat.le_of_mul_le_mul_right error positive

theorem isNegative_ofInt {value : Int} (nonnegative : 0 ≤ value) :
    (ofInt value).isNegative = false := by
  have sign : decide (value < 0) = false := decide_eq_false (Int.not_lt.mpr nonnegative)
  rw [ofInt, ofRatio, sign]
  exact isNegative_ofMagnitude_false _

theorem isNaN_mul_of_isFinite {left right : Double} (leftFinite : left.isFinite = true)
    (rightFinite : right.isFinite = true) : (left * right).isNaN = false := by
  have bounded : magnitudeOfUnits (left.units * right.units) unitsPerOne ≤ infiniteMagnitude :=
    Nat.min_le_left _ _
  rw [mul_of_isFinite leftFinite rightFinite, isNaN,
    magnitude_ofMagnitude (Nat.lt_of_le_of_lt bounded (by decide))]
  exact decide_eq_false (Nat.not_lt.mpr bounded)

/-! ## Comparison by units -/

theorem less_zero_of_units_ne_zero {value : Double} (finite : value.isFinite = true)
    (unsigned : value.isNegative = false) (nonzero : value.units ≠ 0) :
    less .zero value = true := by
  have some : value.magnitude ≠ 0 := by
    intro none
    exact nonzero (by simp [units, none])
  have number := isNaN_of_isFinite finite
  have zero : isNaN .zero = false := by decide
  simp only [less, number, zero, position, unsigned, magnitude_zero]
  simp only [Bool.false_eq_true, if_false, Bool.not_false, Bool.and_self, Bool.true_and,
    decide_eq_true_eq]
  split <;> omega

/-- A number with fewer units than the successor of a bound is within the bound. -/
theorem atMost_of_units_lt {value bound next : Double} (number : value.isNaN = false)
    (boundNumber : bound.isNaN = false) (unsigned : bound.isNegative = false)
    (succeeds : next.magnitude = bound.magnitude + 1) (fewer : value.units < next.units) :
    atMost value bound = true := by
  have below : value.magnitude < next.magnitude :=
    Nat.lt_of_not_le fun above => Nat.not_le.mpr fewer (units_le_units above)
  have behind := value.position_le_magnitude
  have ahead : bound.position = bound.magnitude := by simp [position, unsigned]
  simp only [atMost, number, boundNumber, Bool.not_false, Bool.and_self, Bool.true_and,
    decide_eq_true_eq]
  omega

theorem units_lt_of_nearestNat_le {value : Double} {bound : Nat}
    (few : value.nearestNat ≤ bound) : value.units < (bound + 1) * unitsPerOne := by
  have positive := unitsPerOne_pos
  rw [nearestNat, ← Nat.lt_succ_iff] at few
  generalize unitsPerOne = one at few positive ⊢
  have fits := (Nat.div_lt_iff_lt_mul (by omega)).mp few
  have twice : (bound + 1) * (2 * one) = 2 * ((bound + 1) * one) := Nat.mul_left_comm _ _ _
  rw [Nat.succ_eq_add_one, twice] at fits
  omega

/-- A number that is less than one half away from a natural number is rounded to it. -/
theorem nearestNat_eq_of_near {value : Double} {number : Nat}
    (near : 2 * Nat.dist value.units (number * unitsPerOne) < unitsPerOne) :
    value.nearestNat = number := by
  rw [nearestNat]
  generalize unitsPerOne = one at near ⊢
  have next : (number + 1) * (2 * one) = 2 * (number * one) + 2 * one := by
    rw [Nat.add_mul, Nat.one_mul, Nat.mul_left_comm]
  have here : number * (2 * one) = 2 * (number * one) := Nat.mul_left_comm _ _ _
  simp only [Nat.dist] at near
  apply Nat.div_eq_of_lt_le
  · omega
  · omega

end Double

end SwapFeed
