import SwapFeed.Proofs.Double.Rounding
import SwapFeed.Stream.Field
import SwapFeed.UpdateId

/-!
# Milliseconds through seconds

A time in whole milliseconds is turned into seconds, which is a rounded product, and the update ids
multiply it once more to get microseconds.  The spacing of the numbers grows with the time.  Up to
`2 ^ 51` microseconds, which is in the year 2041, the two roundings together stay below half a
microsecond, so that the microseconds come out right; after that they do for single times only.
-/

namespace SwapFeed.Field

open SwapFeed.Double

/-- The conversion to seconds and back to whole microseconds keeps a time in milliseconds. -/
def KeptBySeconds (millis : Int) : Prop :=
  (UpdateIds.microsOfSeconds (secondsOfMillis millis)).nearestNat = millis.toNat * 1000

instance (millis : Int) : Decidable (KeptBySeconds millis) := instDecidableEqNat _ _

/-! ## The error of two roundings

Units come in multiples of a common scale here: one thousandth is `thousandth` times the scale, one
is `2 ^ 62` times the scale, and `part` is a number of milliseconds times the scale.  Times up to
`2 ^ 51` microseconds have spacings of `2 ^ 41` and `2 ^ 60` scales after the two products. -/

section Errors

/-- The nearest number to one thousandth, in scales; it is above one thousandth of `2 ^ 62`. -/
def thousandth : Nat := 4611686018427388

variable {scale part seconds : Nat}

theorem seconds_lt_of_near (positive : 0 < scale) (early : part ≤ Nat.pow 2 51 / 1000 * scale)
    (near : 2 * Nat.dist seconds (thousandth * part) ≤ Nat.pow 2 41 * scale) :
    seconds * 1000000 < Nat.pow 2 113 * scale := by
  have last : Nat.pow 2 51 / 1000 = 2251799813685 := rfl
  have spacing : Nat.pow 2 41 = 2199023255552 := rfl
  have limit : Nat.pow 2 113 = 10384593717069655257060992658440192 := rfl
  rw [last] at early
  rw [spacing, thousandth, Nat.dist] at near
  rw [limit]
  omega

/-- Both roundings together stay below half a microsecond. -/
theorem micros_near_of_near (positive : 0 < scale) (early : part ≤ Nat.pow 2 51 / 1000 * scale)
    (near : 2 * Nat.dist seconds (thousandth * part) ≤ Nat.pow 2 41 * scale) {micros : Nat}
    (nearMicros : 2 * Nat.dist micros (seconds * 1000000) ≤ Nat.pow 2 60 * scale) :
    2 * Nat.dist micros (1000 * Nat.pow 2 62 * part) < Nat.pow 2 62 * scale := by
  have last : Nat.pow 2 51 / 1000 = 2251799813685 := rfl
  have one : Nat.pow 2 62 = 4611686018427387904 := rfl
  have spacing : Nat.pow 2 41 = 2199023255552 := rfl
  have microSpacing : Nat.pow 2 60 = 1152921504606846976 := rfl
  rw [last] at early
  rw [spacing, thousandth, Nat.dist] at near
  rw [microSpacing, Nat.dist] at nearMicros
  rw [one, Nat.dist]
  omega

end Errors

/-! ## Two rounded products -/

section Products

variable {millis : Int}

/-- The scale is a power of two, `2 ^ 1012`; the exponent is kept out of sight. -/
theorem exists_scale :
    ∃ exponent ≤ 1012, unitsPerOne = Nat.pow 2 62 * Nat.pow 2 exponent ∧
      (ofRatio false 1 1000).units = thousandth * Nat.pow 2 exponent ∧
      (ofRatio false 1 1000).isFinite = true :=
  ⟨1012, Nat.le_refl _, by decide +kernel⟩

theorem isFinite_secondsOfMillis (fits : millis.natAbs < Nat.pow 2 53) :
    (secondsOfMillis millis).isFinite = true := by
  obtain ⟨exponent, -, one, factor, finite⟩ := exists_scale
  apply isFinite_ofInt_mul (Nat.lt_trans fits (by decide)) finite
  rw [factor, one]
  exact Nat.mul_le_mul_right _ (by decide)

theorem isNegative_secondsOfMillis (nonnegative : 0 ≤ millis) :
    (secondsOfMillis millis).isNegative = false :=
  isNegative_mul (isNegative_ofInt nonnegative) (isNegative_ofMagnitude_false _)

theorem two_mul_dist_seconds_le {exponent : Nat} (small : exponent ≤ 1012)
    (factor : (ofRatio false 1 1000).units = thousandth * Nat.pow 2 exponent)
    (finite : (ofRatio false 1 1000).isFinite = true)
    (early : millis.natAbs ≤ Nat.pow 2 51 / 1000) :
    2 * Nat.dist (secondsOfMillis millis).units
        (thousandth * (millis.natAbs * Nat.pow 2 exponent)) ≤
      Nat.pow 2 41 * Nat.pow 2 exponent := by
  have fits : millis.natAbs < Nat.pow 2 53 := Nat.lt_of_le_of_lt early (by decide)
  have split : ∀ count, Nat.pow 2 (count + exponent) = Nat.pow 2 count * Nat.pow 2 exponent :=
    fun count => Nat.pow_add 2 count exponent
  rw [← split]
  apply two_mul_dist_units_mul_le (isFinite_ofInt (Nat.lt_trans fits (by decide))) finite
  · rw [units_ofInt fits, factor, Nat.mul_right_comm, Nat.mul_left_comm]
  · have below : thousandth * millis.natAbs < Nat.pow 2 (53 + 41) :=
      Nat.lt_of_le_of_lt (Nat.mul_le_mul_left _ early) (by decide)
    rw [← Nat.add_assoc, split, ← Nat.mul_assoc]
    exact Nat.mul_lt_mul_of_pos_right below (Nat.two_pow_pos exponent)
  · omega

theorem two_mul_dist_micros_le {seconds : Double} (finite : seconds.isFinite = true) {spare : Nat}
    (few : spare ≤ 2044) (below : seconds.units * 1000000 < Nat.pow 2 (53 + spare)) :
    2 * Nat.dist (UpdateIds.microsOfSeconds seconds).units (seconds.units * 1000000) ≤
      Nat.pow 2 spare := by
  have million : (ofInt 1000000).units = 1000000 * unitsPerOne := by
    rw [units_ofInt (by decide), show (1000000 : Int).natAbs = 1000000 from rfl]
  apply two_mul_dist_units_mul_le finite (isFinite_ofInt (by decide)) _ below few
  rw [million, Nat.mul_assoc]

theorem keptBySeconds_of_early (positive : 0 < millis) (early : millis * 1000 < 2 ^ 51) :
    KeptBySeconds millis := by
  have bound : millis.natAbs ≤ Nat.pow 2 51 / 1000 := by
    have last : Nat.pow 2 51 / 1000 = 2251799813685 := rfl
    omega
  obtain ⟨exponent, small, one, factor, finite⟩ := exists_scale
  have scale : 0 < Nat.pow 2 exponent := Nat.two_pow_pos exponent
  have part := Nat.mul_le_mul_right (Nat.pow 2 exponent) bound
  have split : ∀ count, Nat.pow 2 count * Nat.pow 2 exponent = Nat.pow 2 (count + exponent) :=
    fun count => (Nat.pow_add 2 count exponent).symm
  have near := two_mul_dist_seconds_le small factor finite bound
  have room := seconds_lt_of_near scale part near
  rw [split, Nat.add_assoc 53 60] at room
  have nearMicros := two_mul_dist_micros_le
    (isFinite_secondsOfMillis (Nat.lt_of_le_of_lt bound (by decide))) (by omega) room
  rw [← split] at nearMicros
  have nearExact := micros_near_of_near scale part near nearMicros
  have exact : 1000 * Nat.pow 2 62 * (millis.natAbs * Nat.pow 2 exponent) =
      millis.natAbs * 1000 * unitsPerOne := by
    rw [one, Nat.mul_mul_mul_comm, Nat.mul_comm 1000, Nat.mul_assoc]
  rw [exact, ← one] at nearExact
  rw [KeptBySeconds, nearestNat_eq_of_near nearExact]
  omega

/-! ## Plausible times -/

/-- A time that is kept has a positive number of seconds. -/
theorem less_zero_of_kept (positive : 0 < millis) (fits : millis.natAbs < Nat.pow 2 53)
    (kept : KeptBySeconds millis) : less .zero (secondsOfMillis millis) = true := by
  have finite := isFinite_secondsOfMillis fits
  apply less_zero_of_units_ne_zero finite (isNegative_secondsOfMillis (by omega))
  intro none
  have near := two_mul_dist_micros_le finite (Nat.zero_le 2044) (by rw [none]; decide)
  rw [none, Nat.zero_mul, Nat.dist_zero_right] at near
  have few : (UpdateIds.microsOfSeconds (secondsOfMillis millis)).units ≤ 0 * unitsPerOne := by
    have one : Nat.pow 2 0 = 1 := rfl
    omega
  have nearest := nearestNat_le few
  rw [kept] at nearest
  omega

/-- A plausible time that is kept is not too late either. -/
theorem atMost_of_kept (credible : millis ≤ latestEpochMillis)
    (finite : (secondsOfMillis millis).isFinite = true) (kept : KeptBySeconds millis) :
    atMost (UpdateIds.microsOfSeconds (secondsOfMillis millis))
      (ofInt UpdateIds.latestMicros.toNat) = true := by
  have few : (UpdateIds.microsOfSeconds (secondsOfMillis millis)).nearestNat ≤
      UpdateIds.latestMicros.toNat := by
    have latest : UpdateIds.latestMicros.toNat = 32503680000000000 := rfl
    rw [kept]
    rw [latestEpochMillis] at credible
    omega
  let next := ofMagnitude false ((ofInt UpdateIds.latestMicros.toNat).magnitude + 1)
  have room : (UpdateIds.latestMicros.toNat + 1) * unitsPerOne ≤ next.units ∧
      next.magnitude = (ofInt UpdateIds.latestMicros.toNat).magnitude + 1 := by decide +kernel
  have fits : (UpdateIds.latestMicros.toNat : Int).natAbs < Nat.pow 2 64 := by decide
  exact atMost_of_units_lt (isNaN_mul_of_isFinite finite (isFinite_ofInt (by decide)))
    (isNaN_of_isFinite (isFinite_ofInt fits)) (isNegative_ofInt (Int.natCast_nonneg _)) room.2
    (Nat.lt_of_lt_of_le (units_lt_of_nearestNat_le few) room.1)

/-- The stamp of a time in milliseconds that is kept. -/
theorem stampOfSeconds?_of_kept (positive : 0 < millis) (credible : millis ≤ latestEpochMillis)
    (kept : KeptBySeconds millis) :
    UpdateIds.stampOfSeconds? (secondsOfMillis millis) =
      some (UInt64.ofNat (millis.toNat * 1000)) := by
  have fits : millis.natAbs < Nat.pow 2 53 := by
    have limit : Nat.pow 2 53 = 9007199254740992 := rfl
    rw [latestEpochMillis] at credible
    omega
  have counts := less_zero_of_kept positive fits kept
  have inTime := atMost_of_kept credible (isFinite_secondsOfMillis fits) kept
  simp only [UpdateIds.stampOfSeconds?, counts, inTime, Bool.and_self, if_true]
  rw [kept]

/-- No time at all counts as a missing one. -/
theorem stampOfSeconds?_zero : UpdateIds.stampOfSeconds? (secondsOfMillis 0) = none := by
  have none : secondsOfMillis 0 = .zero := by
    obtain ⟨-, -, -, -, finite⟩ := exists_scale
    have nothing : (ofInt 0).units = 0 := by
      rw [units_ofInt (by decide), Int.natAbs_zero, Nat.zero_mul]
    have unsigned : (ofRatio false 1 1000).isNegative = false := isNegative_ofMagnitude_false _
    rw [secondsOfMillis, mul_of_isFinite (isFinite_ofInt (by decide)) finite, nothing,
      Nat.zero_mul, magnitudeOfUnits_zero, isNegative_ofInt (Int.le_refl 0), unsigned]
    rfl
  rw [none, UpdateIds.stampOfSeconds?, less_irrefl]
  rfl

end Products

end SwapFeed.Field
