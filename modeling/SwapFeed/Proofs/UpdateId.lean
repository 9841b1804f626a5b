import SwapFeed.Source
import SwapFeed.UpdateId

/-!
# Growth of update ids

Every draw gives an id above the last one, as long as the 64-bit counter has room, and a draw at a
plausible clock reading gives an id that is at most one above the last id and the latest plausible
timestamp together.  So `count` draws from the initial sequence stay at most `count` above the
latest plausible timestamp.
-/

namespace SwapFeed.UpdateIds

/-- The stamp that a draw uses: an implausible one is replaced by the clock reading. -/
def settledStamp (now stamp : UInt64) : UInt64 :=
  if latestMicros < stamp then now else stamp

theorem last_advance_eq (ids : UpdateIds) (now stamp : UInt64) :
    (ids.advance now stamp).last =
      if ids.last < settledStamp now stamp then settledStamp now stamp else ids.last + 1 := rfl

theorem settledStamp_le {now : UInt64} (clock : now ≤ latestMicros) (stamp : UInt64) :
    settledStamp now stamp ≤ latestMicros := by
  rw [settledStamp]
  split
  · exact clock
  · next notLate => exact UInt64.not_lt.mp notLate

/-- The clock does not matter for a plausible stamp. -/
theorem advance_of_credible (ids : UpdateIds) {stamp : UInt64} (credible : stamp ≤ latestMicros)
    (now other : UInt64) : ids.advance now stamp = ids.advance other stamp := by
  simp [advance, UInt64.not_lt.mpr credible]

/-- While the counter has room, a draw goes above the last id. -/
theorem last_lt_last_advance (ids : UpdateIds) (now stamp : UInt64)
    (room : ids.last.toNat + 1 < UInt64.size) : ids.last < (ids.advance now stamp).last := by
  rw [last_advance_eq]
  split
  · next later => exact later
  · rw [UInt64.lt_iff_toNat_lt, UInt64.toNat_add, UInt64.toNat_one, Nat.mod_eq_of_lt room]
    exact Nat.lt_succ_self _

/-- A draw at a plausible clock reading does not run away from the ids before it. -/
theorem toNat_last_advance_le (ids : UpdateIds) {now : UInt64} (clock : now ≤ latestMicros)
    (stamp : UInt64) :
    (ids.advance now stamp).last.toNat ≤ max latestMicros.toNat (ids.last.toNat + 1) := by
  rw [last_advance_eq]
  split
  · have notLate := UInt64.le_iff_toNat_le.mp (settledStamp_le clock stamp)
    exact Nat.le_trans notLate (Nat.le_max_left _ _)
  · rw [UInt64.toNat_add, UInt64.toNat_one]
    exact Nat.le_trans (Nat.mod_le _ _) (Nat.le_max_right _ _)

/-- Above the latest plausible timestamp the counter has room for half of all ids, and one more. -/
theorem latestMicros_add_lt {count : Nat} (few : count < Nat.pow 2 63) :
    latestMicros.toNat + count + 1 < UInt64.size := by
  have latest : latestMicros.toNat = 32503680000000000 := rfl
  have half : Nat.pow 2 63 = 9223372036854775808 := rfl
  have all : UInt64.size = 18446744073709551616 := rfl
  omega

end SwapFeed.UpdateIds

/-- The clock does not matter for a change of a plausible time. -/
theorem SwapFeed.BookChange.nextIds_of_credible {change : BookChange}
    (credible : change.millis ≤ latestEpochMillis) (now other : UInt64) (ids : UpdateIds) :
    change.nextIds now ids = change.nextIds other ids := by
  have latest : UpdateIds.latestMicros.toNat = 32503680000000000 := rfl
  have size : UInt64.size = 18446744073709551616 := rfl
  rw [latestEpochMillis] at credible
  have stamp : UInt64.ofNat (change.millis.toNat * 1000) ≤ UpdateIds.latestMicros := by
    rw [UInt64.le_iff_toNat_le, UInt64.toNat_ofNat_of_lt' (by omega), latest]
    omega
  exact ids.advance_of_credible stamp now other

namespace SwapFeed.Source

/-- A clock reading that is not implausible itself. -/
def PlausibleClock (micros : Int) : Prop :=
  0 ≤ micros ∧ micros ≤ UpdateIds.latestMicros.toNat

instance (micros : Int) : Decidable (PlausibleClock micros) :=
  inferInstanceAs (Decidable (_ ∧ _))

theorem clockWord_le {micros : Int} (clock : PlausibleClock micros) :
    clockWord micros ≤ UpdateIds.latestMicros := by
  rcases clock with ⟨nonnegative, notLate⟩
  have latest : UpdateIds.latestMicros.toNat = 32503680000000000 := rfl
  have size : UInt64.size = 18446744073709551616 := rfl
  have inRange : micros.emod UInt64.size = micros := Int.emod_eq_of_lt nonnegative (by omega)
  have fits : micros.toNat < UInt64.size := by omega
  rw [UInt64.le_iff_toNat_le, clockWord, inRange, UInt64.toNat_ofNat_of_lt' fits]
  omega

end SwapFeed.Source
