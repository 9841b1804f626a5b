import SwapFeed.Proofs.Json.Range
import SwapFeed.Proofs.Stream.Field
import SwapFeed.Rest.Reply

/-!
# What the fields of a reply write

The readers of replies accept what the readers of stream messages accept: a value writes a number,
or the rows of a side, in the same way on both roads.
-/

namespace SwapFeed.Reply

open SwapFeed.Json

variable {what key : String} {value row : Json}

theorem field_eq_ok_iff : field what row key = .ok value ↔ row.get? key = some value := by
  rw [field]
  cases row.get? key <;> simp

/-- On both roads the same values write numbers; only what is said of other values differs. -/
theorem double_eq_mapError (what field : String) (value : Json) :
    double what value =
      (Field.double value field).mapError fun _ => .notNumeric what value.render := by
  cases value with
  | text content =>
      simp only [double, Field.double]
      cases Double.numeral? content.toList <;> rfl
  | _ => rfl

theorem double_eq_ok_iff {number : Double} :
    double what value = .ok number ↔ value.WritesNumber number := by
  rw [double_eq_mapError what what, mapError_eq_ok_iff, Field.double_eq_ok_iff]

theorem level_eq_ok_iff {level : Level} :
    Reply.level what key value = .ok level ↔ value.WritesLevel level := by
  constructor
  · intro read
    unfold Reply.level at read
    split at read
    · next price size further =>
        obtain ⟨readSize, sized, read⟩ := bind_eq_ok_iff.mp read
        obtain ⟨readPrice, priced, read⟩ := bind_eq_ok_iff.mp read
        cases read
        exact .row (double_eq_ok_iff.mp priced) (double_eq_ok_iff.mp sized)
    · cases read
  · intro writes
    cases writes with
    | row priced sized =>
        exact bind_eq_ok_iff.mpr ⟨_, double_eq_ok_iff.mpr sized,
          bind_eq_ok_iff.mpr ⟨_, double_eq_ok_iff.mpr priced, rfl⟩⟩

theorem levels_eq_ok_iff {levels : List Level} :
    Reply.levels what row key = .ok levels ↔
      ∃ side, row.get? key = some side ∧ side.WritesLevels levels := by
  rw [Reply.levels, bind_eq_ok_iff]
  simp only [field_eq_ok_iff]
  constructor
  · intro read
    rcases read with ⟨side, member, read⟩
    refine ⟨side, member, ?_⟩
    split at read
    · next rows =>
        simp only [mapM_eq_ok_iff, level_eq_ok_iff] at read
        exact .rows read
    · cases read
  · intro written
    rcases written with ⟨side, member, writes⟩
    refine ⟨side, member, ?_⟩
    cases writes with
    | rows written => simpa only [mapM_eq_ok_iff, level_eq_ok_iff] using written

/-- A body is an object whose data start with a row. -/
structure Carries (body : String) (row : Json) : Prop where
  data : ∃ reply further, Json.parse .reply body = some reply ∧
    reply.get? "data" = some (.array (row :: further))

/-- The numbers in a row are in range. -/
theorem Carries.inRange {body : String} (carries : Carries body row) : row.InRange := by
  rcases carries.data with ⟨reply, further, parsed, data⟩
  exact ((inRange_of_parse Dialect.reply_keepsRange parsed).of_get? data).of_mem
    List.mem_cons_self

end SwapFeed.Reply
