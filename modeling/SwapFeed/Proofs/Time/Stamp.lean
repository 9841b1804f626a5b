import SwapFeed.Proofs.Time.Calendar
import SwapFeed.Proofs.Time.Written
import SwapFeed.Time.Stamp

/-!
# Instants read back

A text in the documented form is read as the number of seconds that the calendar counts to its date
and time, for all years of four digits.  The stamp of a clock reading is such a text, so it is read
as the reading in whole seconds.
-/

namespace SwapFeed

open SwapFeed.Text

/-- A number in its field, written from an integer. -/
theorem Text.writesFixed_zeroPadded_toNat {width : Nat} {value : Int} (positive : 0 < width)
    (nonnegative : 0 ≤ value) (fits : value < 10 ^ width) :
    WritesFixed width (zeroPadded width value.toNat).toList value := by
  have room : value.toNat < 10 ^ width := by
    zify
    omega
  have writes := writesFixed_zeroPadded positive room
  rwa [Int.toNat_of_nonneg nonnegative] at writes

namespace Date

variable {date : Date}

theorem monthLength_le (year month : Int) : monthLength year month ≤ 31 := by
  unfold monthLength
  split
  · split <;> decide
  · split <;> decide

/-- The days from the epoch to the end of the year 9999 are in years of at most four digits. -/
theorem InCalendar.year_bounds (stands : date.InCalendar)
    (days : 0 ≤ date.toDays ∧ date.toDays < 2932897) : 0 ≤ date.year ∧ date.year ≤ 9999 := by
  have inYear := stands.in_year
  have inMonth := stands.in_month.1
  have months := stands.month
  rw [toDays_eq, epochOffset] at *
  simp only [daysBeforeMarch, daysFromMarch, marchYear, marchMonth] at *
  omega

end Date

namespace DateTime

variable {time : DateTime} {text : String} {micros : Int}

/-- A date and time in the documented form are read as their seconds. -/
theorem readInstant_of_writtenIn (written : time.WrittenIn text) :
    readInstant text = .ok time.toSeconds := by
  obtain ⟨pieces, rest, laidOut, spell, ends⟩ := written
  have spelled : SpelledBy WritesWithin text time := ⟨pieces, rest, laidOut, spell.within, ends⟩
  exact (readInstant_eq_ok_iff spelled.isDigits_eq_false).mpr ⟨time, spelled, rfl⟩

/-- The pieces that a date and time are rendered in. -/
def Pieces.ofTime (time : DateTime) : Pieces where
  year := (zeroPadded 4 time.date.year.toNat).toList
  month := (zeroPadded 2 time.date.month.toNat).toList
  day := (zeroPadded 2 time.date.day.toNat).toList
  divider := 'T'
  hour := (zeroPadded 2 time.hour.toNat).toList
  minute := (zeroPadded 2 time.minute.toNat).toList
  second := (zeroPadded 2 time.second.toNat).toList

theorem toList_render (time : DateTime) : time.render.toList = (Pieces.ofTime time).chars := by
  simp [render, Pieces.chars, Pieces.ofTime]

theorem Pieces.spell_ofTime (stands : time.InCalendar)
    (years : 0 ≤ time.date.year ∧ time.date.year ≤ 9999) :
    (Pieces.ofTime time).Spell WritesFixed time := by
  obtain ⟨⟨month, day⟩, hour, minute, second⟩ := stands
  have length := Date.monthLength_le time.date.year time.date.month
  constructor <;> simp only [Pieces.ofTime]
  · exact writesFixed_zeroPadded_toNat (by decide) years.1 (by omega)
  · exact writesFixed_zeroPadded_toNat (by decide) (by omega) (by omega)
  · exact writesFixed_zeroPadded_toNat (by decide) (by omega) (by omega)
  · simp
  · exact writesFixed_zeroPadded_toNat (by decide) hour.1 (by omega)
  · exact writesFixed_zeroPadded_toNat (by decide) minute.1 (by omega)
  · exact writesFixed_zeroPadded_toNat (by decide) second.1 (by omega)

/-- The stamp of a clock reading writes its second, with the milliseconds as a fraction. -/
theorem writtenIn_stampOfMicros (since : 0 ≤ micros)
    (before : micros < 253402300800 * 1000000) :
    (ofSeconds (micros / 1000000)).WrittenIn (stampOfMicros micros) := by
  have millis : micros.tdiv 1000 = micros / 1000 := Int.tdiv_eq_ediv_of_nonneg since
  have seconds : (micros / 1000).tdiv 1000 = micros / 1000000 := by
    rw [Int.tdiv_eq_ediv_of_nonneg (by omega)]
    omega
  obtain ⟨part, remainder⟩ : ∃ part : Nat, (micros / 1000).tmod 1000 = part :=
    Int.eq_ofNat_of_zero_le (Int.tmod_nonneg _ (by omega))
  have stands := inCalendar_ofSeconds (micros / 1000000)
  have years := stands.date.year_bounds (by
    simp only [ofSeconds, Date.toDays_ofDays, secondsPerDay]
    omega)
  have fraction : ∀ char ∈ List.replicate (3 - (toString part).length) '0' ++
      (toString part).toList, char.isDigit = true :=
    fun _ member => isDigit_of_mem_replicate_append member
  refine ⟨.ofTime _, _, ?_, Pieces.spell_ofTime stands years, _, ['Z'], .point fraction, .zulu, rfl⟩
  simp only [stampOfMicros, millis, seconds, remainder, toString_natCast, String.toList_append,
    toList_render, String.toList_ofList]
  simp

/-- The year 10000 starts so many seconds after the epoch. -/
theorem elapsed_tenThousand {seconds : Int}
    (elapsed : Elapsed ⟨⟨10000, 1, 1⟩, 0, 0, 0⟩ seconds) : seconds = 253402300800 := by
  have counted := (elapsed_iff.mp elapsed).2
  rw [← counted]
  decide

end DateTime

open DateTime

/-- A date and time that exist, in the documented form, are read as the seconds that the calendar
counts to them, which are negative before 1970.  A stamp of a clock reading from 1970 on and before
the year 10000 is read as the whole seconds of the reading. -/
theorem instants_and_stamps_read_back :
    (∀ (text : String) (time : DateTime), time.WrittenIn text → time.InCalendar →
      ∃ seconds, (∀ count, time.Elapsed count ↔ count = seconds) ∧
        readInstant text = .ok seconds) ∧
    ∀ micros tenThousand : Int, Elapsed ⟨⟨10000, 1, 1⟩, 0, 0, 0⟩ tenThousand →
      0 ≤ micros → micros < tenThousand * 1000000 →
        readInstant (stampOfMicros micros) = .ok (micros / 1000000) := by
  constructor
  · intro text time written stands
    refine ⟨time.toSeconds, ?_, readInstant_of_writtenIn written⟩
    intro count
    rw [elapsed_iff, eq_comm, and_iff_right stands]
  · intro micros tenThousand elapsed since before
    rw [elapsed_tenThousand elapsed] at before
    rw [readInstant_of_writtenIn (writtenIn_stampOfMicros since before), toSeconds_ofSeconds]

/-- The last second of a leap day, and a clock reading within it. -/
theorem instants_and_stamps_read_back_leapDay :
    Elapsed ⟨⟨2000, 2, 29⟩, 23, 59, 59⟩ 951868799 ∧
      readInstant "2000-02-29 23:59:59.250+0000" = .ok 951868799 ∧
      stampOfMicros 951868799250999 = "2000-02-29T23:59:59.250Z" ∧
      readInstant (stampOfMicros 951868799250999) = .ok 951868799 := by
  have stands : (⟨⟨2000, 2, 29⟩, 23, 59, 59⟩ : DateTime).InCalendar := by decide
  have written : (⟨⟨2000, 2, 29⟩, 23, 59, 59⟩ : DateTime).WrittenIn
      "2000-02-29 23:59:59.250+0000" :=
    ⟨⟨['2', '0', '0', '0'], ['0', '2'], ['2', '9'], ' ', ['2', '3'], ['5', '9'], ['5', '9']⟩, _,
      by decide +kernel, by decide +kernel, ['.', '2', '5', '0'], _, .point (by simp),
      .compactOffset, rfl⟩
  have tenThousand : Elapsed ⟨⟨10000, 1, 1⟩, 0, 0, 0⟩ 253402300800 :=
    elapsed_iff.mpr (by decide)
  obtain ⟨texts, stamps⟩ := instants_and_stamps_read_back
  obtain ⟨seconds, elapsed, read⟩ := texts _ _ written stands
  have counted : (951868799 : Int) = seconds :=
    (elapsed _).mp (elapsed_iff.mpr ⟨stands, by decide⟩)
  subst counted
  exact ⟨(elapsed _).mpr rfl, read, by decide +kernel,
    stamps 951868799250999 _ tenThousand (by decide) (by decide)⟩

end SwapFeed
