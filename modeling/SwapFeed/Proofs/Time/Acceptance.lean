import SwapFeed.Proofs.Stream.Queues
import SwapFeed.Proofs.Time.Calendar
import SwapFeed.Proofs.Time.Written

/-!
# Which texts pass for an instant

An instant in UTC is written in the documented form, with a date that exists and a time of day whose
minutes may have a leap second.  Of the texts that are not all digits the reader accepts these, and
besides them the texts of the same layout in which a number does not fill its field with digits or
is out of its range.  All others are refused, and a funding time that is refused takes the whole
message along.
-/

namespace SwapFeed

open SwapFeed.Text

/-- Where all characters of a field are digits, they are the number. -/
theorem Text.WritesWithin.fixed {width : Nat} {chars : List Char} {value : Int}
    (writes : WritesWithin width chars value) (length : chars.length = width)
    (digits : ∀ char ∈ chars, char.isDigit = true) : WritesFixed width chars value := by
  cases writes with
  | @written blanks mark decimals factor white signed decimal fits =>
      have noBlanks : blanks = [] := by
        apply List.eq_nil_iff_forall_not_mem.mpr
        intro char member
        have noWhite := isWhite_eq_false_of_isDigit (digits char (by simp [member]))
        cases noWhite.symm.trans (white char member)
      subst noBlanks
      cases signed with
      | unsigned => exact ⟨length, digits, by simp⟩
      | plus => cases digits '+' (by simp)
      | minus => cases digits '-' (by simp)

namespace DateTime

/-! ## Instants in UTC -/

/-- A date that exists with a time of day in UTC; a minute may have a leap second. -/
structure InUtc (time : DateTime) : Prop where
  date : time.date.InCalendar
  inDay : time.InDay 60

instance (time : DateTime) : Decidable time.InUtc :=
  decidable_of_iff (time.date.InCalendar ∧ time.InDay 60)
    ⟨fun ⟨date, inDay⟩ => ⟨date, inDay⟩, fun ⟨date, inDay⟩ => ⟨date, inDay⟩⟩

/-- What may be wrong with the numbers of a date and time. -/
inductive Pieces.Astray (pieces : Pieces) (time : DateTime) : Prop where
  | unfilled {width : Nat} {chars : List Char} (field : (width, chars) ∈ pieces.fields)
      (other : chars.length ≠ width) : Astray pieces time
  | noDigit {width : Nat} {chars : List Char} {char : Char}
      (field : (width, chars) ∈ pieces.fields) (member : char ∈ chars)
      (other : char.isDigit = false) : Astray pieces time
  | outside (none : ¬time.InUtc) : Astray pieces time

/-- Numbers go astray unless they are in the documented form and in their ranges. -/
theorem Pieces.astray_iff {pieces : Pieces} {time : DateTime}
    (spell : pieces.Spell WritesWithin time) :
    pieces.Astray time ↔ ¬(pieces.Spell WritesFixed time ∧ time.InUtc) := by
  constructor
  · rintro astray ⟨fixed, stands⟩
    cases astray with
    | unfilled field other =>
        obtain ⟨value, writes⟩ := fixed.exists_of_mem field
        exact other writes.length
    | noDigit field member other =>
        obtain ⟨value, writes⟩ := fixed.exists_of_mem field
        cases other.symm.trans (writes.digits _ member)
    | outside none => exact none stands
  · intro other
    by_contra straight
    apply other
    constructor
    · apply spell.imp
      intro width chars value field writes
      apply writes.fixed
      · by_contra unfilled
        exact straight (.unfilled field unfilled)
      · intro char member
        by_contra noDigit
        exact straight (.noDigit field member (by simpa using noDigit))
    · by_contra outside
      exact straight (.outside outside)

end DateTime

open DateTime

/-- A text gives an instant in UTC in the documented form. -/
def IsUtcInstant (text : String) : Prop := ∃ time : DateTime, time.WrittenIn text ∧ time.InUtc

/-- A text has the layout of an instant, and something is wrong with its numbers. -/
def IsCorruptedInstant (text : String) : Prop :=
  ∃ (pieces : Pieces) (time : DateTime) (rest : List Char), text.toList = pieces.chars ++ rest ∧
    pieces.Spell WritesWithin time ∧ EndsInUtc rest ∧ pieces.Astray time

variable {text : String}

theorem IsCorruptedInstant.not_isUtcInstant (corrupted : IsCorruptedInstant text) :
    ¬IsUtcInstant text := by
  rintro ⟨time, ⟨pieces, rest, laidOut, fixed, ends⟩, stands⟩
  obtain ⟨others, another, following, laidOutToo, spell, endsToo, astray⟩ := corrupted
  obtain ⟨rfl, rfl⟩ := Pieces.unique spell endsToo fixed.within ends
    (laidOutToo.symm.trans laidOut)
  exact (Pieces.astray_iff spell).mp astray ⟨fixed, stands⟩

/-- What is read has the layout of an instant, whether or not it is one. -/
theorem exists_readInstant_eq_ok_iff (noDigits : isDigits text.toList = false) :
    (∃ seconds, readInstant text = .ok seconds) ↔
      IsUtcInstant text ∨ IsCorruptedInstant text := by
  simp only [readInstant_eq_ok_iff noDigits]
  constructor
  · rintro ⟨seconds, time, ⟨pieces, rest, laidOut, spell, ends⟩, -⟩
    by_cases astray : pieces.Astray time
    · exact .inr ⟨pieces, time, rest, laidOut, spell, ends, astray⟩
    · rw [Pieces.astray_iff spell, not_not] at astray
      exact .inl ⟨time, ⟨pieces, rest, laidOut, astray.1, ends⟩, astray.2⟩
  · rintro (⟨time, ⟨pieces, rest, laidOut, fixed, ends⟩, -⟩ |
      ⟨pieces, time, rest, laidOut, spell, ends, -⟩)
    · exact ⟨_, time, ⟨pieces, rest, laidOut, fixed.within, ends⟩, rfl⟩
    · exact ⟨_, time, ⟨pieces, rest, laidOut, spell, ends⟩, rfl⟩

/-! ## Funding times -/

/-- An entry of a funding delta gives a time. -/
def Source.DatesFunding (source : Source) (raw : String) (time : Json) : Prop :=
  ∃ message entries entry, Arrives source.names raw .funding message ∧
    message.getText? "type" = some "delta" ∧
    (message.Has "data" fun data => data.get? "update" = some (.array entries)) ∧
    entry ∈ entries ∧ entry.get? "next_funding_time" = some time

/-- A delta with a time that cannot be read is dropped as malformed. -/
theorem Source.DatesFunding.process_eq {source : Source} {raw : String}
    (dates : source.DatesFunding raw (.text text))
    (refused : ∀ seconds, readInstant text ≠ .ok seconds) (now : Int) :
    (∃ reason, Delivery.ofText source.names source.table raw =
        .dropped (some (Delivery.malformed .funding reason))) ∧
      source.process now raw = source := by
  obtain ⟨message, entries, entry, arrives, delta, data, member, timed⟩ := dates
  cases read : Delivery.ofMessage source.table .funding message with
  | error reason =>
      have dropped := arrives.ofText_of_error read
      refine ⟨⟨reason, dropped⟩, ?_⟩
      rw [process, Feed.process, dropped, Feed.deliver_dropped]
  | ok delivery =>
      obtain ⟨updates, found, -⟩ := map_eq_ok_iff.mp read
      rw [FundingUpdate.ofMessage, if_pos delta] at found
      obtain ⟨pair, others, announces, written⟩ := FundingUpdate.ofDelta_eq_ok_iff.mp found
      obtain ⟨value, dataMember, listed⟩ := data
      obtain ⟨valueToo, dataMemberToo, listedToo⟩ := announces.entries
      cases dataMember.symm.trans dataMemberToo
      cases listed.symm.trans listedToo
      obtain ⟨update, -, writtenHere⟩ := exists_of_forall₂ written member
      obtain ⟨seconds, -, written⟩ := writtenHere.nextFunding.exists_of_member timed
      obtain ⟨content, id, read⟩ := written
      cases id with
      | text => exact (refused seconds read).elim
      | number notText => exact (notText text rfl).elim

/-- A text is read only if it is an instant in UTC.  Otherwise the error tells so, and a delta that
gives it as a time changes nothing. -/
structure KeepsToUtc (text : String) : Prop where
  accepted : ∀ seconds, readInstant text = .ok seconds → IsUtcInstant text
  refused : ¬IsUtcInstant text → ∀ field,
    FundingUpdate.instant (.text text) field = .error (.instant (.unparsable text)) ∨
      FundingUpdate.instant (.text text) field = .error (.instant (.notUtc text))
  dropped : ¬IsUtcInstant text → ∀ (source : Source) (now : Int) (raw : String),
    source.DatesFunding raw (.text text) →
      (∃ reason, Delivery.ofText source.names source.table raw =
          .dropped (some (Delivery.malformed .funding reason))) ∧
        source.process now raw = source

/-- Of the texts that are not all digits, the corrupted ones alone pass for instants, though they
are none. -/
theorem keepsToUtc_iff_not_corrupted (text : String) (noDigits : isDigits text.toList = false) :
    (KeepsToUtc text ↔ ¬IsCorruptedInstant text) ∧
      ((∃ seconds, readInstant text = .ok seconds) ↔
        IsUtcInstant text ∨ IsCorruptedInstant text) := by
  have accepted := exists_readInstant_eq_ok_iff noDigits
  refine ⟨⟨?_, ?_⟩, accepted⟩
  · intro keeps corrupted
    obtain ⟨seconds, read⟩ := accepted.mpr (.inr corrupted)
    exact corrupted.not_isUtcInstant (keeps.accepted seconds read)
  · intro sound
    have unread : ¬IsUtcInstant text → ∀ seconds, readInstant text ≠ .ok seconds :=
      fun none seconds read => (accepted.mp ⟨seconds, read⟩).elim none sound
    constructor
    · exact fun seconds read => (accepted.mp ⟨seconds, read⟩).resolve_right sound
    · intro none field
      rw [FundingUpdate.instant_text]
      rcases readInstant_refused noDigits (unread none) with unparsable | notUtc
      · exact .inl (by rw [unparsable]; rfl)
      · exact .inr (by rw [notUtc]; rfl)
    · exact fun none source now raw dates => dates.process_eq (unread none) now

/-- A leap second is an instant, and counts as the second after it. -/
theorem keepsToUtc_leapSecond :
    IsUtcInstant "2016-12-31 23:59:60" ∧ readInstant "2016-12-31 23:59:60" = .ok 1483228800 ∧
      KeepsToUtc "2016-12-31 23:59:60" := by
  have real : IsUtcInstant "2016-12-31 23:59:60" :=
    ⟨⟨⟨2016, 12, 31⟩, 23, 59, 60⟩,
      ⟨⟨['2', '0', '1', '6'], ['1', '2'], ['3', '1'], ' ', ['2', '3'], ['5', '9'], ['6', '0']⟩, _,
        by decide +kernel, by decide +kernel, _, _, .none, .silent, rfl⟩,
      by decide⟩
  have noDigits : isDigits "2016-12-31 23:59:60".toList = false := by decide +kernel
  have sound : ¬IsCorruptedInstant "2016-12-31 23:59:60" :=
    fun corrupted => corrupted.not_isUtcInstant real
  exact ⟨real, by decide +kernel, (keepsToUtc_iff_not_corrupted _ noDigits).1.mpr sound⟩

/-- The thirtieth of February passes for the first of March. -/
theorem not_keepsToUtc_thirtiethOfFebruary :
    isDigits "2024-02-30T00:00:00Z".toList = false ∧
      readInstant "2024-02-30T00:00:00Z" = .ok 1709251200 ∧
      readInstant "2024-03-01T00:00:00Z" = .ok 1709251200 ∧
      ¬KeepsToUtc "2024-02-30T00:00:00Z" := by
  have read : readInstant "2024-02-30T00:00:00Z" = .ok 1709251200 := by decide +kernel
  have corrupted : IsCorruptedInstant "2024-02-30T00:00:00Z" := by
    have spell : Pieces.Spell WritesFixed
        ⟨['2', '0', '2', '4'], ['0', '2'], ['3', '0'], 'T', ['0', '0'], ['0', '0'], ['0', '0']⟩
        ⟨⟨2024, 2, 30⟩, 0, 0, 0⟩ := by decide +kernel
    exact ⟨_, _, _, by decide +kernel, spell.within, ⟨_, _, .none, .zulu, rfl⟩,
      .outside (by decide)⟩
  refine ⟨by decide +kernel, read, by decide +kernel, ?_⟩
  exact fun keeps => corrupted.not_isUtcInstant (keeps.accepted _ read)

end SwapFeed
