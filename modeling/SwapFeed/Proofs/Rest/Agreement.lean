import SwapFeed.Proofs.Rest.Faults
import SwapFeed.Proofs.Text.Integer

/-!
# One reading of numbers on both roads

Stream messages and replies have readers of their own for numbers, for integers and for the sides of
a book.  They accept the same values and take them for the same numbers, so a book that starts from
a reply fits the changes of the stream.  Integers are exact or refused.  The one difference is a
number with a fraction or an exponent, which only a stream message may give for an integer.
-/

namespace SwapFeed

/-- Two readers that succeed alike come to the same. -/
theorem toOption_eq_of_ok_iff {ε δ α : Type} {first : Except ε α} {second : Except δ α}
    (alike : ∀ result, first = .ok result ↔ second = .ok result) :
    first.toOption = second.toOption := by
  cases first with
  | ok result => rw [(alike result).mp rfl]; rfl
  | error reason =>
      cases second with
      | ok result => cases (alike result).mpr rfl
      | error other => rfl

namespace Json

open SwapFeed.Text

variable {value : Json} {count : Int}

/-- The integer that a value stands for: a literal for itself, a text for what it writes. -/
inductive DenotesInteger : Json → Int → Prop where
  | int (count : Int) : DenotesInteger (.int count) count
  | text {text : String} {count : Int} (writes : WritesDecimal text.toList count) :
      DenotesInteger (.text text) count

theorem spellsInteger_iff : value.SpellsInteger count ↔ value.DenotesInteger count := by
  constructor
  · intro spells
    cases spells with
    | text numeral => exact .text (integer?_eq_some_iff.mp numeral)
    | int count => exact .int count
  · intro denotes
    cases denotes with
    | text writes => exact .text (integer?_eq_some_iff.mpr writes)
    | int count => exact .int count

/-- A number that is not written with a fraction or an exponent is an integer on both roads or on
neither. -/
theorem writesInteger_iff (literal : ∀ number, value ≠ .real number) :
    value.WritesInteger count ↔ value.WritesInt64 count := by
  constructor
  · intro writes
    cases writes with
    | text numeral fits => exact ⟨.text numeral, fits⟩
    | int fits => exact ⟨.int count, fits⟩
    | real => exact (literal _ rfl).elim
  · intro writes
    rcases writes with ⟨spells, fits⟩
    cases spells with
    | text numeral => exact .text numeral fits
    | int => exact .int fits

theorem writesInt64_iff :
    value.WritesInt64 count ↔ value.DenotesInteger count ∧ -2 ^ 63 ≤ count ∧ count < 2 ^ 63 := by
  rw [WritesInt64, spellsInteger_iff, fitsInt64, decide_eq_true_eq]
  apply and_congr_right
  intro _
  omega

/-- The readers of stream messages and of replies agree on every value: on the number it writes, on
the levels it writes as a side of a book and, unless it has a fraction or an exponent, on the
integer.  That one is the integer that the literal or the text denotes, and has 64 bits. -/
theorem readers_agree (value : Json) (field what : String) :
    ((Field.double value field).toOption = (Reply.double what value).toOption ∧
        ∀ number, Field.double value field = .ok number ↔ value.WritesNumber number) ∧
      (∀ row key, row.get? key = some value →
        (Field.levels value field).toOption = (Reply.levels what row key).toOption ∧
          ∀ levels, Field.levels value field = .ok levels ↔ value.WritesLevels levels) ∧
      ((∀ number, value ≠ .real number) →
        (Field.integer value field).toOption = (Reply.integer what value).toOption ∧
          ∀ count, Field.integer value field = .ok count ↔
            value.DenotesInteger count ∧ -2 ^ 63 ≤ count ∧ count < 2 ^ 63) := by
  refine ⟨⟨?_, fun _ => Field.double_eq_ok_iff⟩, ?_, ?_⟩
  · apply toOption_eq_of_ok_iff
    intro number
    rw [Field.double_eq_ok_iff, Reply.double_eq_ok_iff]
  · intro row key member
    refine ⟨?_, fun _ => Field.levels_eq_ok_iff⟩
    apply toOption_eq_of_ok_iff
    intro levels
    rw [Field.levels_eq_ok_iff, Reply.levels_eq_ok_iff]
    constructor
    · exact fun writes => ⟨value, member, writes⟩
    · rintro ⟨side, found, writes⟩
      cases member.symm.trans found
      exact writes
  · intro literal
    refine ⟨?_, ?_⟩
    · apply toOption_eq_of_ok_iff
      intro count
      rw [Field.integer_eq_ok_iff, Reply.integer_eq_ok_iff, writesInteger_iff literal]
    · intro count
      rw [Field.integer_eq_ok_iff, writesInteger_iff literal, writesInt64_iff]

/-- A side of a book with one row of three columns. -/
def oneRow : Json := .array [.array [.text "1.5", .int 2, .null]]

theorem readers_agree_oneRow_paddedText :
    (Json.object [("bids", oneRow)]).get? "bids" = some oneRow ∧
      Field.levels oneRow "bids" = .ok [⟨⟨0x3ff8000000000000⟩, ⟨0x4000000000000000⟩⟩] ∧
      (Reply.levels "book" (.object [("bids", oneRow)]) "bids").toOption =
        some [⟨⟨0x3ff8000000000000⟩, ⟨0x4000000000000000⟩⟩] ∧
      (∀ number, Json.text " -042" ≠ .real number) ∧
      Field.integer (.text " -042") "ts" = .ok (-42) ∧
      (Reply.integer "ts" (.text " -042")).toOption = some (-42) ∧
      (Json.text " -042").DenotesInteger (-42) := by
  have member : (Json.object [("bids", oneRow)]).get? "bids" = some oneRow := by rfl
  have levels : Field.levels oneRow "bids" =
      .ok [⟨⟨0x3ff8000000000000⟩, ⟨0x4000000000000000⟩⟩] := by decide +kernel
  have literal : ∀ number, Json.text " -042" ≠ .real number := nofun
  have integer : Field.integer (.text " -042") "ts" = .ok (-42) := by decide +kernel
  have sides := (readers_agree oneRow "bids" "book").2.1 _ _ member
  have integers := (readers_agree (.text " -042") "ts" "ts").2.2 literal
  refine ⟨member, levels, ?_, literal, integer, ?_, ((integers.2 _).mp integer).1⟩
  · rw [← sides.1, levels]
    rfl
  · rw [← integers.1, integer]
    rfl

end Json

end SwapFeed
