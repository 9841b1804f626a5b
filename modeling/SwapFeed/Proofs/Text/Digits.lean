import SwapFeed.Proofs.Text.Integer
import SwapFeed.Text.Cut

/-!
# Digits and fields

The decimal digits of a number write it, also with zeros in front.  In a text of fields a number
either fills its field with digits, or is an integer that is not wider than its field.
-/

namespace SwapFeed.Text

/-! ## The digits of a number -/

section Digits

variable {count : Nat}

theorem isDigits_iff_all {chars : List Char} :
    isDigits chars = true ↔ chars ≠ [] ∧ ∀ char ∈ chars, char.isDigit = true := by
  simp [isDigits]

theorem toString_natCast (count : Nat) : toString (count : Int) = toString count := rfl

theorem isDigits_toString (count : Nat) : isDigits (toString count).toList = true := by
  rw [Nat.toString_eq_repr, Nat.toList_repr, isDigits_iff_all]
  exact ⟨Nat.toDigits_ne_nil,
    fun _ member => Nat.isDigit_of_mem_toDigits (by decide) (by decide) member⟩

theorem decimal_toString (count : Nat) : decimal (toString count).toList = count := by
  have left : ∀ digits, decimal digits = Nat.ofDigitChars 10 digits 0 := by
    intro digits
    simp only [decimal, Nat.ofDigitChars_eq_foldl, Nat.mul_comm 10]
  rw [Nat.toString_eq_repr, Nat.toList_repr, left, Nat.ofDigitChars_ten_toDigits]

theorem placeValue_toString (count : Nat) : placeValue (toString count).toList = count := by
  rw [← decimal_eq_placeValue, decimal_toString]

/-- Zeros in front add nothing. -/
theorem placeValue_replicate_append (zeros : Nat) (digits : List Char) :
    placeValue (List.replicate zeros '0' ++ digits) = placeValue digits := by
  rw [← decimal_eq_placeValue, ← decimal_eq_placeValue]
  induction zeros with
  | zero => rfl
  | succ zeros step => exact step

theorem isDigit_of_mem_replicate_append {zeros : Nat} {char : Char}
    (member : char ∈ List.replicate zeros '0' ++ (toString count).toList) :
    char.isDigit = true := by
  rcases List.mem_append.mp member with zero | digit
  · rw [List.eq_of_mem_replicate zero]
    decide
  · exact (isDigits_iff_all.mp (isDigits_toString count)).2 char digit

/-- Digits are read as the number that they write. -/
theorem integer?_of_isDigits {digits : List Char} (decimal : isDigits digits = true) :
    integer? digits = some (placeValue digits : Int) := by
  have writes : WritesDecimal ([] ++ ([] ++ digits)) (1 * placeValue digits) :=
    .written (by simp) .unsigned decimal
  rw [Int.one_mul] at writes
  exact integer?_eq_some_iff.mpr writes

end Digits

/-! ## Fields -/

/-- Exactly so many digits write a number. -/
structure WritesFixed (width : Nat) (chars : List Char) (value : Int) : Prop where
  length : chars.length = width
  digits : ∀ char ∈ chars, char.isDigit = true
  value : (placeValue chars : Int) = value

instance (width : Nat) (chars : List Char) (value : Int) :
    Decidable (WritesFixed width chars value) :=
  decidable_of_iff
    (chars.length = width ∧ chars.all Char.isDigit = true ∧ (placeValue chars : Int) = value)
    ⟨fun holds => ⟨holds.1, List.all_eq_true.mp holds.2.1, holds.2.2⟩,
      fun writes => ⟨writes.length, List.all_eq_true.mpr writes.digits, writes.value⟩⟩

/-- White space and then at most so many characters write an integer. -/
inductive WritesWithin (width : Nat) : List Char → Int → Prop where
  | written {blanks mark digits : List Char} {factor : Int}
      (white : ∀ char ∈ blanks, isWhite char = true) (signed : WritesSign mark factor)
      (decimal : isDigits digits = true) (fits : mark.length + digits.length ≤ width) :
      WritesWithin width (blanks ++ (mark ++ digits)) (factor * placeValue digits)

/-- No digit stands at the start of a text. -/
def StartsNoDigit (chars : List Char) : Prop := ∀ char ∈ chars.head?, char.isDigit = false

theorem WritesFixed.within {width : Nat} (positive : 0 < width) {chars : List Char} {value : Int}
    (writes : WritesFixed width chars value) : WritesWithin width chars value := by
  obtain ⟨length, digits, rfl⟩ := writes
  have nonempty : chars ≠ [] := List.ne_nil_of_length_pos (length ▸ positive)
  have within : WritesWithin width ([] ++ ([] ++ chars)) (1 * placeValue chars) :=
    .written (by simp) .unsigned (isDigits_iff_all.mpr ⟨nonempty, digits⟩) (by simp [length])
  simpa using within

/-- The digits of a field end where it is full, or before the next mark. -/
theorem takeWhile_isDigit_take {room : Nat} {digits rest : List Char}
    (all : ∀ char ∈ digits, char.isDigit = true) (fits : digits.length ≤ room)
    (stop : StartsNoDigit rest) :
    ((digits ++ rest).take room).takeWhile Char.isDigit = digits := by
  have none : (rest.take (room - digits.length)).takeWhile Char.isDigit = [] := by
    cases rest with
    | nil => simp
    | cons mark later =>
        have noDigit : mark.isDigit = false := stop mark (by simp)
        cases room - digits.length with
        | zero => rfl
        | succ left => simp [noDigit]
  rw [List.take_append, List.take_of_length_le fits, List.takeWhile_append_of_pos all, none,
    List.append_nil]

/-- A number that is not too large fills its field with zeros in front. -/
theorem writesFixed_zeroPadded {width count : Nat} (positive : 0 < width)
    (fits : count < 10 ^ width) : WritesFixed width (zeroPadded width count).toList count := by
  have shape : (zeroPadded width count).toList =
      List.replicate (width - (toString count).length) '0' ++ (toString count).toList := by
    simp [zeroPadded]
  have short : (toString count).length ≤ width := by
    rw [← String.length_toList, Nat.toString_eq_repr, Nat.toList_repr]
    exact (Nat.length_toDigits_le_iff (by decide) positive).mpr fits
  rw [shape]
  constructor
  · rw [List.length_append, List.length_replicate, String.length_toList]
    omega
  · exact fun _ member => isDigit_of_mem_replicate_append member
  · rw [placeValue_replicate_append, placeValue_toString]

end SwapFeed.Text
