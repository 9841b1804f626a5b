import Mathlib.Data.List.Induction
import Mathlib.Data.List.TakeWhile
import Mathlib.Data.Nat.Digits.Defs
import SwapFeed.Text.Integer

/-!
# What a text writes as an integer

White space, a sign and decimal digits write an integer, and nothing else does.  The grammar says
which one by the place value of the digits, without reading them from the left; the reader agrees
with it on every text, whatever its size.
-/

namespace SwapFeed.Text

/-- The number that digits write by their places, the last of them being the ones. -/
def placeValue (digits : List Char) : Nat :=
  Nat.ofDigits 10 (digits.reverse.map fun digit => digit.toNat - '0'.toNat)

/-- A sign in front of digits stands for a factor; there may be none. -/
inductive WritesSign : List Char → Int → Prop where
  | unsigned : WritesSign [] 1
  | plus : WritesSign ['+'] 1
  | minus : WritesSign ['-'] (-1)

/-- A whole text writes an integer. -/
inductive WritesDecimal : List Char → Int → Prop where
  | written {blanks mark digits : List Char} {factor : Int}
      (white : ∀ char ∈ blanks, isWhite char = true) (signed : WritesSign mark factor)
      (decimal : isDigits digits = true) :
      WritesDecimal (blanks ++ (mark ++ digits)) (factor * placeValue digits)

theorem placeValue_append_singleton (digits : List Char) (digit : Char) :
    placeValue (digits ++ [digit]) =
      placeValue digits * 10 + (digit.toNat - '0'.toNat) := by
  rw [placeValue, List.reverse_append, List.reverse_singleton, List.singleton_append,
    List.map_cons, Nat.ofDigits_cons, placeValue]
  ring

/-- Reading digits from the left gives each its place. -/
theorem decimal_eq_placeValue (digits : List Char) : decimal digits = placeValue digits := by
  induction digits using List.reverseRecOn with
  | nil => rfl
  | append_singleton digits digit step =>
      rw [placeValue_append_singleton, ← step]
      simp [decimal]

section Digits

variable {digits : List Char}

theorem isDigits_iff : isDigits digits = true ↔
    ∃ first rest, digits = first :: rest ∧ first.isDigit = true ∧ rest.all Char.isDigit = true := by
  cases digits with
  | nil => simp
  | cons first rest => simp [isDigits]

theorem isDigit_bounds {char : Char} (digit : char.isDigit = true) :
    48 ≤ char.toNat ∧ char.toNat ≤ 57 := by
  simp only [Char.isDigit, ge_iff_le, Bool.and_eq_true, decide_eq_true_eq,
    UInt32.le_iff_toNat_le] at digit
  exact digit

/-- A digit is no white space and no sign. -/
theorem isWhite_eq_false_of_isDigit {char : Char} (digit : char.isDigit = true) :
    isWhite char = false := by
  have bounds := isDigit_bounds digit
  rw [isWhite, Bool.or_eq_false_iff, Bool.and_eq_false_iff]
  constructor
  · rw [decide_eq_false_iff_not]
    rintro rfl
    revert digit
    decide
  · right
    rw [decide_eq_false_iff_not, Char.le_def, UInt32.le_iff_toNat_le]
    have last : ('\r' : Char).val.toNat = 13 := rfl
    change ¬char.toNat ≤ _
    omega

/-- What a sign in front of a digit is split into. -/
theorem splitSign_append {mark rest : List Char} {first : Char} {factor : Int}
    (signed : WritesSign mark factor) (digit : first.isDigit = true) :
    splitSign (mark ++ first :: rest) = (decide (factor < 0), first :: rest) := by
  have notMinus : first ≠ '-' := by
    rintro rfl
    revert digit
    decide
  have notPlus : first ≠ '+' := by
    rintro rfl
    revert digit
    decide
  cases signed with
  | unsigned => simp [splitSign, notMinus, notPlus]
  | plus => rfl
  | minus => rfl

end Digits

/-- Behind a sign, or where there is none, a digit stands after white space. -/
theorem dropWhile_isWhite_append {blanks mark rest : List Char} {first : Char} {factor : Int}
    (white : ∀ char ∈ blanks, isWhite char = true) (signed : WritesSign mark factor)
    (digit : first.isDigit = true) :
    (blanks ++ (mark ++ first :: rest)).dropWhile isWhite = mark ++ first :: rest := by
  rw [List.dropWhile_append_of_pos white]
  cases signed with
  | unsigned => simp [isWhite_eq_false_of_isDigit digit]
  | plus => rfl
  | minus => rfl

/-- What is split off is a sign. -/
theorem exists_of_splitSign (chars : List Char) :
    ∃ mark factor, WritesSign mark factor ∧ chars = mark ++ (splitSign chars).2 ∧
      (splitSign chars).1 = decide (factor < 0) := by
  rw [splitSign.eq_def]
  split
  · exact ⟨['-'], -1, .minus, rfl, rfl⟩
  · exact ⟨['+'], 1, .plus, rfl, rfl⟩
  · exact ⟨[], 1, .unsigned, rfl, rfl⟩

theorem WritesSign.mul_eq {mark : List Char} {factor : Int} (signed : WritesSign mark factor)
    (count : Nat) : (if decide (factor < 0) then -(count : Int) else count) = factor * count := by
  cases signed <;> simp

/-- The reader succeeds exactly on the texts that write an integer. -/
theorem integer?_eq_some_iff {chars : List Char} {value : Int} :
    integer? chars = some value ↔ WritesDecimal chars value := by
  constructor
  · intro read
    obtain ⟨mark, factor, signed, split, negative⟩ :=
      exists_of_splitSign (chars.dropWhile isWhite)
    simp only [integer?, negative] at read
    split at read
    · next decimal =>
        rw [signed.mul_eq, decimal_eq_placeValue] at read
        cases read
        have whole : chars.takeWhile isWhite ++ (mark ++ (splitSign (chars.dropWhile isWhite)).2) =
            chars := by
          rw [← split, List.takeWhile_append_dropWhile]
        have writes := WritesDecimal.written
          (fun _ member => List.mem_takeWhile_imp (p := isWhite) (l := chars) member) signed decimal
        rwa [whole] at writes
    · cases read
  · intro writes
    cases writes with
    | written white signed decimal =>
        obtain ⟨first, rest, rfl, digit, -⟩ := isDigits_iff.mp decimal
        simp only [integer?, dropWhile_isWhite_append white signed digit,
          splitSign_append signed digit, decimal, if_true, signed.mul_eq,
          decimal_eq_placeValue]

end SwapFeed.Text
