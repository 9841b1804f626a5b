import Mathlib.Data.List.Basic
import Mathlib.Data.List.TakeWhile
import SwapFeed.Text.Blank

/-!
# Padding around a text

Trimming a text takes the padding from both ends and nothing else.  So what was padded is got back,
as long as it does not start or end with padding itself.
-/

namespace SwapFeed.Text

/-- No padding stands at either end. -/
structure IsTrimmed (chars : List Char) : Prop where
  start : ∀ char ∈ chars.head?, isPadding char = false
  stop : ∀ char ∈ chars.getLast?, isPadding char = false

instance (chars : List Char) : Decidable (IsTrimmed chars) :=
  decidable_of_iff
    (chars.head?.all (!isPadding ·) = true ∧ chars.getLast?.all (!isPadding ·) = true) <| by
      simp only [Option.all_eq_true, Bool.not_eq_true', ← Option.mem_def]
      exact ⟨fun ⟨start, stop⟩ => ⟨start, stop⟩, fun trimmed => ⟨trimmed.start, trimmed.stop⟩⟩

def IsBlank (chars : List Char) : Prop := ∀ char ∈ chars, isPadding char = true

variable {before inner after chars blanks : List Char}

theorem isBlank_nil : IsBlank [] := by simp [IsBlank]

theorem IsBlank.append (front : IsBlank before) (back : IsBlank after) :
    IsBlank (before ++ after) := by
  intro char member
  exact (List.mem_append.mp member).elim (front char) (back char)

theorem IsBlank.reverse (blank : IsBlank chars) : IsBlank chars.reverse := by
  intro char member
  exact blank char (List.mem_reverse.mp member)

theorem dropWhile_isPadding_of_start (start : ∀ char ∈ chars.head?, isPadding char = false) :
    chars.dropWhile isPadding = chars := by
  cases chars with
  | nil => rfl
  | cons first rest => simp [start first (by simp)]

theorem head?_dropWhile_isPadding (chars : List Char) :
    ∀ char ∈ (chars.dropWhile isPadding).head?, isPadding char = false := by
  intro char first
  have kept := List.head?_dropWhile_not isPadding chars
  rw [Option.mem_def.mp first] at kept
  exact kept

/-- Only the ends count. -/
theorem IsTrimmed.around {front back : List Char} (start : IsTrimmed front) (someStart : front ≠ [])
    (stop : IsTrimmed back) (someStop : back ≠ []) (middle : List Char) :
    IsTrimmed (front ++ middle ++ back) := by
  constructor
  · intro char first
    rw [List.append_assoc, List.head?_append_of_ne_nil _ someStart] at first
    exact start.start char first
  · intro char last
    rw [List.getLast?_append_of_ne_nil _ someStop] at last
    exact stop.stop char last

/-! ## At the end -/

theorem trimEnd_append (blank : IsBlank blanks) (chars : List Char) :
    trimEnd (chars ++ blanks) = trimEnd chars := by
  rw [trimEnd, List.reverse_append, List.dropWhile_append_of_pos blank.reverse, trimEnd]

theorem trimEnd_of_stop (stop : ∀ char ∈ chars.getLast?, isPadding char = false) :
    trimEnd chars = chars := by
  rw [← List.head?_reverse] at stop
  rw [trimEnd, dropWhile_isPadding_of_start stop, List.reverse_reverse]

theorem exists_trimEnd_append (chars : List Char) :
    ∃ blanks, IsBlank blanks ∧ chars = trimEnd chars ++ blanks := by
  refine ⟨(chars.reverse.takeWhile isPadding).reverse, ?_, ?_⟩
  · intro char member
    exact List.mem_takeWhile_imp (List.mem_reverse.mp member)
  · rw [trimEnd, ← List.reverse_append, List.takeWhile_append_dropWhile, List.reverse_reverse]

theorem getLast?_trimEnd (chars : List Char) :
    ∀ char ∈ (trimEnd chars).getLast?, isPadding char = false := by
  rw [trimEnd, List.getLast?_reverse]
  exact head?_dropWhile_isPadding chars.reverse

/-! ## At both ends -/

theorem trim_padded (front : IsBlank before) (trimmed : IsTrimmed inner) (back : IsBlank after) :
    trim (before ++ inner ++ after) = inner := by
  rw [trim, List.append_assoc, List.dropWhile_append_of_pos front]
  cases inner with
  | nil =>
      rw [List.nil_append, List.dropWhile_eq_nil_iff.mpr back]
      rfl
  | cons first rest =>
      have kept : (first :: rest ++ after).dropWhile isPadding = first :: rest ++ after :=
        dropWhile_isPadding_of_start trimmed.start
      rw [kept, trimEnd_append back, trimEnd_of_stop trimmed.stop]

theorem exists_padded_trim (chars : List Char) :
    ∃ before after, IsBlank before ∧ IsBlank after ∧ chars = before ++ trim chars ++ after := by
  obtain ⟨after, back, whole⟩ := exists_trimEnd_append (chars.dropWhile isPadding)
  refine ⟨chars.takeWhile isPadding, after, ?_, back, ?_⟩
  · exact fun char member => List.mem_takeWhile_imp member
  · rw [List.append_assoc, trim, ← whole, List.takeWhile_append_dropWhile]

theorem isTrimmed_trim (chars : List Char) : IsTrimmed (trim chars) := by
  refine ⟨?_, getLast?_trimEnd _⟩
  intro char first
  obtain ⟨after, -, whole⟩ := exists_trimEnd_append (chars.dropWhile isPadding)
  apply head?_dropWhile_isPadding chars char
  rw [whole, ← trim]
  exact List.mem_head?_append_of_mem_head? first

theorem trim_of_isBlank (blank : IsBlank chars) : trim chars = [] := by
  have trimmed : IsTrimmed [] := isTrimmed_trim []
  simpa using trim_padded blank trimmed isBlank_nil

end SwapFeed.Text
