import SwapFeed.Text.Split

/-!
# Where a list is split

A splitter finds the separator that its name says: the first one has none in front of it, the last
one none behind it, and pieces have none in them.  So what was put together around a separator is
taken apart at the same place.
-/

namespace SwapFeed.Text

variable {α : Type} [DecidableEq α] {separator : α} {before behind piece : List α}

omit [DecidableEq α] in
theorem not_mem_cons_iff {head : α} {rest : List α} :
    separator ∉ head :: rest ↔ head ≠ separator ∧ separator ∉ rest := by
  rw [List.mem_cons, not_or, eq_comm]

theorem splitFirst?_append (absent : separator ∉ before) (behind : List α) :
    splitFirst? separator (before ++ separator :: behind) = some (before, behind) := by
  induction before with
  | nil => simp [splitFirst?]
  | cons head rest step =>
      obtain ⟨other, absent⟩ := not_mem_cons_iff.mp absent
      rw [List.cons_append, splitFirst?, if_neg other, step absent]
      rfl

theorem splitFirst?_eq_none {list : List α} (absent : separator ∉ list) :
    splitFirst? separator list = none := by
  induction list with
  | nil => rfl
  | cons head rest step =>
      obtain ⟨other, absent⟩ := not_mem_cons_iff.mp absent
      rw [splitFirst?, if_neg other, step absent]
      rfl

theorem splitFirst?_eq_some_iff {list : List α} :
    splitFirst? separator list = some (before, behind) ↔
      list = before ++ separator :: behind ∧ separator ∉ before := by
  constructor
  · intro found
    by_cases member : separator ∈ list
    · obtain ⟨front, rest, rfl, absent⟩ := List.eq_append_cons_of_mem member
      rw [splitFirst?_append absent] at found
      cases found
      exact ⟨rfl, absent⟩
    · simp [splitFirst?_eq_none member] at found
  · rintro ⟨rfl, absent⟩
    exact splitFirst?_append absent behind

theorem splitFirst?_eq_none_iff {list : List α} :
    splitFirst? separator list = none ↔ separator ∉ list := by
  refine ⟨?_, splitFirst?_eq_none⟩
  intro none member
  obtain ⟨front, rest, rfl, absent⟩ := List.eq_append_cons_of_mem member
  simp [splitFirst?_append absent] at none

omit [DecidableEq α] in
theorem splitLast?_eq_none {test : α → Bool} {list : List α}
    (absent : ∀ element ∈ list, test element = false) : splitLast? test list = none := by
  induction list with
  | nil => rfl
  | cons head rest step =>
      obtain ⟨here, later⟩ := List.forall_mem_cons.mp absent
      simp [splitLast?, step later, here]

omit [DecidableEq α] in
theorem splitLast?_append {test : α → Bool} {mark : α} (before : List α) (holds : test mark = true)
    (absent : ∀ element ∈ behind, test element = false) :
    splitLast? test (before ++ mark :: behind) = some (before, behind) := by
  induction before with
  | nil => simp [splitLast?, splitLast?_eq_none absent, holds]
  | cons head rest step => rw [List.cons_append, splitLast?, step]

omit [DecidableEq α] in
/-- A list has a last element that satisfies a test, or none that does. -/
theorem forall_or_exists_last (test : α → Bool) (list : List α) :
    (∀ element ∈ list, test element = false) ∨
      ∃ before mark behind, list = before ++ mark :: behind ∧ test mark = true ∧
        ∀ element ∈ behind, test element = false := by
  induction list with
  | nil => exact .inl (by simp)
  | cons head rest step =>
      rcases step with none | ⟨before, mark, behind, rfl, holds, absent⟩
      · by_cases here : test head = true
        · exact .inr ⟨[], head, rest, rfl, here, none⟩
        · rw [Bool.not_eq_true] at here
          exact .inl (List.forall_mem_cons.mpr ⟨here, none⟩)
      · exact .inr ⟨head :: before, mark, behind, rfl, holds, absent⟩

omit [DecidableEq α] in
theorem splitLast?_eq_some_iff {test : α → Bool} {list : List α} :
    splitLast? test list = some (before, behind) ↔
      ∃ mark, list = before ++ mark :: behind ∧ test mark = true ∧
        ∀ element ∈ behind, test element = false := by
  constructor
  · intro found
    rcases forall_or_exists_last test list with none | ⟨front, mark, rest, rfl, holds, absent⟩
    · simp [splitLast?_eq_none none] at found
    · rw [splitLast?_append front holds absent] at found
      cases found
      exact ⟨mark, rfl, holds, absent⟩
  · rintro ⟨mark, rfl, holds, absent⟩
    exact splitLast?_append before holds absent

omit [DecidableEq α] in
theorem splitLast?_eq_none_iff {test : α → Bool} {list : List α} :
    splitLast? test list = none ↔ ∀ element ∈ list, test element = false := by
  refine ⟨?_, splitLast?_eq_none⟩
  intro found
  rcases forall_or_exists_last test list with none | ⟨front, mark, rest, rfl, holds, absent⟩
  · exact none
  · simp [splitLast?_append front holds absent] at found

/-- What is split at a pattern has it in the middle. -/
theorem append_of_splitInfix? {pattern list : List α}
    (found : splitInfix? pattern list = some (before, behind)) :
    list = before ++ pattern ++ behind := by
  induction list generalizing before with
  | nil =>
      rw [splitInfix?] at found
      split at found
      next empty =>
        cases found
        simpa using empty
      next => cases found
  | cons head rest step =>
      rw [splitInfix?] at found
      split at found
      next here =>
        cases found
        exact (List.prefix_iff_eq_append.mp (List.isPrefixOf_iff_prefix.mp here)).symm
      next =>
        obtain ⟨parts, later, same⟩ := Option.map_eq_some_iff.mp found
        cases same
        rw [step later]
        rfl

/-- A pattern is found where it stands if its first element does not occur in front of it. -/
theorem splitInfix?_append {first : α} (pattern : List α) (absent : first ∉ before)
    (behind : List α) :
    splitInfix? (first :: pattern) (before ++ first :: pattern ++ behind) =
      some (before, behind) := by
  induction before with
  | nil => simp [splitInfix?]
  | cons head rest step =>
      obtain ⟨other, absent⟩ := not_mem_cons_iff.mp absent
      have elsewhere : (first :: pattern).isPrefixOf
          (head :: (rest ++ first :: pattern ++ behind)) = false := by
        simp [List.isPrefixOf, other.symm]
      simp only [List.cons_append] at step elsewhere ⊢
      rw [splitInfix?, elsewhere, step absent]
      rfl

theorem splitAll_ne_nil (separator : α) (list : List α) : splitAll separator list ≠ [] := by
  cases list with
  | nil => simp [splitAll]
  | cons head rest =>
      rw [splitAll]
      split
      · simp
      · split <;> simp

theorem splitAll_of_not_mem (absent : separator ∉ piece) : splitAll separator piece = [piece] := by
  induction piece with
  | nil => rfl
  | cons head rest step =>
      obtain ⟨other, absent⟩ := not_mem_cons_iff.mp absent
      rw [splitAll, step absent]
      simp [other]

theorem splitAll_append (absent : separator ∉ piece) (rest : List α) :
    splitAll separator (piece ++ separator :: rest) = piece :: splitAll separator rest := by
  induction piece with
  | nil =>
      rw [List.nil_append, splitAll]
      split
      · next none => exact (splitAll_ne_nil separator rest none).elim
      · next first pieces same => simp [same]
  | cons head tail step =>
      obtain ⟨other, absent⟩ := not_mem_cons_iff.mp absent
      rw [List.cons_append, splitAll, step absent]
      simp [other]

theorem not_mem_of_mem_splitAll {list : List α} (member : piece ∈ splitAll separator list) :
    separator ∉ piece := by
  induction list generalizing piece with
  | nil =>
      rw [splitAll, List.mem_singleton] at member
      simp [member]
  | cons head rest step =>
      rw [splitAll] at member
      split at member
      · next none => exact (splitAll_ne_nil separator rest none).elim
      · next first pieces same =>
          rw [same] at step
          split at member
          · rcases List.mem_cons.mp member with rfl | later
            · exact List.not_mem_nil
            · exact step later
          · next other =>
              rcases List.mem_cons.mp member with rfl | later
              · exact not_mem_cons_iff.mpr ⟨other, step List.mem_cons_self⟩
              · exact step (List.mem_cons_of_mem first later)

theorem splitAll_eq_splitOn (separator : α) (list : List α) :
    splitAll separator list = list.splitOn separator := by
  rw [List.splitOn_eq_splitOnP]
  induction list with
  | nil => rfl
  | cons head rest step =>
      rw [splitAll, List.splitOnP_cons_eq_if_modifyHead, ← step]
      split
      · next none => exact (splitAll_ne_nil separator rest none).elim
      · next piece pieces same => simp [same]

end SwapFeed.Text
