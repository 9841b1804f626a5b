/-!
# Splitting at a separator

Total splitting of character lists: at the first separator, at the last one, and at every one.
-/

namespace SwapFeed.Text

variable {α : Type} [DecidableEq α]

/-- The parts before and after the first separator, if there is one. -/
def splitFirst? (separator : α) : List α → Option (List α × List α)
  | [] => none
  | head :: rest =>
      if head = separator then some ([], rest)
      else (splitFirst? separator rest).map fun parts => (head :: parts.1, parts.2)

/-- The parts before and after the last element that satisfies a test, if there is one. -/
def splitLast? (test : α → Bool) : List α → Option (List α × List α)
  | [] => none
  | head :: rest =>
      match splitLast? test rest with
      | some parts => some (head :: parts.1, parts.2)
      | none => if test head then some ([], rest) else none

/-- The pieces between separators; a list with `n` separators has `n + 1` pieces. -/
def splitAll (separator : α) : List α → List (List α)
  | [] => [[]]
  | head :: rest =>
      match splitAll separator rest with
      | [] => [[head]]
      | piece :: pieces =>
          if head = separator then [] :: piece :: pieces else (head :: piece) :: pieces

/-- The parts before and after the first occurrence of a list of elements. -/
def splitInfix? (pattern : List α) : List α → Option (List α × List α)
  | [] => if pattern.isEmpty then some ([], []) else none
  | head :: rest =>
      if pattern.isPrefixOf (head :: rest) then some ([], (head :: rest).drop pattern.length)
      else (splitInfix? pattern rest).map fun parts => (head :: parts.1, parts.2)

theorem append_of_splitFirst? {separator : α} {list before behind : List α}
    (found : splitFirst? separator list = some (before, behind)) :
    list = before ++ separator :: behind := by
  induction list generalizing before with
  | nil => simp [splitFirst?] at found
  | cons head rest step =>
      simp only [splitFirst?] at found
      split at found
      next same =>
        simp only [Option.some.injEq, Prod.mk.injEq] at found
        obtain ⟨rfl, rfl⟩ := found
        simp [same]
      next =>
        obtain ⟨parts, splits, equal⟩ := Option.map_eq_some_iff.1 found
        simp only [Prod.mk.injEq] at equal
        obtain ⟨rfl, rfl⟩ := equal
        simp [← step splits]

theorem length_lt_of_splitFirst? {separator : α} {list before behind : List α}
    (found : splitFirst? separator list = some (before, behind)) :
    behind.length < list.length := by
  rw [append_of_splitFirst? found, List.length_append, List.length_cons]
  omega

end SwapFeed.Text
