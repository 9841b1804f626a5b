import SwapFeed.Config.PairList
import SwapFeed.Proofs.Text.Blank
import SwapFeed.Proofs.Text.Split

/-!
# The pairs of a list

The commas of a list cut it into pieces, and a piece that is not blank has a pair between padding.
The reader finds just these pairs, in their order.  None of them is padded itself or has a comma, so
they can be joined again, with any padding around them and any blank pieces between them, and are
found as before.
-/

namespace SwapFeed.PairList

open SwapFeed.Text

/-- A text that the reader takes as it is: there is something in it, and nothing to cut or trim. -/
structure IsPair (pair : String) : Prop where
  nonempty : pair ≠ ""
  commaless : ',' ∉ pair.toList
  trimmed : IsTrimmed pair.toList

/-- Pieces give pairs, in their order.  Each pair has a piece of its own, which may pad it, and the
other pieces are blank. -/
inductive Gives : (pieces : List (List Char)) → (pairs : List String) → Prop where
  | nil : Gives [] []
  | blank {piece : List Char} {pieces : List (List Char)} {pairs : List String}
      (blank : IsBlank piece) (others : Gives pieces pairs) : Gives (piece :: pieces) pairs
  | pair {lead trail : List Char} {pair : String} {pieces : List (List Char)} {pairs : List String}
      (front : IsBlank lead) (back : IsBlank trail) (nonempty : pair ≠ "")
      (trimmed : IsTrimmed pair.toList) (others : Gives pieces pairs) :
      Gives ((lead ++ pair.toList ++ trail) :: pieces) (pair :: pairs)

variable {lead trail piece : List Char} {pieces : List (List Char)} {pair line : String}
  {pairs : List String}

/-! ## Piece by piece -/

theorem blank_or_padded (piece : List Char) :
    IsBlank piece ∨ ∃ (lead trail : List Char) (pair : String), IsBlank lead ∧ IsBlank trail ∧
      pair ≠ "" ∧ IsTrimmed pair.toList ∧ piece = lead ++ pair.toList ++ trail := by
  obtain ⟨lead, trail, front, back, padded⟩ := exists_padded_trim piece
  by_cases empty : trim piece = []
  · left
    rw [padded, empty, List.append_nil]
    exact front.append back
  · refine .inr ⟨lead, trail, String.ofList (trim piece), front, back, ?_, ?_, ?_⟩
    · simpa using empty
    · simpa using isTrimmed_trim piece
    · simpa using padded

theorem add_blank (blank : IsBlank piece) (found : Array String) : add found piece = found := by
  simp [add, trim_of_isBlank blank]

theorem add_padded (front : IsBlank lead) (back : IsBlank trail) (nonempty : pair ≠ "")
    (trimmed : IsTrimmed pair.toList) (found : Array String) :
    add found (lead ++ pair.toList ++ trail) = found.push pair := by
  rw [add, trim_padded front trimmed back]
  simp [nonempty]

theorem Gives.toList_foldl_add (gives : Gives pieces pairs) (found : Array String) :
    (pieces.foldl add found).toList = found.toList ++ pairs := by
  induction gives generalizing found with
  | nil => simp
  | blank blank others step => rw [List.foldl_cons, add_blank blank, step]
  | pair front back nonempty trimmed others step =>
      rw [List.foldl_cons, add_padded front back nonempty trimmed, step]
      simp

theorem exists_gives (pieces : List (List Char)) : ∃ pairs, Gives pieces pairs := by
  induction pieces with
  | nil => exact ⟨[], .nil⟩
  | cons piece pieces step =>
      obtain ⟨pairs, others⟩ := step
      rcases blank_or_padded piece with
        blank | ⟨lead, trail, pair, front, back, nonempty, trimmed, rfl⟩
      · exact ⟨pairs, .blank blank others⟩
      · exact ⟨pair :: pairs, .pair front back nonempty trimmed others⟩

theorem gives_iff : Gives pieces pairs ↔ (pieces.foldl add #[]).toList = pairs := by
  have folded {pairs : List String} (gives : Gives pieces pairs) :
      (pieces.foldl add #[]).toList = pairs := by
    simpa using gives.toList_foldl_add #[]
  refine ⟨folded, ?_⟩
  rintro rfl
  obtain ⟨pairs, gives⟩ := exists_gives pieces
  rwa [folded gives]

instance (pieces : List (List Char)) (pairs : List String) : Decidable (Gives pieces pairs) :=
  decidable_of_iff _ gives_iff.symm

/-! ## Whole lists -/

/-- Going from comma to comma meets the pieces of a list one by one. -/
theorem collect_eq_foldl (found : Array String) (ahead : List Char) :
    collect found ahead = (ahead.splitOn ',').foldl add found := by
  fun_induction collect found ahead with
  | case1 found ahead none =>
      rw [List.splitOn_eq_singleton (splitFirst?_eq_none_iff.mp none)]
      rfl
  | case2 found ahead piece behind split step =>
      obtain ⟨rfl, absent⟩ := splitFirst?_eq_some_iff.mp split
      rw [List.splitOn_append_cons_self_of_not_mem absent, List.foldl_cons, step]

theorem read_eq_iff : read line = pairs ↔ Gives (line.toList.splitOn ',') pairs := by
  rw [gives_iff, read, collect_eq_foldl]

theorem Gives.isPair (gives : Gives pieces pairs) (commaless : ∀ piece ∈ pieces, ',' ∉ piece) :
    ∀ pair ∈ pairs, IsPair pair := by
  induction gives with
  | nil => simp
  | blank _ _ step => exact step (List.forall_mem_cons.mp commaless).2
  | pair _ _ nonempty trimmed _ step =>
      obtain ⟨here, others⟩ := List.forall_mem_cons.mp commaless
      refine List.forall_mem_cons.mpr ⟨⟨nonempty, ?_, trimmed⟩, step others⟩
      exact fun member => here (by simp [member])

theorem comma_not_mem_of_isBlank (blank : IsBlank piece) : ',' ∉ piece :=
  fun member => absurd (blank ',' member) (by decide)

theorem Gives.commaless (gives : Gives pieces pairs) (isPair : ∀ pair ∈ pairs, IsPair pair) :
    ∀ piece ∈ pieces, ',' ∉ piece := by
  induction gives with
  | nil => simp
  | blank blank _ step =>
      exact List.forall_mem_cons.mpr ⟨comma_not_mem_of_isBlank blank, step isPair⟩
  | pair front back _ _ _ step =>
      obtain ⟨here, others⟩ := List.forall_mem_cons.mp isPair
      refine List.forall_mem_cons.mpr ⟨?_, step others⟩
      simp [comma_not_mem_of_isBlank front, comma_not_mem_of_isBlank back, here.commaless]

/-- Pairs that were joined are read back, whatever padding and blank pieces came with them. -/
theorem Gives.read_intercalate {pieces : List String}
    (gives : Gives (pieces.map String.toList) pairs) (isPair : ∀ pair ∈ pairs, IsPair pair) :
    read (",".intercalate pieces) = pairs := by
  have commaless := gives.commaless isPair
  rw [read_eq_iff, String.toList_intercalate]
  generalize pieces.map String.toList = pieces at *
  by_cases empty : pieces = []
  · subst empty
    exact .blank isBlank_nil gives
  · have cut : ([','].intercalate pieces).splitOn ',' = pieces :=
      List.splitOn_intercalate ',' commaless empty
    rwa [show ",".toList = [','] from rfl, cut]

theorem isPair_of_mem_read (member : pair ∈ read line) : IsPair pair := by
  have gives : Gives (line.toList.splitOn ',') (read line) := read_eq_iff.mp rfl
  refine gives.isPair ?_ pair member
  intro piece cut
  rw [← splitAll_eq_splitOn] at cut
  exact not_mem_of_mem_splitAll cut

/-- Reading a list returns exactly the pairs that the pieces between its commas give, and there is
nothing left to cut or trim in them.  Joined by commas again, with any padding around them and any
blank pieces put in, they are read as the same pairs. -/
theorem split_and_rejoined :
    (∀ line pairs, read line = pairs ↔ Gives (line.toList.splitOn ',') pairs) ∧
    (∀ line, ∀ pair ∈ read line, IsPair pair) ∧
    ∀ (line : String) (pieces : List String), Gives (pieces.map String.toList) (read line) →
      read (",".intercalate pieces) = read line := by
  refine ⟨fun line pairs => read_eq_iff, fun line pair member => isPair_of_mem_read member, ?_⟩
  intro line pieces gives
  exact gives.read_intercalate fun pair member => isPair_of_mem_read member

/-- Repetitions stay, blanks inside a pair are no padding, and a comma may stand at either end. -/
theorem split_and_rejoined_repetition :
    let line := "BTC-USDT,, ETH USDT ,\tBTC-USDT\r,"
    let pairs := ["BTC-USDT", "ETH USDT", "BTC-USDT"]
    read line = pairs ∧ IsPair "ETH USDT" ∧
      read (",".intercalate ["", "BTC-USDT ", "\r\t", " ETH USDT", "BTC-USDT"]) = pairs := by
  intro line pairs
  obtain ⟨exactly, isPair, again⟩ := split_and_rejoined
  have split : read line = pairs := (exactly line pairs).mpr (by decide +kernel)
  refine ⟨split, isPair line "ETH USDT" (by simp [split, pairs]), ?_⟩
  rw [again line _ (by rw [split]; decide +kernel), split]

end SwapFeed.PairList
