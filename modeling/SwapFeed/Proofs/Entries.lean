/-!
# Latest entries

In a list of keys and values that is read from the front to the back, a later entry for a key takes
the place of an earlier one.  The latest entry for a key is the one that stays.
-/

namespace SwapFeed

variable {α β : Type} {entries : List (α × β)} {key : α} {value : β}

/-- Of the entries for a key the last one holds this value. -/
def LatestEntry (entries : List (α × β)) (key : α) (value : β) : Prop :=
  ∃ earlier later, entries = earlier ++ (key, value) :: later ∧ ∀ entry ∈ later, entry.1 ≠ key

theorem LatestEntry.mem (latest : LatestEntry entries key value) : (key, value) ∈ entries := by
  rcases latest with ⟨earlier, later, rfl, -⟩
  exact List.mem_append_right _ List.mem_cons_self

variable [DecidableEq α]

theorem lookup_reverse_eq_some_iff :
    entries.reverse.lookup key = some value ↔ LatestEntry entries key value := by
  rw [List.lookup_eq_some_iff]
  constructor
  · intro found
    rcases found with ⟨later, earlier, split, others⟩
    refine ⟨earlier.reverse, later.reverse, ?_, ?_⟩
    · rw [← List.reverse_reverse entries, split]
      simp
    · intro entry member
      have other := others entry (List.mem_reverse.mp member)
      exact (bne_iff_ne.mp other).symm
  · intro latest
    rcases latest with ⟨earlier, later, rfl, others⟩
    refine ⟨later.reverse, earlier.reverse, by simp, ?_⟩
    intro entry member
    exact bne_iff_ne.mpr (others entry (List.mem_reverse.mp member)).symm

/-- An entry at the end is the latest for its key, and changes nothing for the other keys. -/
theorem latestEntry_append_singleton_iff {name : α} {other : β} :
    LatestEntry (entries ++ [(name, other)]) key value ↔
      name = key ∧ other = value ∨ name ≠ key ∧ LatestEntry entries key value := by
  rw [← lookup_reverse_eq_some_iff, ← lookup_reverse_eq_some_iff, List.reverse_append,
    List.reverse_singleton, List.singleton_append, List.lookup_cons]
  by_cases same : name = key
  · simp [same]
  · simp [same, beq_false_of_ne (Ne.symm same)]

theorem exists_latestEntry (member : (key, value) ∈ entries) :
    ∃ latest, LatestEntry entries key latest := by
  cases found : entries.reverse.lookup key with
  | some latest => exact ⟨latest, lookup_reverse_eq_some_iff.mp found⟩
  | none =>
      have other := List.lookup_eq_none_iff.mp found _ (List.mem_reverse.mpr member)
      simp at other

end SwapFeed
