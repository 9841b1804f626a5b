import Mathlib.Data.List.Induction
import SwapFeed.Json.Basic
import SwapFeed.Proofs.Entries

/-!
# Members that count

Where members with one key follow each other, a reader that keeps the last of them keeps the latest
entry of each key and nothing else.  Members with distinct keys all stay, in order.
-/

namespace SwapFeed.Json

variable {α β : Type} [DecidableEq α] {entries : List (α × β)} {key name : α} {value other : β}

theorem putMember_of_not_mem (new : key ∉ entries.map Prod.fst) :
    putMember key value entries = entries ++ [(key, value)] := by
  induction entries with
  | nil => rfl
  | cons entry rest step =>
      rw [List.map_cons, List.mem_cons, not_or] at new
      rw [putMember, if_neg (Ne.symm new.1), step new.2, List.cons_append]

theorem keys_putMember_of_mem (old : key ∈ entries.map Prod.fst) :
    (putMember key value entries).map Prod.fst = entries.map Prod.fst := by
  induction entries with
  | nil => cases old
  | cons entry rest step =>
      rw [putMember]
      split
      · next same => rw [List.map_cons, List.map_cons, same]
      · next different =>
          have later : key ∈ rest.map Prod.fst :=
            (List.mem_cons.mp old).resolve_left (Ne.symm different)
          rw [List.map_cons, List.map_cons, step later]

theorem nodup_keys_putMember (distinct : (entries.map Prod.fst).Nodup) :
    ((putMember key value entries).map Prod.fst).Nodup := by
  by_cases old : key ∈ entries.map Prod.fst
  · rw [keys_putMember_of_mem old]
    exact distinct
  · rw [putMember_of_not_mem old, List.map_append, List.map_singleton,
      (List.perm_append_singleton key _).nodup_iff]
    exact List.nodup_cons.mpr ⟨old, distinct⟩

/-- An entry that is put takes the place of the one with its key, and leaves the others. -/
theorem mem_putMember_iff (distinct : (entries.map Prod.fst).Nodup) :
    (name, other) ∈ putMember key value entries ↔
      key = name ∧ value = other ∨ key ≠ name ∧ (name, other) ∈ entries := by
  induction entries with
  | nil => grind [putMember]
  | cons entry rest step =>
      obtain ⟨new, distinct⟩ := List.nodup_cons.mp distinct
      have absent : key = entry.1 → ∀ value, (key, value) ∉ rest := by
        rintro rfl value member
        exact new (List.mem_map.mpr ⟨_, member, rfl⟩)
      grind [putMember]

theorem lastWritten_append_singleton (entries : List (α × β)) (entry : α × β) :
    lastWritten (entries ++ [entry]) = putMember entry.1 entry.2 (lastWritten entries) := by
  rw [lastWritten, List.foldl_append]
  rfl

theorem nodup_keys_lastWritten (entries : List (α × β)) :
    ((lastWritten entries).map Prod.fst).Nodup := by
  induction entries using List.reverseRecOn with
  | nil => exact List.nodup_nil
  | append_singleton entries entry step =>
      rw [lastWritten_append_singleton]
      exact nodup_keys_putMember step

/-- What is kept are the latest entries. -/
theorem mem_lastWritten_iff :
    (key, value) ∈ lastWritten entries ↔ LatestEntry entries key value := by
  induction entries using List.reverseRecOn with
  | nil => simp [lastWritten, LatestEntry]
  | append_singleton entries entry step =>
      rw [lastWritten_append_singleton, mem_putMember_iff (nodup_keys_lastWritten entries),
        latestEntry_append_singleton_iff, step]

theorem lastWritten_of_nodup (distinct : (entries.map Prod.fst).Nodup) :
    lastWritten entries = entries := by
  induction entries using List.reverseRecOn with
  | nil => rfl
  | append_singleton entries entry step =>
      rw [List.map_append, List.nodup_append] at distinct
      obtain ⟨earlier, -, apart⟩ := distinct
      have new : entry.1 ∉ entries.map Prod.fst := fun old =>
        apart _ old _ (List.mem_singleton_self _) rfl
      rw [lastWritten_append_singleton, step earlier, putMember_of_not_mem new]

end SwapFeed.Json
