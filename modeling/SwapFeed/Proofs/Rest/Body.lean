import SwapFeed.Proofs.Json.RoundTrip
import SwapFeed.Rest.Body

/-!
# Which parameters have a body

Parameters have a body exactly if the latest one of each name is a text, in its name and its value.
A body holds no U+0000, whatever characters the parameters hold.
-/

namespace SwapFeed

namespace Octets

/-- Octets that encode a text. -/
def IsText (octets : Octets) : Prop := ∃ text, octets = ofText text

theorem text?_eq_none_iff {octets : Octets} : octets.text? = none ↔ ¬octets.IsText := by
  simp [Option.eq_none_iff_forall_ne_some, text?_eq_some_iff, IsText]

end Octets

namespace Body

variable {params : List (Octets × Octets)} {entry : Octets × Octets}

/-- The latest parameter of some name is no text, by its name or by its value. -/
def Unwritable (params : List (Octets × Octets)) : Prop :=
  ∃ name value, LatestEntry params name value ∧ ¬(name.IsText ∧ value.IsText)

theorem member?_eq_none_iff :
    member? entry = none ↔ ¬(entry.1.IsText ∧ entry.2.IsText) := by
  rw [member?]
  cases name : entry.1.text? with
  | none => simp [Octets.text?_eq_none_iff.mp name]
  | some key =>
      have isName : entry.1.IsText := ⟨key, Octets.text?_eq_some_iff.mp name⟩
      cases value : entry.2.text? with
      | none => simp [Octets.text?_eq_none_iff.mp value]
      | some text =>
          have isValue : entry.2.IsText := ⟨text, Octets.text?_eq_some_iff.mp value⟩
          simp [isName, isValue]

theorem mapM_member?_eq_none_iff {entries : List (Octets × Octets)} :
    entries.mapM member? = none ↔ ∃ entry ∈ entries, member? entry = none := by
  induction entries with
  | nil => simp
  | cons entry rest step =>
      rw [List.mapM_cons, List.exists_mem_cons_iff, ← step]
      cases member? entry <;> cases rest.mapM member? <;> simp

theorem render?_eq_none_iff : render? params = none ↔ Unwritable params := by
  simp only [render?, Option.map_eq_none_iff, mapM_member?_eq_none_iff, member?_eq_none_iff,
    Prod.exists, Json.mem_lastWritten_iff, Unwritable]

/-! ## Bodies without U+0000 -/

theorem nul_not_mem_escapeChar (char : Char) : '\x00' ∉ Json.escapeChar char := by
  have symbols : ∀ digit < 16, '\x00' ≠ Nat.digitChar digit := by decide
  have digits : ∀ value, '\x00' ≠ Json.hexDigit value := fun value =>
    symbols _ (Nat.mod_lt value (by decide))
  rw [Json.escapeChar]
  split_ifs with _ _ _ _ _ _ _ control
  rotate_right
  · rw [List.mem_singleton]
    rintro rfl
    exact control (by decide)
  all_goals simp [digits]

theorem nul_not_mem_intercalate {texts : List (List Char)}
    (clean : ∀ text ∈ texts, '\x00' ∉ text) : '\x00' ∉ [','].intercalate texts := by
  induction texts with
  | nil => simp
  | cons text texts step =>
      obtain ⟨here, later⟩ := List.forall_mem_cons.mp clean
      cases texts with
      | nil => simpa using here
      | cons next texts =>
          rw [List.intercalate_cons_cons]
          simp [here, step later]

/-- All members of a body are strings. -/
theorem exists_text_of_mapM_member? {entries : List (Octets × Octets)}
    {members : List (String × Json)} (read : entries.mapM member? = some members) :
    ∀ member ∈ members, ∃ text, member.2 = .text text := by
  induction entries generalizing members with
  | nil =>
      cases read
      simp
  | cons entry rest step =>
      rw [List.mapM_cons] at read
      obtain ⟨first, here, read⟩ := Option.bind_eq_some_iff.mp read
      obtain ⟨others, later, same⟩ := Option.bind_eq_some_iff.mp read
      cases same
      obtain ⟨name, -, read⟩ := Option.bind_eq_some_iff.mp here
      obtain ⟨value, -, same⟩ := Option.bind_eq_some_iff.mp read
      cases same
      exact List.forall_mem_cons.mpr ⟨⟨value, rfl⟩, step later⟩

theorem nul_not_mem_render? {body : String} (written : render? params = some body) :
    '\x00' ∉ body.toList := by
  obtain ⟨members, read, rfl⟩ := Option.map_eq_some_iff.mp written
  have clean : ∀ text ∈ (members.mergeSort Json.memberOrder).map fun member =>
      '"' :: member.1.toList.flatMap Json.escapeChar ++ '"' :: ':' :: member.2.render.toList,
      '\x00' ∉ text := by
    rw [List.forall_mem_map]
    intro member sorted
    obtain ⟨value, same⟩ := exists_text_of_mapM_member? read member (List.mem_mergeSort.mp sorted)
    simp [same, Json.render, Json.quote, nul_not_mem_escapeChar]
  have inside := nul_not_mem_intercalate clean
  rw [Json.toList_render_object, List.mem_append, List.mem_cons, List.mem_singleton, not_or, not_or]
  exact ⟨⟨by decide, inside⟩, by decide⟩

end Body

end SwapFeed
