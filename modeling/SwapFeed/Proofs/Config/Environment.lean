import SwapFeed.Config.Environment

/-!
# What an environment says

Defining variables adds to what an environment says and changes nothing that it said before.  Of
several definitions of one variable the first one counts.
-/

namespace SwapFeed.Environment

open SwapFeed.Text

/-- The value that a definition gives to a variable, unless it is a definition of another one. -/
def valueFor? (name : String) (entry : String × String) : Option String :=
  if beforeNul entry.1 = name ∧ isName name then some (beforeNul entry.2) else none

theorem get?_define_of_ne (environment : Environment) {entry : String × String} {name : String}
    (other : beforeNul entry.1 ≠ name) :
    (environment.define entry.1 entry.2).get? name = environment.get? name := by
  have differ : (name == beforeNul entry.1) = false := by simpa using other.symm
  rw [define]
  split
  · simp [get?, List.lookup_append, List.lookup_cons, differ]
  · rfl

theorem get?_define (environment : Environment) (entry : String × String) (name : String) :
    (environment.define entry.1 entry.2).get? name =
      (environment.get? name).or (valueFor? name entry) := by
  by_cases same : beforeNul entry.1 = name
  · subst same
    cases found : environment.get? (beforeNul entry.1) with
    | some value => simp [define, found]
    | none =>
        by_cases legal : isName (beforeNul entry.1) = true
        · have unset : environment.bindings.lookup (beforeNul entry.1) = none := found
          simp [define, valueFor?, legal, get?, List.lookup_append, unset]
        · simp [define, valueFor?, found, legal]
  · simp [get?_define_of_ne environment same, valueFor?, same]

theorem get?_defineAll (environment : Environment) (entries : List (String × String))
    (name : String) :
    (environment.defineAll entries).get? name =
      (environment.get? name).or (entries.findSome? (valueFor? name)) := by
  induction entries generalizing environment with
  | nil => simp [defineAll]
  | cons entry rest step =>
      have later := step (environment.define entry.1 entry.2)
      rw [get?_define, Option.or_assoc] at later
      rw [List.findSome?_cons]
      rw [defineAll, List.foldl_cons, ← defineAll, later]
      cases valueFor? name entry <;> rfl

end SwapFeed.Environment
