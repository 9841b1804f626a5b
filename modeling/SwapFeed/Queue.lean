import SwapFeed.Chain

/-!
# Event queues

An `EventQueue` is a chain of linked nodes that is in order.  Producers add values behind its head,
and the consumer takes them from behind its stub, oldest first.  A chain in order runs into no
fault, so no operation on a queue fails.  What each of them does shows in the list of the waiting
values.
-/

namespace SwapFeed

variable {α : Type}

namespace Chain

/-- The chain holds some values. -/
def InOrder (chain : Chain α) : Prop := ∃ values, chain.Holds values

variable {chain after : Chain α} {value : α} {fault : ChainFault}

theorem inOrder_new : (new : Chain α).InOrder := ⟨[], holds_new⟩

theorem InOrder.push_ne_error (inOrder : chain.InOrder) : chain.push value ≠ .error fault := by
  obtain ⟨values, holds⟩ := inOrder
  obtain ⟨after, pushed, -⟩ := holds.push value
  simp [pushed]

theorem InOrder.of_push (inOrder : chain.InOrder) (pushed : chain.push value = .ok after) :
    after.InOrder := by
  obtain ⟨values, holds⟩ := inOrder
  obtain ⟨other, same, holds⟩ := holds.push value
  cases pushed.symm.trans same
  exact ⟨_, holds⟩

theorem InOrder.pop?_ne_error (inOrder : chain.InOrder) : chain.pop? ≠ .error fault := by
  obtain ⟨values, holds⟩ := inOrder
  cases values with
  | nil => simp [holds.pop?_nil]
  | cons oldest rest =>
      obtain ⟨after, popped, -⟩ := holds.pop?_cons
      simp [popped]

theorem InOrder.of_pop? (inOrder : chain.InOrder) (popped : chain.pop? = .ok (some (value, after))) :
    after.InOrder := by
  obtain ⟨values, holds⟩ := inOrder
  cases values with
  | nil => simp [holds.pop?_nil] at popped
  | cons oldest rest =>
      obtain ⟨other, same, holds⟩ := holds.pop?_cons
      cases popped.symm.trans same
      exact ⟨_, holds⟩

theorem InOrder.isEmpty_ne_error (inOrder : chain.InOrder) : chain.isEmpty ≠ .error fault := by
  obtain ⟨values, holds⟩ := inOrder
  simp [holds.isEmpty]

end Chain

structure EventQueue (α : Type) where
  chain : Chain α := .new
  inOrder : chain.InOrder := by exact Chain.inOrder_new
  deriving Repr

namespace EventQueue

instance : Inhabited (EventQueue α) := ⟨{}⟩

/-- The waiting values, oldest first. -/
def toList (queue : EventQueue α) : List α := queue.chain.toList

/-- Add a value at the producers' end. -/
def push (queue : EventQueue α) (value : α) : EventQueue α :=
  match pushed : queue.chain.push value with
  | .ok chain => ⟨chain, queue.inOrder.of_push pushed⟩
  | .error _ => (queue.inOrder.push_ne_error pushed).elim

/-- Add values one after the other. -/
def pushAll (queue : EventQueue α) (values : List α) : EventQueue α :=
  values.foldl push queue

/-- Take the oldest value, if there is one. -/
def pop? (queue : EventQueue α) : Option (α × EventQueue α) :=
  match popped : queue.chain.pop? with
  | .ok none => none
  | .ok (some (value, chain)) => some (value, ⟨chain, queue.inOrder.of_pop? popped⟩)
  | .error _ => (queue.inOrder.pop?_ne_error popped).elim

/-- Take the oldest value into a slot, which keeps its content if there is none. -/
def popInto (queue : EventQueue α) (slot : α) : Bool × α × EventQueue α :=
  match queue.pop? with
  | some (value, rest) => (true, value, rest)
  | none => (false, slot, queue)

/-- Try again a number of times while nothing is there. -/
def popWithin (queue : EventQueue α) (slot : α) : (attempts : Nat) → Bool × α × EventQueue α
  | 0 => queue.popInto slot
  | attempts + 1 =>
      match queue.popInto slot with
      | (true, taken) => (true, taken)
      | (false, slot, queue) => popWithin queue slot attempts

/-- Whether no value is waiting. -/
def isEmpty (queue : EventQueue α) : Bool :=
  match found : queue.chain.isEmpty with
  | .ok empty => empty
  | .error _ => (queue.inOrder.isEmpty_ne_error found).elim

def size (queue : EventQueue α) : Nat := queue.chain.count

/-! ## Waiting values -/

theorem holds (queue : EventQueue α) : queue.chain.Holds queue.toList := by
  obtain ⟨values, holds⟩ := queue.inOrder
  rw [toList, holds.toList_eq]
  exact holds

theorem chain_push (queue : EventQueue α) (value : α) :
    queue.chain.push value = .ok (queue.push value).chain := by
  rw [push]
  split
  · next chain pushed => exact pushed
  · next fault pushed => exact (queue.inOrder.push_ne_error pushed).elim

@[simp] theorem toList_empty : ({} : EventQueue α).toList = [] := rfl

@[simp] theorem toList_push (queue : EventQueue α) (value : α) :
    (queue.push value).toList = queue.toList ++ [value] := by
  obtain ⟨after, pushed, holds⟩ := queue.holds.push value
  cases pushed.symm.trans (queue.chain_push value)
  exact holds.toList_eq

@[simp] theorem toList_pushAll (queue : EventQueue α) (values : List α) :
    (queue.pushAll values).toList = queue.toList ++ values := by
  induction values generalizing queue with
  | nil => simp [pushAll]
  | cons value rest step =>
      rw [pushAll, List.foldl_cons, ← pushAll, step, toList_push, List.append_assoc,
        List.singleton_append]

theorem pop?_of_toList_nil {queue : EventQueue α} (empty : queue.toList = []) :
    queue.pop? = none := by
  have holds := queue.holds
  rw [empty] at holds
  rw [pop?]
  split
  · rfl
  · next value chain popped => simp [holds.pop?_nil] at popped
  · next fault popped => exact (queue.inOrder.pop?_ne_error popped).elim

theorem pop?_of_toList_cons {queue : EventQueue α} {value : α} {rest : List α}
    (waiting : queue.toList = value :: rest) :
    ∃ after, queue.pop? = some (value, after) ∧ after.toList = rest := by
  have holds := queue.holds
  rw [waiting] at holds
  obtain ⟨chain, same, holds⟩ := holds.pop?_cons
  rw [pop?]
  split
  · next popped => simp [same] at popped
  · next other after popped =>
      cases popped.symm.trans same
      exact ⟨_, rfl, holds.toList_eq⟩
  · next fault popped => exact (queue.inOrder.pop?_ne_error popped).elim

theorem pop?_eq_none_iff (queue : EventQueue α) : queue.pop? = none ↔ queue.toList = [] := by
  constructor
  · intro popped
    cases waiting : queue.toList with
    | nil => rfl
    | cons value rest =>
        obtain ⟨after, found, -⟩ := pop?_of_toList_cons waiting
        simp [popped] at found
  · exact pop?_of_toList_nil

theorem toList_of_pop? {queue rest : EventQueue α} {value : α}
    (popped : queue.pop? = some (value, rest)) : queue.toList = value :: rest.toList := by
  cases waiting : queue.toList with
  | nil => simp [pop?_of_toList_nil waiting] at popped
  | cons first others =>
      obtain ⟨after, found, rfl⟩ := pop?_of_toList_cons waiting
      cases popped.symm.trans found
      rfl

theorem isEmpty_eq (queue : EventQueue α) : queue.isEmpty = queue.toList.isEmpty := by
  rw [isEmpty]
  split
  · next empty found => exact Except.ok.inj (found.symm.trans queue.holds.isEmpty)
  · next fault found => exact (queue.inOrder.isEmpty_ne_error found).elim

theorem size_eq (queue : EventQueue α) : queue.size = queue.toList.length := by
  obtain ⟨behind, inOrder, same⟩ := queue.holds
  rw [size, inOrder.count, ← same, List.length_map]

end EventQueue

end SwapFeed
