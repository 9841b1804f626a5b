import SwapFeed.Queue

/-!
# Consuming a queue

The one consumer of a queue takes values until none is left and lets each of them act on its own
state.  What it sees is the waiting values, oldest first, and it leaves an empty queue behind.
-/

namespace SwapFeed.EventQueue

variable {α σ : Type}

/-- Take values until none is left, and let each of them act on a state. -/
def consume (act : σ → α → σ) (state : σ) (queue : EventQueue α) : σ × EventQueue α :=
  match _popped : queue.pop? with
  | none => (state, queue)
  | some (value, rest) => rest.consume act (act state value)
termination_by queue.toList.length
decreasing_by simp [toList_of_pop? _popped]

theorem consume_of_pop?_eq_none (act : σ → α → σ) (state : σ) {queue : EventQueue α}
    (popped : queue.pop? = none) : queue.consume act state = (state, queue) := by
  rw [consume]
  split
  · rfl
  · next value rest found => simp [found] at popped

theorem consume_of_pop?_eq_some (act : σ → α → σ) (state : σ) {queue rest : EventQueue α}
    {value : α} (popped : queue.pop? = some (value, rest)) :
    queue.consume act state = rest.consume act (act state value) := by
  rw [consume]
  split
  · next found => simp [found] at popped
  · next first others found =>
      have same := popped.symm.trans found
      simp only [Option.some.injEq, Prod.mk.injEq] at same
      rcases same with ⟨rfl, rfl⟩
      rfl

/-- The waiting values act oldest first. -/
theorem consume_fst (act : σ → α → σ) (state : σ) (queue : EventQueue α) :
    (queue.consume act state).1 = queue.toList.foldl act state := by
  induction state, queue using consume.induct act with
  | case1 state queue popped =>
      have empty := (pop?_eq_none_iff queue).mp popped
      rw [consume_of_pop?_eq_none act state popped, empty]
      rfl
  | case2 state queue value rest popped step =>
      rw [consume_of_pop?_eq_some act state popped, step, toList_of_pop? popped]
      rfl

/-- Nothing waits in the queue that is left. -/
@[simp] theorem toList_consume_snd (act : σ → α → σ) (state : σ) (queue : EventQueue α) :
    (queue.consume act state).2.toList = [] := by
  induction state, queue using consume.induct act with
  | case1 state queue popped =>
      rw [consume_of_pop?_eq_none act state popped]
      exact (pop?_eq_none_iff queue).mp popped
  | case2 state queue value rest popped step =>
      rw [consume_of_pop?_eq_some act state popped]
      exact step

end SwapFeed.EventQueue
