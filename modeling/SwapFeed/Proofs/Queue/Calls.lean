import SwapFeed.Queue

/-!
# The calls of one thread

One thread may both add to a queue and take from it, and keeps what it takes in a variable of its
own.  A plain list of values answers the same calls: it grows at its end and shrinks at its front.
Whatever the calls are, the thread cannot tell the two apart, and the nodes from the stub to the
head hold just the values of the list.
-/

namespace SwapFeed.EventQueue

variable {α σ : Type}

inductive Call (α : Type) where
  | push (value : α)
  | tryPop
  /-- Poll until something is there, or until the time for so many more attempts is over. -/
  | popFor (attempts : Nat)
  | size
  | isEmpty

/-- What a call tells.  A pop tells whether it took a value, and leaves the variable as shown. -/
inductive Answer (α : Type) where
  | pushed
  | popped (success : Bool) (slot : α)
  | counted (size : Nat)
  | found (empty : Bool)

/-- The values that calls add, in order. -/
def pushedBy (calls : List (Call α)) : List α :=
  calls.filterMap fun
    | .push value => some value
    | _ => none

/-- The values that were taken according to the answers, in order. -/
def takenIn (answers : List (Answer α)) : List α :=
  answers.filterMap fun
    | .popped true value => some value
    | _ => none

/-- The answers to calls one after the other, and what is left in the end. -/
def answerAll (answer : σ → Call α → Answer α × σ) : σ → List (Call α) → List (Answer α) × σ
  | state, [] => ([], state)
  | state, call :: rest =>
      let (first, next) := answer state call
      let (others, last) := answerAll answer next rest
      (first :: others, last)

theorem answerAll_cons (answer : σ → Call α → Answer α × σ) (state : σ) (call : Call α)
    (rest : List (Call α)) :
    answerAll answer state (call :: rest) =
      ((answer state call).1 :: (answerAll answer (answer state call).2 rest).1,
        (answerAll answer (answer state call).2 rest).2) := rfl

/-! ## The two sides -/

/-- A queue and the variable of the thread that uses it. -/
structure User (α : Type) where
  queue : EventQueue α
  slot : α

def User.answer (user : User α) : Call α → Answer α × User α
  | .push value => (.pushed, { user with queue := user.queue.push value })
  | .tryPop =>
      let (success, slot, queue) := user.queue.popInto user.slot
      (.popped success slot, ⟨queue, slot⟩)
  | .popFor attempts =>
      let (success, slot, queue) := user.queue.popWithin user.slot attempts
      (.popped success slot, ⟨queue, slot⟩)
  | .size => (.counted user.queue.size, user)
  | .isEmpty => (.found user.queue.isEmpty, user)

/-- A list of waiting values, first in and first out, and a variable. -/
structure Fifo (α : Type) where
  waiting : List α
  slot : α

/-- The oldest value goes into the variable.  If none is waiting, nothing changes. -/
def Fifo.pop : Fifo α → Answer α × Fifo α
  | ⟨[], slot⟩ => (.popped false slot, ⟨[], slot⟩)
  | ⟨oldest :: rest, _⟩ => (.popped true oldest, ⟨rest, oldest⟩)

def Fifo.answer (fifo : Fifo α) : Call α → Answer α × Fifo α
  | .push value => (.pushed, { fifo with waiting := fifo.waiting ++ [value] })
  | .tryPop => fifo.pop
  | .popFor _ => fifo.pop
  | .size => (.counted fifo.waiting.length, fifo)
  | .isEmpty => (.found fifo.waiting.isEmpty, fifo)

/-! ## One call -/

theorem popInto_of_toList_nil {queue : EventQueue α} (empty : queue.toList = []) (slot : α) :
    queue.popInto slot = (false, slot, queue) := by
  rw [popInto, pop?_of_toList_nil empty]

theorem popInto_of_toList_cons {queue : EventQueue α} {value : α} {rest : List α}
    (waiting : queue.toList = value :: rest) (slot : α) :
    ∃ after, queue.popInto slot = (true, value, after) ∧ after.toList = rest := by
  obtain ⟨after, popped, others⟩ := pop?_of_toList_cons waiting
  exact ⟨after, by rw [popInto, popped], others⟩

/-- Trying again changes nothing as long as nobody else adds a value. -/
theorem popWithin_eq_popInto (queue : EventQueue α) (slot : α) (attempts : Nat) :
    queue.popWithin slot attempts = queue.popInto slot := by
  induction attempts with
  | zero => rfl
  | succ attempts step =>
      rw [popWithin]
      cases waiting : queue.toList with
      | nil =>
          rw [popInto_of_toList_nil waiting] at step ⊢
          exact step
      | cons value rest =>
          obtain ⟨after, popped, -⟩ := popInto_of_toList_cons waiting slot
          rw [popped]

/-- The list is what the chain of the queue holds, and the variables agree. -/
structure User.Follows (user : User α) (fifo : Fifo α) : Prop where
  holds : user.queue.chain.Holds fifo.waiting
  slot : user.slot = fifo.slot

namespace User.Follows

variable {user : User α} {fifo : Fifo α}

theorem toList_eq (follows : user.Follows fifo) : user.queue.toList = fifo.waiting :=
  follows.holds.toList_eq

theorem of_toList {queue : EventQueue α} (slot : α) :
    User.Follows ⟨queue, slot⟩ ⟨queue.toList, slot⟩ :=
  ⟨queue.holds, rfl⟩

/-- A pop gives the same answer on both sides. -/
theorem pop (follows : user.Follows fifo) :
    ∃ success slot queue, user.queue.popInto user.slot = (success, slot, queue) ∧
      (fifo.pop).1 = .popped success slot ∧ User.Follows ⟨queue, slot⟩ (fifo.pop).2 := by
  obtain ⟨waiting, slot⟩ := fifo
  have same := follows.toList_eq
  cases waiting with
  | nil => exact ⟨_, _, _, popInto_of_toList_nil same user.slot, by rw [follows.slot]; rfl, follows⟩
  | cons oldest rest =>
      obtain ⟨after, popped, rfl⟩ := popInto_of_toList_cons same user.slot
      exact ⟨_, _, _, popped, rfl, of_toList oldest⟩

theorem answer (follows : user.Follows fifo) (call : Call α) :
    (user.answer call).1 = (fifo.answer call).1 ∧
      (user.answer call).2.Follows (fifo.answer call).2 := by
  obtain ⟨success, slot, queue, popped, told, left⟩ := follows.pop
  have same := follows.toList_eq
  cases call with
  | push value =>
      refine ⟨rfl, ?_, follows.slot⟩
      have holds := (user.queue.push value).holds
      rw [toList_push, same] at holds
      exact holds
  | tryPop =>
      rw [User.answer, Fifo.answer, popped]
      exact ⟨told.symm, left⟩
  | popFor attempts =>
      rw [User.answer, Fifo.answer, popWithin_eq_popInto, popped]
      exact ⟨told.symm, left⟩
  | size => exact ⟨by rw [User.answer, Fifo.answer, size_eq, same], follows⟩
  | isEmpty => exact ⟨by rw [User.answer, Fifo.answer, isEmpty_eq, same], follows⟩

/-! ## Any number of calls -/

theorem answerAll (follows : user.Follows fifo) (calls : List (Call α)) :
    (answerAll User.answer user calls).1 = (answerAll Fifo.answer fifo calls).1 ∧
      (answerAll User.answer user calls).2.Follows (answerAll Fifo.answer fifo calls).2 := by
  induction calls generalizing user fifo with
  | nil => exact ⟨rfl, follows⟩
  | cons call rest step =>
      obtain ⟨first, next⟩ := follows.answer call
      obtain ⟨others, last⟩ := step next
      exact ⟨List.cons_eq_cons.mpr ⟨first, others⟩, last⟩

end User.Follows

theorem pushedBy_cons (call : Call α) (rest : List (Call α)) :
    pushedBy (call :: rest) = pushedBy [call] ++ pushedBy rest :=
  List.filterMap_append (l := [call])

theorem takenIn_cons (answer : Answer α) (rest : List (Answer α)) :
    takenIn (answer :: rest) = takenIn [answer] ++ takenIn rest :=
  List.filterMap_append (l := [answer])

theorem Fifo.waiting_append_pushed (fifo : Fifo α) (call : Call α) :
    fifo.waiting ++ pushedBy [call] =
      takenIn [(fifo.answer call).1] ++ (fifo.answer call).2.waiting := by
  have popped : fifo.waiting = takenIn [fifo.pop.1] ++ fifo.pop.2.waiting := by
    obtain ⟨waiting, slot⟩ := fifo
    cases waiting <;> rfl
  cases call with
  | push value => rfl
  | tryPop | popFor => exact (List.append_nil _).trans popped
  | size | isEmpty => simp [pushedBy, takenIn, answer]

/-- What was waiting and what is added is what is taken and what still waits, in this order. -/
theorem Fifo.waiting_append_pushedBy (fifo : Fifo α) (calls : List (Call α)) :
    fifo.waiting ++ pushedBy calls = takenIn (answerAll answer fifo calls).1 ++
      (answerAll answer fifo calls).2.waiting := by
  induction calls generalizing fifo with
  | nil => simp [pushedBy, takenIn, answerAll]
  | cons call rest step =>
      rw [pushedBy_cons, ← List.append_assoc, waiting_append_pushed, List.append_assoc, step,
        answerAll_cons, takenIn_cons _ (answerAll answer _ rest).1, List.append_assoc]

/-- Whatever one thread calls, it is told what a first-in first-out list tells it, and the chain
from the stub to the head holds just what waits in the list.  So the values are taken in the order
in which they were added, each of them once, and the counter is always the number of those that are
left. -/
theorem calls_answered_as_list (calls : List (Call α)) (slot : α) :
    let (answers, user) := answerAll User.answer ⟨{}, slot⟩ calls
    let (listed, fifo) := answerAll Fifo.answer ⟨[], slot⟩ calls
    answers = listed ∧ user.slot = fifo.slot ∧ user.queue.chain.Holds fifo.waiting ∧
      pushedBy calls = takenIn answers ++ fifo.waiting ∧
      user.queue.size + (takenIn answers).length = (pushedBy calls).length ∧
      (user.queue.isEmpty = true ↔ user.queue.size = 0) := by
  have opening : (⟨{}, slot⟩ : User α).Follows ⟨[], slot⟩ := ⟨Chain.holds_new, rfl⟩
  obtain ⟨answers, follows⟩ := opening.answerAll calls
  have kept := Fifo.waiting_append_pushedBy ⟨[], slot⟩ calls
  rw [List.nil_append] at kept
  refine ⟨answers, follows.slot, follows.holds, answers ▸ kept, ?_, ?_⟩
  · rw [size_eq, follows.toList_eq, answers, kept, List.length_append, Nat.add_comm]
  · rw [isEmpty_eq, size_eq, List.isEmpty_iff, List.length_eq_zero_iff]

/-- A queue that was drained is filled again. -/
example : (answerAll User.answer ⟨{}, 0⟩ [.push 1, .tryPop, .tryPop, .push 2, .size]).1 =
    [.pushed, .popped true 1, .popped false 1, .pushed, .counted 1] := rfl

end SwapFeed.EventQueue
