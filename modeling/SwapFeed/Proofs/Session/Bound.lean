import SwapFeed.Proofs.Session.Conduct

/-!
# Runs with larger bounds

The bound of a run limits its sessions and the rounds of each session.  A larger bound changes
nothing about a run that ends before it reaches its bound.  A run that reaches its bound on a
cancelled token has nothing left but to notice, so under any larger bound it ends by cancellation.
-/

namespace SwapFeed

namespace Task

variable {σ α β : Type}

/-- A task that never reaches a bound. -/
def Settles (task : Task σ α) : Prop :=
  ∀ run, (task run).1 ≠ .error .unfinished

/-- How a task with a larger bound goes beyond one with a smaller bound. -/
def Outlasts (long short : Task σ α) : Prop :=
  ∀ run, (short run).1 ≠ .error .unfinished ∧ long run = short run ∨
    (short run).1 = .error .unfinished ∧
      ((short run).2.cancelled = true → (long run).1 = .error (.halted .cancelled))

/-- A check on a cancelled token goes no further. -/
theorem checkpoint_bind_of_cancelled {run : Run σ} (cancelled : run.cancelled = true)
    (next : Unit → Task σ β) :
    (checkpoint >>= next) run = (.error (.halted .cancelled), run) := by
  apply bind_of_error
  rw [checkpoint_apply, if_pos cancelled]

theorem settles_checkpoint : (checkpoint : Task σ Unit).Settles := by
  intro run
  rw [checkpoint_apply]
  split <;> simp

theorem settles_ofOutcome (outcome : Except Halt α) : (ofOutcome outcome : Task σ α).Settles := by
  intro run unfinished
  rw [ofOutcome_apply] at unfinished
  cases outcome <;> cases unfinished

namespace Outlasts

/-- Where one more step notices a cancelled token, a bound may be reached. -/
theorem unfinished {long : Task σ α}
    (stops : ∀ run, run.cancelled = true → (long run).1 = .error (.halted .cancelled)) :
    Outlasts long (throw .unfinished) :=
  fun run => .inr ⟨rfl, stops run⟩

theorem bind {first : Task σ α} {long short : α → Task σ β} (settles : first.Settles)
    (rest : ∀ value, Outlasts (long value) (short value)) :
    Outlasts (first >>= long) (first >>= short) := by
  intro run
  have finished := settles run
  rcases result : first run with ⟨outcome, after⟩
  rw [result] at finished
  cases outcome with
  | error stop =>
      rw [bind_of_error result, bind_of_error result]
      refine .inl ⟨fun unfinished => finished ?_, rfl⟩
      cases unfinished
      rfl
  | ok value =>
      rw [bind_of_ok result, bind_of_ok result]
      exact rest value after

/-- Tasks without a bound. -/
theorem of_settles {task : Task σ α} (settles : task.Settles) : Outlasts task task :=
  fun run => .inl ⟨settles run, rfl⟩

/-- What becomes of the outcome of a longer task: work that is cut short on a cancelled token halts
with more room, and this halt has to be passed on. -/
theorem bind_outcomeOf {longWork shortWork : Task σ α} {long short : Except Halt α → Task σ β}
    (works : Outlasts longWork shortWork)
    (rest : ∀ outcome, Outlasts (long outcome) (short outcome))
    (halts : ∀ run, (long (.error .cancelled) run).1 = .error (.halted .cancelled)) :
    Outlasts (outcomeOf longWork >>= long) (outcomeOf shortWork >>= short) := by
  intro run
  rcases result : shortWork run with ⟨outcome, after⟩
  rcases works run with ⟨finished, same⟩ | ⟨unfinished, stops⟩
  · rw [result] at finished same
    rcases unfinished_or_ended outcome with unfinished | ⟨known, rfl⟩
    · exact (finished unfinished).elim
    · rw [outcomeOf_bind_of_ended result, outcomeOf_bind_of_ended same]
      exact rest known after
  · rw [result] at unfinished stops
    cases unfinished
    rw [outcomeOf_bind_of_unfinished result]
    refine .inr ⟨rfl, fun cancelled => ?_⟩
    have ended : longWork run =
        ((.error .cancelled : Except Halt α).mapError .halted, (longWork run).2) :=
      Prod.ext (stops cancelled) rfl
    rw [outcomeOf_bind_of_ended ended]
    exact halts _

end Outlasts

end Task

namespace Lifecycle

variable {σ α : Type} {life : Lifecycle σ}

/-- A part of a stream that is never cut off, wherever it starts. -/
theorem settles_of_keeps {station : Station} {task : Task σ α} {returns : α → Station → Prop}
    {halts : Halt → Station}
    (keeps : ∀ cancelled, life.Keeps ⟨station, cancelled⟩ task
      (Ends returns halts fun _ => False)) : task.Settles := by
  intro run unfinished
  obtain ⟨_, _, _, _, _, ends⟩ := keeps run.cancelled run rfl
  rw [unfinished] at ends
  exact ends

theorem stream_outlasts {short long : Nat} (less : short < long) :
    Task.Outlasts (life.stream long) (life.stream short) := by
  induction short generalizing long with
  | zero =>
      obtain ⟨long, rfl⟩ := Nat.exists_eq_add_one_of_ne_zero (Nat.ne_of_gt less)
      apply Task.Outlasts.unfinished
      intro run cancelled
      have halts : life.round run = (.error (.halted .cancelled), run) :=
        Task.checkpoint_bind_of_cancelled cancelled _
      rw [stream, Task.bind_of_error halts]
  | succ short step =>
      obtain ⟨long, rfl⟩ := Nat.exists_eq_add_one_of_ne_zero (Nat.ne_zero_of_lt less)
      apply Task.Outlasts.bind (settles_of_keeps keeps_round)
      intro _
      exact step (Nat.lt_of_succ_lt_succ less)

theorem converse_outlasts {short long : Nat} (less : short < long) :
    Task.Outlasts (life.converse long) (life.converse short) := by
  apply Task.Outlasts.bind (settles_of_keeps keeps_connect)
  intro _
  apply Task.Outlasts.bind Task.settles_checkpoint
  intro _
  apply Task.Outlasts.bind (fun run => by simp)
  intro _
  apply Task.Outlasts.bind (settles_of_keeps keeps_subscribe)
  intro _
  apply Task.Outlasts.bind (fun run => by simp)
  intro _
  exact stream_outlasts less

theorem closing_outlasts {long short : Task σ α} (works : Task.Outlasts long short) :
    Task.Outlasts (life.closing long) (life.closing short) := by
  apply works.bind_outcomeOf
  · intro outcome
    apply Task.Outlasts.bind (fun run => by simp)
    intro _
    exact .of_settles (Task.settles_ofOutcome outcome)
  · intro run
    rfl

theorem session_outlasts {short long : Nat} (less : short < long) :
    Task.Outlasts (life.session long) (life.session short) := by
  apply Task.Outlasts.bind (fun run => by simp)
  intro _
  apply Task.Outlasts.bind (settles_of_keeps keeps_create)
  intro _
  exact closing_outlasts (converse_outlasts less)

theorem sessions_outlasts {shortRounds longRounds short long : Nat}
    (lessRounds : shortRounds < longRounds) (less : short < long) :
    Task.Outlasts (life.sessions longRounds long) (life.sessions shortRounds short) := by
  induction short generalizing long with
  | zero =>
      obtain ⟨long, rfl⟩ := Nat.exists_eq_add_one_of_ne_zero (Nat.ne_of_gt less)
      apply Task.Outlasts.unfinished
      intro run cancelled
      rw [sessions, Task.checkpoint_bind_of_cancelled cancelled]
  | succ short step =>
      obtain ⟨long, rfl⟩ := Nat.exists_eq_add_one_of_ne_zero (Nat.ne_zero_of_lt less)
      have onward := step (Nat.lt_of_succ_lt_succ less)
      apply Task.Outlasts.bind Task.settles_checkpoint
      intro _
      apply (session_outlasts lessRounds).bind_outcomeOf
      · intro outcome
        rcases outcome with (_ | failure) | value
        · exact Task.Outlasts.bind (Task.settles_ofOutcome (.error .cancelled)) fun _ => onward
        · exact Task.Outlasts.bind (settles_of_keeps (keeps_backOff failure)) fun _ => onward
        · exact Task.Outlasts.bind (Task.settles_ofOutcome (.ok value)) fun _ => onward
      · intro run
        rfl

theorem run_outlasts {short long : Nat} (less : short < long) :
    Task.Outlasts (life.run long) (life.run short) := by
  apply (sessions_outlasts less less).bind_outcomeOf
  · intro outcome
    rcases outcome with (_ | failure) | value
    · apply Task.Outlasts.bind (fun run => by simp)
      intro _
      exact .of_settles (Task.settles_ofOutcome (.error .cancelled))
    · exact .of_settles (Task.settles_ofOutcome (.error (.failed failure)))
    · exact .of_settles (Task.settles_ofOutcome (.ok value))
  · intro run
    rfl

end Lifecycle

end SwapFeed
