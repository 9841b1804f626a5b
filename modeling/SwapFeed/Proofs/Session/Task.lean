import SwapFeed.Session.Task

/-!
# What tasks do to a run

A task is a function of the run that it starts from.  These equations say for each way of building
a task what it returns and which run it leaves, so that nothing else has to open a task.
-/

namespace SwapFeed.Task

variable {σ α β : Type}

theorem bind_apply (task : Task σ α) (next : α → Task σ β) (run : Run σ) :
    (task >>= next) run =
      match task run with
      | (.ok value, after) => next value after
      | (.error stop, after) => (.error stop, after) := by
  change (match task run with | (result, after) => ExceptT.bindCont next result after) = _
  rcases task run with ⟨result, after⟩
  cases result <;> rfl

/-- A task that returns goes on with what comes next. -/
theorem bind_of_ok {task : Task σ α} {run after : Run σ} {value : α}
    (returns : task run = (.ok value, after)) (next : α → Task σ β) :
    (task >>= next) run = next value after := by
  rw [bind_apply, returns]

theorem bind_of_error {task : Task σ α} {run after : Run σ} {stop : Stop}
    (stops : task run = (.error stop, after)) (next : α → Task σ β) :
    (task >>= next) run = (.error stop, after) := by
  rw [bind_apply, stops]

@[simp] theorem pure_apply (value : α) (run : Run σ) :
    (pure value : Task σ α) run = (.ok value, run) := rfl

@[simp] theorem get_apply (run : Run σ) : (get : Task σ (Run σ)) run = (.ok run, run) := rfl

@[simp] theorem set_apply (run after : Run σ) :
    (set after : Task σ PUnit) run = (.ok ⟨⟩, after) := rfl

@[simp] theorem modify_apply (change : Run σ → Run σ) (run : Run σ) :
    (modify change : Task σ PUnit) run = (.ok ⟨⟩, change run) := rfl

@[simp] theorem throw_apply (stop : Stop) (run : Run σ) :
    (throw stop : Task σ α) run = (.error stop, run) := rfl

@[simp] theorem halt_apply (reason : Halt) (run : Run σ) :
    (halt reason : Task σ α) run = (.error (.halted reason), run) := rfl

@[simp] theorem ofOutcome_apply (outcome : Except Halt α) (run : Run σ) :
    ofOutcome outcome run = (outcome.mapError .halted, run) := by
  cases outcome <;> rfl

@[simp] theorem note_apply (event : SessionEvent) (run : Run σ) :
    note event run = (.ok (), { run with record := run.record ++ [event] }) := rfl

@[simp] theorem enter_apply (phase : Phase) (run : Run σ) :
    enter phase run =
      (.ok (), { run with phase := phase, record := run.record ++ [.phase phase] }) := rfl

@[simp] theorem printErr_apply (line : String) (run : Run σ) :
    printErr line run = (.ok (), { run with err := run.err ++ [line] }) := rfl

@[simp] theorem cancel_apply (run : Run σ) :
    cancel run =
      (.ok (), { run with cancelled := true, record := run.record ++ [.cancel] }) := rfl

@[simp] theorem disconnect_apply (transport : Transport σ) (run : Run σ) :
    disconnect transport run =
      (.ok (),
        { run with
          world := transport.disconnect run.world
          live := false
          record := run.record ++ [.disconnect] }) := rfl

@[simp] theorem checkpoint_apply (run : Run σ) :
    checkpoint run =
      if run.cancelled then (.error (.halted .cancelled), run) else (.ok (), run) := by
  rw [checkpoint, bind_of_ok (get_apply run)]
  split <;> rfl

@[simp] theorem call_apply (action : Call σ α) (event : CallReply α → SessionEvent)
    (run : Run σ) :
    call action event run =
      ((action run.world).1.outcome.mapError .halted,
        { run with
          world := (action run.world).2
          cancelled := run.cancelled || (action run.world).1.cancels
          record := run.record ++ [event (action run.world).1] }) := by
  simp [call, bind_apply]

/-- The outcome of a task is data, as long as its bounds are not reached. -/
theorem outcomeOf_apply (task : Task σ α) (run : Run σ) :
    outcomeOf task run =
      match task run with
      | (.ok value, after) => (.ok (.ok value), after)
      | (.error (.halted reason), after) => (.ok (.error reason), after)
      | (.error .unfinished, after) => (.error .unfinished, after) := rfl

/-- What comes after a task that returns or halts goes on from how it did. -/
theorem outcomeOf_bind_of_ended {task : Task σ α} {run after : Run σ} {outcome : Except Halt α}
    (ended : task run = (outcome.mapError .halted, after)) (next : Except Halt α → Task σ β) :
    (outcomeOf task >>= next) run = next outcome after := by
  apply bind_of_ok
  rw [outcomeOf_apply, ended]
  cases outcome <;> rfl

theorem outcomeOf_bind_of_unfinished {task : Task σ α} {run after : Run σ}
    (unfinished : task run = (.error .unfinished, after)) (next : Except Halt α → Task σ β) :
    (outcomeOf task >>= next) run = (.error .unfinished, after) := by
  apply bind_of_error
  rw [outcomeOf_apply, unfinished]

/-- A task reaches its bounds, or it returns or halts. -/
theorem unfinished_or_ended (result : Except Stop α) :
    result = .error .unfinished ∨ ∃ outcome : Except Halt α, result = outcome.mapError .halted := by
  rcases result with (reason | _) | value
  · exact .inr ⟨.error reason, rfl⟩
  · exact .inl rfl
  · exact .inr ⟨.ok value, rfl⟩

end SwapFeed.Task
