import SwapFeed.Proofs.Session.Conduct

/-!
# What handlers leave on record

The machine of a stream lets handlers do what they like.  Here a handler is held to its actions: it
makes the calls that its tree says, goes on from what they reply, and notices the token where it
looks at it.  In the record of a stream the subscribe handler is at work after each report that the
stream subscribes, and the handler of a frame after each frame that is handed on, and each of them
is there to its end.
-/

namespace SwapFeed

namespace Handler

variable {σ α β : Type}

/-- What a handler may do from a token on: the entries that it makes, and its outcome.  Calls may
have any reply, and an interrupt is recorded only if there is a connection. -/
inductive Acts : Handler σ α → Bool → List SessionEvent → Except Halt α → Prop
  | done {cancelled : Bool} (outcome : Except Halt α) : Acts (.done outcome) cancelled [] outcome
  | checkThen {next : Bool → Handler σ α} {cancelled : Bool} {acts : List SessionEvent}
      {outcome : Except Halt α} (rest : Acts (next cancelled) cancelled acts outcome) :
      Acts (.checkThen next) cancelled acts outcome
  | sendThen {text : String} {next : Except Halt Unit → Handler σ α} {cancelled : Bool}
      {acts : List SessionEvent} {outcome : Except Halt α} (reply : CallReply Unit)
      (rest : Acts (next reply.outcome) (cancelled || reply.cancels) acts outcome) :
      Acts (.sendThen text next) cancelled (.send text reply :: acts) outcome
  | pauseThen {delay : Int} {next : Except Halt Unit → Handler σ α} {acts : List SessionEvent}
      {outcome : Except Halt α} (reply : CallReply Unit)
      (rest : Acts (next reply.outcome) reply.cancels acts outcome) :
      Acts (.pauseThen delay next) false (.pause delay reply :: acts) outcome
  | notPaused {delay : Int} {next : Except Halt Unit → Handler σ α} {acts : List SessionEvent}
      {outcome : Except Halt α} (rest : Acts (next (.error .cancelled)) true acts outcome) :
      Acts (.pauseThen delay next) true acts outcome
  | cancelThen {next : Handler σ α} {cancelled : Bool} {acts : List SessionEvent}
      {outcome : Except Halt α} (rest : Acts next true acts outcome) :
      Acts (.cancelThen next) cancelled (.cancel :: acts) outcome
  | interruptThen {next : Handler σ α} {cancelled : Bool} {acts : List SessionEvent}
      {outcome : Except Halt α} (rest : Acts next cancelled acts outcome) :
      Acts (.interruptThen next) cancelled (.interrupt :: acts) outcome
  | notInterrupted {next : Handler σ α} {cancelled : Bool} {acts : List SessionEvent}
      {outcome : Except Halt α} (rest : Acts next cancelled acts outcome) :
      Acts (.interruptThen next) cancelled acts outcome
  | printOutThen {line : String} {next : Handler σ α} {cancelled : Bool}
      {acts : List SessionEvent} {outcome : Except Halt α}
      (rest : Acts next cancelled acts outcome) :
      Acts (.printOutThen line next) cancelled acts outcome
  | printErrThen {line : String} {next : Handler σ α} {cancelled : Bool}
      {acts : List SessionEvent} {outcome : Except Halt α}
      (rest : Acts next cancelled acts outcome) :
      Acts (.printErrThen line next) cancelled acts outcome
  | updateThen {change : σ → σ} {next : σ → Handler σ α} {cancelled : Bool}
      {acts : List SessionEvent} {outcome : Except Halt α} (state : σ)
      (rest : Acts (next state) cancelled acts outcome) :
      Acts (.updateThen change next) cancelled acts outcome

theorem Acts.byHandler {handler : Handler σ α} {cancelled : Bool} {acts : List SessionEvent}
    {outcome : Except Halt α} (does : handler.Acts cancelled acts outcome) :
    ∀ event ∈ acts, event.ByHandler := by
  induction does with
  | done outcome => simp
  | sendThen reply _ step => exact List.forall_mem_cons.mpr ⟨.send _ reply, step⟩
  | pauseThen reply _ step => exact List.forall_mem_cons.mpr ⟨.pause _ reply, step⟩
  | cancelThen _ step => exact List.forall_mem_cons.mpr ⟨.cancel, step⟩
  | interruptThen _ step => exact List.forall_mem_cons.mpr ⟨.interrupt, step⟩
  | checkThen _ step | notPaused _ step | notInterrupted _ step | printOutThen _ step
  | printErrThen _ step | updateThen _ _ step => exact step

/-- The actions of a handler that goes on with the outcome of another one. -/
theorem Acts.of_outcomeOf_bind {first : Handler σ α} {second : Except Halt α → Handler σ β}
    {cancelled : Bool} {acts : List SessionEvent} {outcome : Except Halt β}
    (does : (first.outcomeOf >>= second).Acts cancelled acts outcome) :
    ∃ result before after, acts = before ++ after ∧ first.Acts cancelled before result ∧
      (second result).Acts (cancelled || before.any (·.fires)) after outcome := by
  change (first.outcomeOf.bind second).Acts cancelled acts outcome at does
  induction first generalizing cancelled acts with
  | done result =>
      refine ⟨result, [], acts, rfl, .done result, ?_⟩
      rw [List.any_nil, Bool.or_false]
      exact does
  | checkThen next step =>
      cases does with
      | checkThen rest =>
          obtain ⟨result, before, after, rfl, earlier, later⟩ := step _ rest
          exact ⟨result, before, after, rfl, .checkThen earlier, later⟩
  | sendThen text next step =>
      cases does with
      | sendThen reply rest =>
          obtain ⟨result, before, after, rfl, earlier, later⟩ := step _ rest
          refine ⟨result, _ :: before, after, rfl, .sendThen reply earlier, ?_⟩
          simpa [SessionEvent.fires, Bool.or_assoc] using later
  | pauseThen delay next step =>
      cases does with
      | pauseThen reply rest =>
          obtain ⟨result, before, after, rfl, earlier, later⟩ := step _ rest
          exact ⟨result, _ :: before, after, rfl, .pauseThen reply earlier, later⟩
      | notPaused rest =>
          obtain ⟨result, before, after, rfl, earlier, later⟩ := step _ rest
          exact ⟨result, before, after, rfl, .notPaused earlier, later⟩
  | cancelThen next step =>
      cases does with
      | cancelThen rest =>
          obtain ⟨result, before, after, rfl, earlier, later⟩ := step rest
          refine ⟨result, _ :: before, after, rfl, .cancelThen earlier, ?_⟩
          simpa [SessionEvent.fires] using later
  | interruptThen next step =>
      cases does with
      | interruptThen rest =>
          obtain ⟨result, before, after, rfl, earlier, later⟩ := step rest
          exact ⟨result, _ :: before, after, rfl, .interruptThen earlier, later⟩
      | notInterrupted rest =>
          obtain ⟨result, before, after, rfl, earlier, later⟩ := step rest
          exact ⟨result, before, after, rfl, .notInterrupted earlier, later⟩
  | printOutThen line next step =>
      cases does with
      | printOutThen rest =>
          obtain ⟨result, before, after, rfl, earlier, later⟩ := step rest
          exact ⟨result, before, after, rfl, .printOutThen earlier, later⟩
  | printErrThen line next step =>
      cases does with
      | printErrThen rest =>
          obtain ⟨result, before, after, rfl, earlier, later⟩ := step rest
          exact ⟨result, before, after, rfl, .printErrThen earlier, later⟩
  | updateThen change next step =>
      cases does with
      | updateThen state rest =>
          obtain ⟨result, before, after, rfl, earlier, later⟩ := step _ rest
          exact ⟨result, before, after, rfl, .updateThen state earlier, later⟩

/-- A run of a handler is what the handler may do from the token of the run on. -/
structure RunsAs (handler : Handler σ α) (transport : Transport σ) (run : Run σ)
    (acts : List SessionEvent) (outcome : Except Halt α) : Prop where
  result : (handler.toTask transport run).1 = outcome.mapError .halted
  record : (handler.toTask transport run).2.record = run.record ++ acts
  cancelled : (handler.toTask transport run).2.cancelled =
    (run.cancelled || acts.any (·.fires))
  does : handler.Acts run.cancelled acts outcome

section Runs

variable {transport : Transport σ} {handler rest : Handler σ α} {run between : Run σ}

/-- Some entries on the way to the rest of a handler come before those of the rest. -/
theorem RunsAs.prepend {acts : List SessionEvent} {outcome : Except Halt α}
    (runs : rest.RunsAs transport between acts outcome) (entries : List SessionEvent)
    (same : handler.toTask transport run = rest.toTask transport between)
    (record : between.record = run.record ++ entries)
    (cancelled : between.cancelled = (run.cancelled || entries.any (·.fires)))
    (does : handler.Acts run.cancelled (entries ++ acts) outcome) :
    handler.RunsAs transport run (entries ++ acts) outcome := by
  rcases runs with ⟨result, record', cancelled', -⟩
  rw [← same] at result record' cancelled'
  refine ⟨result, ?_, ?_, does⟩
  · rw [record', record, List.append_assoc]
  · rw [cancelled', cancelled, List.any_append, Bool.or_assoc]

theorem exists_runsAs (handler : Handler σ α) (transport : Transport σ) (run : Run σ) :
    ∃ acts outcome, handler.RunsAs transport run acts outcome := by
  induction handler generalizing run with
  | done outcome =>
      exact ⟨[], outcome, by simp [toTask], by simp [toTask], by simp [toTask], .done outcome⟩
  | checkThen next step =>
      obtain ⟨acts, outcome, runs⟩ := step run.cancelled run
      exact ⟨acts, outcome, runs.prepend [] rfl (by simp) (by simp) (.checkThen runs.does)⟩
  | sendThen text next step =>
      have called := Task.call_apply (transport.send text) (.send text) run
      have same := Task.outcomeOf_bind_of_ended called fun reply => toTask transport (next reply)
      obtain ⟨acts, outcome, runs⟩ := step _ _
      exact ⟨_, outcome, runs.prepend [.send text _] same rfl (by simp [SessionEvent.fires])
        (.sendThen _ runs.does)⟩
  | pauseThen delay next step =>
      cases token : run.cancelled with
      | true =>
          have stopped : Task.pause transport delay (.pause delay) run =
              ((.error .cancelled : Except Halt Unit).mapError .halted, run) :=
            Task.bind_of_error (by rw [Task.checkpoint_apply, if_pos token]) _
          have same := Task.outcomeOf_bind_of_ended stopped fun reply =>
            toTask transport (next reply)
          obtain ⟨acts, outcome, runs⟩ := step (.error .cancelled) run
          have does := runs.does
          rw [token] at does
          exact ⟨acts, outcome, runs.prepend [] same (by simp) (by simp)
            (token ▸ .notPaused does)⟩
      | false =>
          have paused : Task.pause transport delay (.pause delay) run =
              Task.call (transport.pause delay) (.pause delay) run :=
            Task.bind_of_ok (by rw [Task.checkpoint_apply, token]; rfl) _
          have same := Task.outcomeOf_bind_of_ended (paused.trans (Task.call_apply _ _ run))
            fun reply => toTask transport (next reply)
          obtain ⟨acts, outcome, runs⟩ := step _ _
          refine ⟨_, outcome,
            runs.prepend [.pause delay _] same rfl (by simp [SessionEvent.fires]) ?_⟩
          have does := runs.does
          simp only [token, Bool.false_or] at does ⊢
          exact .pauseThen _ does
  | cancelThen next step =>
      obtain ⟨acts, outcome, runs⟩ := step _
      exact ⟨_, outcome, runs.prepend [.cancel] rfl rfl (by simp [SessionEvent.fires])
        (.cancelThen runs.does)⟩
  | interruptThen next step =>
      cases live : run.live with
      | true =>
          obtain ⟨acts, outcome, runs⟩ := step { run with
            world := transport.interrupt run.world
            record := run.record ++ [.interrupt] }
          refine ⟨_, outcome, runs.prepend [.interrupt] ?_ rfl (by simp [SessionEvent.fires])
            (.interruptThen runs.does)⟩
          simp [toTask, Task.interrupt, Task.bind_apply, live]
      | false =>
          obtain ⟨acts, outcome, runs⟩ := step run
          refine ⟨_, outcome, runs.prepend [] ?_ (by simp) (by simp)
            (.notInterrupted runs.does)⟩
          simp [toTask, Task.interrupt, Task.bind_apply, live]
  | printOutThen line next step =>
      obtain ⟨acts, outcome, runs⟩ := step _
      exact ⟨acts, outcome, runs.prepend [] rfl (by simp) (by simp) (.printOutThen runs.does)⟩
  | printErrThen line next step =>
      obtain ⟨acts, outcome, runs⟩ := step _
      exact ⟨acts, outcome, runs.prepend [] rfl (by simp) (by simp) (.printErrThen runs.does)⟩
  | updateThen change next step =>
      obtain ⟨acts, outcome, runs⟩ := step run.world { run with world := change run.world }
      exact ⟨acts, outcome, runs.prepend [] rfl (by simp) (by simp) (.updateThen _ runs.does)⟩

end Runs

end Handler

namespace Lifecycle

variable {σ α β : Type}

/-! ## Handlers that are called for -/

/-- Which entry calls for which handler, and which entry ends it. -/
inductive Summons (life : Lifecycle σ) :
    SessionEvent → Handler σ Unit → (Except Halt Unit → SessionEvent) → Prop
  | subscribe : Summons life (.phase .subscribing) life.subscribe .subscribed
  | deliver (frame : String) : Summons life (.frame frame) (life.deliver frame) .delivered

/-- In what is recorded from a token on, each handler that is called for is at work from there on,
to its end. -/
def Attends (life : Lifecycle σ) (cancelled : Bool) (record : List SessionEvent) : Prop :=
  ∀ before event after handler ending, record = before ++ event :: after →
    life.Summons event handler ending →
    ∃ acts outcome rest, after = acts ++ ending outcome :: rest ∧
      handler.Acts (cancelled || before.any (·.fires)) acts outcome

variable {life : Lifecycle σ}

section Summoned

variable {event : SessionEvent} {handler : Handler σ Unit}
  {ending : Except Halt Unit → SessionEvent}

theorem not_summons_of_byHandler (byHandler : event.ByHandler) :
    ¬life.Summons event handler ending := by
  intro summons
  cases byHandler <;> cases summons

theorem Summons.not_summons_ending (summons : life.Summons event handler ending)
    (outcome : Except Halt Unit) (other : Handler σ Unit)
    (otherEnding : Except Halt Unit → SessionEvent) :
    ¬life.Summons (ending outcome) other otherEnding := by
  intro again
  cases summons <;> cases again

theorem Summons.fires_ending (summons : life.Summons event handler ending)
    (outcome : Except Halt Unit) : (ending outcome).fires = false := by
  cases summons <;> rfl

theorem Summons.fires (summons : life.Summons event handler ending) : event.fires = false := by
  cases summons <;> rfl

end Summoned

namespace Attends

variable {cancelled : Bool} {record : List SessionEvent}

theorem of_unsummoned
    (unsummoned : ∀ event ∈ record, ∀ handler ending, ¬life.Summons event handler ending) :
    life.Attends cancelled record := by
  rintro before event after handler ending rfl summons
  exact (unsummoned event (by simp) handler ending summons).elim

theorem singleton {event : SessionEvent} (notSubscribing : event ≠ .phase .subscribing)
    (noFrame : ∀ frame, event ≠ .frame frame) : life.Attends cancelled [event] := by
  apply of_unsummoned
  intro other member handler ending summons
  cases List.mem_singleton.mp member
  cases summons with
  | subscribe => exact notSubscribing rfl
  | deliver frame => exact noFrame frame rfl

theorem append {first second : List SessionEvent} (attendsFirst : life.Attends cancelled first)
    (attendsSecond : life.Attends (cancelled || first.any (·.fires)) second) :
    life.Attends cancelled (first ++ second) := by
  intro before event after handler ending split summons
  rcases List.append_eq_append_iff.mp split with ⟨between, rfl, late⟩ | ⟨between, rfl, early⟩
  · obtain ⟨acts, outcome, rest, later, does⟩ := attendsSecond _ _ _ _ _ late summons
    refine ⟨acts, outcome, rest, later, ?_⟩
    rwa [List.any_append, ← Bool.or_assoc]
  · cases between with
    | nil =>
        obtain ⟨acts, outcome, rest, later, does⟩ := attendsSecond [] _ _ _ _ early.symm summons
        exact ⟨acts, outcome, rest, later, by simpa using does⟩
    | cons head between =>
        injection early with same early
        subst same
        obtain ⟨acts, outcome, rest, rfl, does⟩ := attendsFirst _ _ _ _ _ rfl summons
        exact ⟨acts, outcome, rest ++ second, by simp [early], does⟩

/-- A handler from its call to its end. -/
theorem of_acts {event : SessionEvent} {handler : Handler σ Unit}
    {ending : Except Halt Unit → SessionEvent} (summons : life.Summons event handler ending)
    {acts : List SessionEvent} {outcome : Except Halt Unit}
    (does : handler.Acts cancelled acts outcome) :
    life.Attends cancelled (event :: (acts ++ [ending outcome])) := by
  intro before other after otherHandler otherEnding split again
  cases before with
  | nil =>
      injection split with same rest
      subst same rest
      cases summons <;> cases again <;> exact ⟨acts, outcome, [], rfl, by simpa using does⟩
  | cons first before =>
      injection split with _ later
      have member : other ∈ acts ++ [ending outcome] := by simp [later]
      rcases List.mem_append.mp member with act | last
      · exact (not_summons_of_byHandler (does.byHandler other act) again).elim
      · cases List.mem_singleton.mp last
        exact (summons.not_summons_ending outcome _ _ again).elim

end Attends

/-! ## Tasks that attend to handlers -/

/-- In what a task adds to the record, handlers are at work where they are called for. -/
def Attending (life : Lifecycle σ) (task : Task σ α) : Prop :=
  ∀ run, ∃ entries, (task run).2.record = run.record ++ entries ∧
    (task run).2.cancelled = (run.cancelled || entries.any (·.fires)) ∧
    life.Attends run.cancelled entries

namespace Attending

variable {task : Task σ α}

theorem bind {next : α → Task σ β} (first : life.Attending task)
    (rest : ∀ value, life.Attending (next value)) : life.Attending (task >>= next) := by
  intro run
  obtain ⟨entries, record, cancelled, attends⟩ := first run
  rcases result : task run with ⟨outcome, between⟩
  rw [result] at record cancelled
  cases outcome with
  | error stop =>
      rw [Task.bind_of_error result]
      exact ⟨entries, record, cancelled, attends⟩
  | ok value =>
      rw [Task.bind_of_ok result]
      obtain ⟨more, record', cancelled', attends'⟩ := rest value between
      rw [cancelled] at cancelled' attends'
      refine ⟨entries ++ more, ?_, ?_, attends.append attends'⟩
      · rw [record', record, List.append_assoc]
      · rw [cancelled', List.any_append, Bool.or_assoc]

theorem outcomeOf (attending : life.Attending task) : life.Attending (Task.outcomeOf task) := by
  intro run
  obtain ⟨entries, added⟩ := attending run
  rw [Task.outcomeOf_apply]
  rcases result : task run with ⟨(reason | _) | value, between⟩
  all_goals
    rw [result] at added
    exact ⟨entries, added⟩

/-- A task that leaves record and token alone. -/
theorem silent (quiet : ∀ run, (task run).2.record = run.record ∧
    (task run).2.cancelled = run.cancelled) : life.Attending task := by
  intro run
  obtain ⟨record, cancelled⟩ := quiet run
  exact ⟨[], by simp [record], by simp [cancelled], .of_unsummoned (by simp)⟩

theorem checkpoint : life.Attending Task.checkpoint := by
  apply silent
  intro run
  rw [Task.checkpoint_apply]
  split <;> exact ⟨rfl, rfl⟩

theorem ofOutcome (outcome : Except Halt α) : life.Attending (Task.ofOutcome outcome) :=
  silent fun run => by simp

theorem note {event : SessionEvent} (quiet : event.fires = false)
    (notes : ∀ run, (task run).2.record = run.record ++ [event] ∧
      (task run).2.cancelled = run.cancelled)
    (notSubscribing : event ≠ .phase .subscribing) (noFrame : ∀ frame, event ≠ .frame frame) :
    life.Attending task := by
  intro run
  obtain ⟨record, cancelled⟩ := notes run
  exact ⟨[event], record, by simp [cancelled, quiet], .singleton notSubscribing noFrame⟩

theorem enter {phase : Phase} (notSubscribing : phase ≠ .subscribing) :
    life.Attending (Task.enter phase) :=
  note rfl (fun _ => ⟨rfl, rfl⟩) (by simpa using notSubscribing) (by simp)

theorem call {action : Call σ α} {event : CallReply α → SessionEvent}
    (fires : ∀ reply, (event reply).fires = reply.cancels)
    (notSubscribing : ∀ reply, event reply ≠ .phase .subscribing)
    (noFrame : ∀ reply frame, event reply ≠ .frame frame) :
    life.Attending (Task.call action event) := by
  intro run
  rw [Task.call_apply]
  exact ⟨[event (action run.world).1], rfl, by simp [fires],
    .singleton (notSubscribing _) (noFrame _)⟩

/-- A handler that is called for and then run adds its actions and its end. -/
theorem handle {event : SessionEvent} {handler : Handler σ Unit}
    {ending : Except Halt Unit → SessionEvent} (summons : life.Summons event handler ending)
    {calling : Task σ Unit} (notes : ∀ run, ∃ between, calling run = (.ok (), between) ∧
      between.record = run.record ++ [event] ∧ between.cancelled = run.cancelled) :
    life.Attending (calling >>= fun _ => life.handle handler ending) := by
  intro run
  obtain ⟨between, called, record, cancelled⟩ := notes run
  obtain ⟨acts, outcome, result, record', cancelled', does⟩ :=
    handler.exists_runsAs life.transport between
  have ended : handler.toTask life.transport between =
      (outcome.mapError .halted, (handler.toTask life.transport between).2) :=
    Prod.ext result rfl
  rw [Task.bind_of_ok called, Lifecycle.handle, Task.outcomeOf_bind_of_ended ended,
    Task.bind_of_ok (Task.note_apply _ _), Task.ofOutcome_apply]
  rw [cancelled] at cancelled' does
  refine ⟨event :: (acts ++ [ending outcome]), ?_, ?_, .of_acts summons does⟩
  · rw [record', record]
    simp
  · rw [cancelled']
    simp [summons.fires, summons.fires_ending]

end Attending

/-! ## The parts of a stream -/

theorem attending_round : life.Attending life.round := by
  apply Attending.checkpoint.bind
  intro _
  apply (Attending.call (fun _ => rfl) (by simp) (by simp)).outcomeOf.bind
  intro outcome
  rcases outcome with (_ | (reason | reason | reason)) | frame
  · exact .ofOutcome (.error .cancelled)
  · apply Attending.checkpoint.bind
    intro _
    exact .call (fun _ => rfl) (by simp) (by simp)
  · exact .ofOutcome (.error (.failed (.transport reason)))
  · exact .ofOutcome (.error (.failed (.internal reason)))
  · exact .handle (.deliver frame) fun run => ⟨_, rfl, rfl, rfl⟩

theorem attending_stream (rounds : Nat) : life.Attending (life.stream rounds) := by
  induction rounds with
  | zero => exact .silent fun _ => ⟨rfl, rfl⟩
  | succ rounds step => exact attending_round.bind fun _ => step

theorem attending_converse (rounds : Nat) : life.Attending (life.converse rounds) := by
  apply (Attending.call (fun _ => rfl) (by simp) (by simp)).bind
  intro _
  apply Attending.checkpoint.bind
  intro _
  have subscribes : life.Attending
      (Task.enter .subscribing >>= fun _ => life.handle life.subscribe .subscribed) :=
    .handle .subscribe fun run => ⟨_, rfl, rfl, rfl⟩
  rw [← bind_assoc]
  apply subscribes.bind
  intro _
  exact (Attending.enter (by simp)).bind fun _ => attending_stream rounds

theorem attending_session (rounds : Nat) : life.Attending (life.session rounds) := by
  have creates : life.Attending (Task.create life.transport) :=
    (Attending.call (fun _ => rfl) (by simp) (by simp)).bind fun _ =>
      .silent fun _ => ⟨rfl, rfl⟩
  have closes : life.Attending (Task.disconnect life.transport) :=
    .note rfl (fun _ => ⟨rfl, rfl⟩) (by simp) (by simp)
  apply (Attending.enter (by simp)).bind
  intro _
  apply creates.bind
  intro _
  apply (attending_converse rounds).outcomeOf.bind
  intro outcome
  exact closes.bind fun _ => .ofOutcome outcome

theorem attending_backOff (failure : Failure) : life.Attending (life.backOff failure) := by
  have pauses : life.Attending
      (Task.pause life.transport life.options.retryDelay (.backOff life.options.retryDelay)) :=
    Attending.checkpoint.bind fun _ => .call (fun _ => rfl) (by simp) (by simp)
  apply Attending.checkpoint.bind
  intro _
  apply (Attending.enter (by simp)).bind
  intro _
  apply Attending.bind (.silent fun _ => ⟨rfl, rfl⟩)
  intro _
  exact pauses.bind fun _ => .enter (by simp)

theorem attending_sessions (rounds count : Nat) : life.Attending (life.sessions rounds count) := by
  induction count with
  | zero => exact .silent fun _ => ⟨rfl, rfl⟩
  | succ count step =>
      apply Attending.checkpoint.bind
      intro _
      apply (attending_session rounds).outcomeOf.bind
      intro outcome
      rcases outcome with (_ | failure) | value
      · exact (Attending.ofOutcome (.error .cancelled)).bind fun _ => step
      · exact (attending_backOff failure).bind fun _ => step
      · exact (Attending.ofOutcome (.ok value)).bind fun _ => step

theorem attending_run (bound : Nat) : life.Attending (life.run bound) := by
  apply (attending_sessions bound bound).outcomeOf.bind
  intro outcome
  rcases outcome with (_ | failure) | value
  · exact (Attending.enter (by simp)).bind fun _ => .ofOutcome (.error .cancelled)
  · exact .ofOutcome (.error (.failed failure))
  · exact .ofOutcome (.ok value)

/-- What a run adds to the record is a path to where the run is left, and on it handlers are at work
where they are called for. -/
theorem exists_attended_path (life : Lifecycle σ) (bound : Nat) (start : Run σ) :
    ∃ record last, (life.run bound start).2.record = start.record ++ record ∧
      life.Path ⟨.between, start.cancelled⟩ record last ∧
      Leaves (life.run bound start).1 last.station ∧ life.Attends start.cancelled record := by
  obtain ⟨record, last, record_eq, path, leaves⟩ := life.exists_path bound start
  obtain ⟨entries, entries_eq, -, attends⟩ := attending_run bound start
  cases List.append_cancel_left (record_eq.symm.trans entries_eq)
  exact ⟨record, last, record_eq, path, leaves, attends⟩

end Lifecycle

end SwapFeed
