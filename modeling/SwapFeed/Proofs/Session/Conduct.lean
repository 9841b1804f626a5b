import SwapFeed.Proofs.Session.Machine
import SwapFeed.Proofs.Session.Task

/-!
# Streams keep to the machine

Whatever transport, handlers and scheduler do, the record of a stream is one that the machine
allows, and how a run ends says at which station.  There is one lemma for each part of a stream,
and nothing that is proved from the machine has to look at the parts again.
-/

namespace SwapFeed

namespace Lifecycle

variable {σ α β : Type}

/-- From a standing, a task makes entries along a path of the machine, to a standing that fits what
it returns. -/
def Keeps (life : Lifecycle σ) (source : Standing) (task : Task σ α)
    (ends : Except Stop α → Standing → Prop) : Prop :=
  ∀ run : Run σ, run.cancelled = source.cancelled → ∃ entries last,
    (task run).2.record = run.record ++ entries ∧ life.Path source entries last ∧
      (task run).2.cancelled = last.cancelled ∧ ends (task run).1 last

/-! ## Rules -/

namespace Keeps

variable {life : Lifecycle σ} {source : Standing} {task : Task σ α}
variable {middle ends : Except Stop α → Standing → Prop}

theorem bind {next : α → Task σ β} {ends : Except Stop β → Standing → Prop}
    (keeps : life.Keeps source task middle)
    (rest : ∀ value standing, middle (.ok value) standing → life.Keeps standing (next value) ends)
    (early : ∀ stop standing, middle (.error stop) standing → ends (.error stop) standing) :
    life.Keeps source (task >>= next) ends := by
  intro run same
  obtain ⟨entries, last, record, path, cancelled, fits⟩ := keeps run same
  rcases result : task run with ⟨outcome, after⟩
  rw [result] at record cancelled fits
  cases outcome with
  | error stop =>
      rw [Task.bind_of_error result]
      exact ⟨entries, last, record, path, cancelled, early stop last fits⟩
  | ok value =>
      rw [Task.bind_of_ok result]
      obtain ⟨more, final, record', path', cancelled', fits'⟩ :=
        rest value last fits after cancelled
      refine ⟨entries ++ more, final, ?_, path.append path', cancelled', fits'⟩
      rw [record', record, List.append_assoc]

/-- A task that leaves record and token alone. -/
theorem silent (quiet : ∀ run, (task run).2.record = run.record ∧
      (task run).2.cancelled = run.cancelled)
    (fits : ∀ run, ends (task run).1 source) : life.Keeps source task ends := by
  intro run same
  obtain ⟨record, cancelled⟩ := quiet run
  exact ⟨[], source, by simp [record], .here source, cancelled.trans same, fits run⟩

theorem ofOutcome {outcome : Except Halt α} (fits : ends (outcome.mapError .halted) source) :
    life.Keeps source (Task.ofOutcome outcome) ends := by
  apply silent
  · intro run
    simp
  · intro run
    simpa using fits

theorem throw {stop : Stop} (fits : ends (.error stop) source) :
    life.Keeps source (throw stop : Task σ α) ends :=
  silent (fun _ => ⟨rfl, rfl⟩) fun _ => fits

/-- A task that makes one entry. -/
theorem entry {station target : Station} {cancelled : Bool} {event : SessionEvent}
    (notes : ∀ run, (task run).2.record = run.record ++ [event] ∧
      (task run).2.cancelled = (run.cancelled || event.fires))
    (moves : life.Moves station cancelled event target)
    (fits : ∀ run, ends (task run).1 ⟨target, cancelled || event.fires⟩) :
    life.Keeps ⟨station, cancelled⟩ task ends := by
  intro run same
  obtain ⟨record, fired⟩ := notes run
  refine ⟨[event], _, record, .move moves (.here _), ?_, fits run⟩
  rw [fired, same]

/-- A call is an entry with its reply. -/
theorem call {station : Station} {cancelled : Bool} {action : Call σ α}
    {event : CallReply α → SessionEvent} (fires : ∀ reply, (event reply).fires = reply.cancels)
    (moves : ∀ world, ∃ target, life.Moves station cancelled (event (action world).1) target ∧
      ends ((action world).1.outcome.mapError .halted)
        ⟨target, cancelled || (action world).1.cancels⟩) :
    life.Keeps ⟨station, cancelled⟩ (Task.call action event) ends := by
  intro run same
  obtain ⟨target, moves, fits⟩ := moves run.world
  rw [Task.call_apply]
  refine ⟨[event (action run.world).1], ⟨target, cancelled || (action run.world).1.cancels⟩, rfl,
    ?_, ?_, fits⟩
  · rw [← fires]
    exact .move moves (.here _)
  · exact congrArg (· || (action run.world).1.cancels) same

/-- Where the token is heeded, a check goes on only on a live token. -/
theorem checkpoint {station target : Station} (heeds : station.Heeds target) (cancelled : Bool) :
    life.Keeps ⟨station, cancelled⟩ Task.checkpoint fun outcome last =>
      outcome = .ok () ∧ last = ⟨station, false⟩ ∨
        outcome = .error (.halted .cancelled) ∧ last.station = target := by
  intro run same
  rw [Task.checkpoint_apply, same]
  cases cancelled with
  | false => exact ⟨[], _, by simp, .here _, same, .inl ⟨rfl, rfl⟩⟩
  | true => exact ⟨[], _, by simp, .heed heeds (.here _), same, .inr ⟨rfl, rfl⟩⟩

/-- To go on after a check, it is enough to go on from a live token. -/
theorem checkpoint_bind {station target : Station} (heeds : station.Heeds target)
    {next : Unit → Task σ β} {ends : Except Stop β → Standing → Prop}
    (rest : life.Keeps ⟨station, false⟩ (next ()) ends)
    (early : ∀ last : Standing, last.station = target → ends (.error (.halted .cancelled)) last)
    (cancelled : Bool) :
    life.Keeps ⟨station, cancelled⟩ (Task.checkpoint >>= next) ends := by
  apply (checkpoint heeds cancelled).bind
  · intro value standing fits
    rcases fits with ⟨-, rfl⟩ | ⟨impossible, -⟩
    · exact rest
    · cases impossible
  · intro stop standing fits
    rcases fits with ⟨impossible, -⟩ | ⟨same, there⟩
    · cases impossible
    · cases same
      exact early standing there

/-- The outcome of a task is there unless its bounds are reached. -/
theorem outcomeOf (keeps : life.Keeps source task middle) :
    life.Keeps source (Task.outcomeOf task) fun result last =>
      match result with
      | .ok outcome => middle (outcome.mapError .halted) last
      | .error stop => stop = .unfinished ∧ middle (.error .unfinished) last := by
  intro run same
  obtain ⟨entries, last, record, path, cancelled, fits⟩ := keeps run same
  rw [Task.outcomeOf_apply]
  rcases result : task run with ⟨(reason | _) | value, after⟩
  all_goals rw [result] at record cancelled fits
  · exact ⟨entries, last, record, path, cancelled, fits⟩
  · exact ⟨entries, last, record, path, cancelled, rfl, fits⟩
  · exact ⟨entries, last, record, path, cancelled, fits⟩

/-- To go on from the outcome of a task, it is enough to go on from every way in which it halts or
returns; only bounds that are reached pass by. -/
theorem bind_outcomeOf {next : Except Halt α → Task σ β} {ends : Except Stop β → Standing → Prop}
    (keeps : life.Keeps source task middle)
    (rest : ∀ outcome standing, middle (outcome.mapError .halted) standing →
      life.Keeps standing (next outcome) ends)
    (cut : ∀ standing, middle (.error .unfinished) standing →
      ends (.error .unfinished) standing) :
    life.Keeps source (Task.outcomeOf task >>= next) ends := by
  apply keeps.outcomeOf.bind rest
  rintro stop standing ⟨rfl, fits⟩
  exact cut standing fits

end Keeps

/-! ## Handlers -/

/-- A task that halts or returns at the station where it started. -/
def Stays (station : Station) (outcome : Except Stop α) (last : Standing) : Prop :=
  outcome ≠ .error .unfinished ∧ last.station = station

/-- Handlers may be at work at a station. -/
def Busy (life : Lifecycle σ) (station : Station) : Prop :=
  ∀ cancelled event, event.ByHandler → life.Moves station cancelled event station

section Handlers

variable {life : Lifecycle σ} {station : Station}

theorem Keeps.bind_stays {source : Standing} {task : Task σ α} {next : α → Task σ β}
    (first : life.Keeps source task (Stays station))
    (rest : ∀ value cancelled, life.Keeps ⟨station, cancelled⟩ (next value) (Stays station)) :
    life.Keeps source (task >>= next) (Stays station) := by
  apply first.bind
  · intro value standing stays
    rcases standing with ⟨there, cancelled⟩
    cases stays.2
    exact rest value cancelled
  · intro stop standing stays
    refine ⟨fun unfinished => stays.1 ?_, stays.2⟩
    cases unfinished
    rfl

theorem stays_mapError (outcome : Except Halt α) (cancelled : Bool) :
    Stays station (outcome.mapError .halted) ⟨station, cancelled⟩ := by
  refine ⟨fun unfinished => ?_, rfl⟩
  cases outcome <;> cases unfinished

/-- A call on the connection by a handler, with its outcome as data. -/
theorem keeps_handler_call (busy : life.Busy station) (action : Call σ α)
    {event : CallReply α → SessionEvent} (byHandler : ∀ reply, (event reply).ByHandler)
    (fires : ∀ reply, (event reply).fires = reply.cancels) (cancelled : Bool) :
    life.Keeps ⟨station, cancelled⟩ (Task.call action event) (Stays station) := by
  apply Keeps.call fires
  intro world
  exact ⟨station, busy cancelled _ (byHandler _), stays_mapError _ _⟩

/-- The outcome of a task that stays is always there. -/
theorem Keeps.bind_outcomeOf_stays {source : Standing} {task : Task σ α}
    {next : Except Halt α → Task σ β} {ends : Except Stop β → Standing → Prop}
    (keeps : life.Keeps source task (Stays station))
    (rest : ∀ outcome cancelled, life.Keeps ⟨station, cancelled⟩ (next outcome) ends) :
    life.Keeps source (Task.outcomeOf task >>= next) ends := by
  apply keeps.bind_outcomeOf
  · intro outcome standing stays
    rcases standing with ⟨there, cancelled⟩
    cases stays.2
    exact rest outcome cancelled
  · intro standing stays
    exact (stays.1 rfl).elim

theorem Keeps.silent_stays {task : Task σ Unit} {cancelled : Bool}
    (quiet : ∀ run, (task run).1 = .ok () ∧ (task run).2.record = run.record ∧
      (task run).2.cancelled = run.cancelled) :
    life.Keeps ⟨station, cancelled⟩ task (Stays station) := by
  apply Keeps.silent fun run => (quiet run).2
  intro run
  rw [(quiet run).1]
  exact ⟨by simp, rfl⟩

theorem keeps_handler_pause (busy : life.Busy station) (delay : Int) (cancelled : Bool) :
    life.Keeps ⟨station, cancelled⟩ (Task.pause life.transport delay (.pause delay))
      (Stays station) := by
  apply Keeps.bind_stays
  · apply Keeps.silent
    · intro run
      rw [Task.checkpoint_apply]
      split <;> exact ⟨rfl, rfl⟩
    · intro run
      rw [Task.checkpoint_apply]
      split <;> exact ⟨by simp, rfl⟩
  · intro _ cancelled
    exact keeps_handler_call busy _ (.pause delay) (fun _ => rfl) cancelled

theorem keeps_handler_interrupt (busy : life.Busy station) (cancelled : Bool) :
    life.Keeps ⟨station, cancelled⟩ (Task.interrupt life.transport) (Stays station) := by
  intro run same
  cases live : run.live with
  | false =>
      refine ⟨[], _, ?_, .here _, ?_, ?_⟩ <;>
        simp [Task.interrupt, Task.bind_apply, live, same, Stays]
  | true =>
      refine ⟨[.interrupt], _, ?_, .move (busy cancelled _ .interrupt) (.here _), ?_, ?_⟩ <;>
        simp [Task.interrupt, Task.bind_apply, live, same, Stays, SessionEvent.fires]

/-- A handler stays where handlers may be at work. -/
theorem keeps_handler (busy : life.Busy station) (handler : Handler σ α) (cancelled : Bool) :
    life.Keeps ⟨station, cancelled⟩ (handler.toTask life.transport) (Stays station) := by
  induction handler generalizing cancelled with
  | done outcome => exact Keeps.ofOutcome (stays_mapError outcome cancelled)
  | checkThen next step =>
      intro run same
      exact step run.cancelled cancelled run same
  | sendThen text next step =>
      exact (keeps_handler_call busy _ (.send text) (fun _ => rfl) cancelled).bind_outcomeOf_stays
        step
  | pauseThen delay next step =>
      exact (keeps_handler_pause busy delay cancelled).bind_outcomeOf_stays step
  | cancelThen next step =>
      apply Keeps.bind_stays
      · refine Keeps.entry ?_ (busy cancelled .cancel .cancel) ?_
        · intro run
          simp [SessionEvent.fires]
        · intro run
          simp [Stays]
      · intro _
        exact step
  | interruptThen next step =>
      apply Keeps.bind_stays (keeps_handler_interrupt busy cancelled)
      intro _
      exact step
  | printOutThen line next step =>
      apply Keeps.bind_stays (Keeps.silent_stays fun _ => ⟨rfl, rfl, rfl⟩)
      intro _
      exact step
  | printErrThen line next step =>
      apply Keeps.bind_stays (Keeps.silent_stays fun _ => ⟨rfl, rfl, rfl⟩)
      intro _
      exact step
  | updateThen change next step =>
      intro run same
      exact step run.world cancelled { run with world := change run.world } same

end Handlers

/-! ## The parts of a stream -/

/-- How a part of a stream may end: where it returns, where a halt leaves it, and where it may be
cut off by its bounds. -/
def Ends (returns : α → Station → Prop) (halts : Halt → Station) (cut : Station → Prop) :
    Except Stop α → Standing → Prop
  | .ok value, last => returns value last.station
  | .error (.halted reason), last => last.station = halts reason
  | .error .unfinished, last => cut last.station

/-- Where a stream goes from work on its connection. -/
def afterWork (done : Station) : Except Halt α → Station
  | .ok _ => done
  | .error reason => .ending reason

/-- Where a stream goes from a receive that does not return. -/
def afterSilence : Halt → Station
  | .failed (.idle _) => .idled
  | reason => .ending reason

/-- Where a halt leaves a stream that is not within a session. -/
def afterPause : Halt → Station
  | .cancelled => .ended .cancelled
  | .failed failure => .broken failure

/-- Where a halt leaves a run. -/
def afterRun : Halt → Station
  | .cancelled => .stopped
  | .failed failure => .broken failure

section Parts

variable {life : Lifecycle σ}

theorem ends_mapError {done : Station} {cut : Station → Prop} {outcome : Except Halt α}
    {last : Standing} (there : last.station = afterWork done outcome) :
    Ends (fun _ => (· = done)) .ending cut (outcome.mapError .halted) last := by
  cases outcome <;> exact there

/-- A handler is run where it may be at work, and its end is an entry. -/
theorem keeps_handle {station done : Station} {handler : Handler σ Unit}
    {event : Except Halt Unit → SessionEvent} (busy : life.Busy station)
    (quiet : ∀ outcome, (event outcome).fires = false)
    (moves : ∀ cancelled outcome,
      life.Moves station cancelled (event outcome) (afterWork done outcome))
    (cancelled : Bool) :
    life.Keeps ⟨station, cancelled⟩ (life.handle handler event)
      (Ends (fun _ => (· = done)) .ending fun _ => False) := by
  apply (keeps_handler busy handler cancelled).bind_outcomeOf_stays
  intro outcome cancelled
  have noted : life.Keeps ⟨station, cancelled⟩ (Task.note (event outcome)) fun result last =>
      result = .ok () ∧ last.station = afterWork done outcome :=
    .entry (fun run => ⟨rfl, by simp [quiet]⟩) (moves cancelled outcome) fun run => ⟨rfl, rfl⟩
  apply noted.bind
  · intro _ standing fits
    exact Keeps.ofOutcome (ends_mapError fits.2)
  · intro stop standing fits
    cases fits.1

/-- A call on the connection whose outcome decides where the stream goes. -/
theorem keeps_call {station done : Station} {cancelled : Bool} {action : Call σ Unit}
    {event : CallReply Unit → SessionEvent} (fires : ∀ reply, (event reply).fires = reply.cancels)
    (moves : ∀ reply, life.Moves station cancelled (event reply) (afterWork done reply.outcome)) :
    life.Keeps ⟨station, cancelled⟩ (Task.call action event)
      (Ends (fun _ => (· = done)) .ending fun _ => False) := by
  apply Keeps.call fires
  intro world
  exact ⟨_, moves _, ends_mapError rfl⟩

/-- A report of a phase leads on. -/
theorem Keeps.enter_bind {station target : Station} {cancelled : Bool} {phase : Phase}
    {next : Unit → Task σ β} {ends : Except Stop β → Standing → Prop}
    (moves : life.Moves station cancelled (.phase phase) target)
    (rest : life.Keeps ⟨target, cancelled⟩ (next ()) ends) :
    life.Keeps ⟨station, cancelled⟩ (Task.enter phase >>= next) ends := by
  have entered : life.Keeps ⟨station, cancelled⟩ (Task.enter phase) fun result last =>
      result = .ok () ∧ last = ⟨target, cancelled⟩ :=
    .entry (fun run => ⟨rfl, by simp [SessionEvent.fires]⟩) moves fun run =>
      ⟨rfl, by simp [SessionEvent.fires]⟩
  apply entered.bind
  · intro _ standing fits
    cases fits.2
    exact rest
  · intro stop standing fits
    cases fits.1

/-- From a part that returns at a station, a stream goes on from there; it passes on how the part
halts. -/
theorem Keeps.bind_ends {source : Standing} {task : Task σ Unit} {next : Unit → Task σ β}
    {done : Station} {halts : Halt → Station} {cut : Station → Prop}
    {returns : β → Station → Prop}
    (keeps : life.Keeps source task (Ends (fun _ => (· = done)) halts fun _ => False))
    (rest : ∀ cancelled, life.Keeps ⟨done, cancelled⟩ (next ()) (Ends returns halts cut)) :
    life.Keeps source (task >>= next) (Ends returns halts cut) := by
  apply keeps.bind
  · intro _ standing there
    rcases standing with ⟨station, cancelled⟩
    cases there
    exact rest cancelled
  · intro stop standing there
    cases stop with
    | halted reason => exact there
    | unfinished => exact there.elim

theorem keeps_receive :
    life.Keeps ⟨.streaming, false⟩
      (Task.call (life.transport.receive life.options.messageTimeout)
        (.receive life.options.messageTimeout))
      (Ends (fun frame => (· = .received frame)) afterSilence fun _ => False) := by
  apply Keeps.call fun _ => rfl
  intro world
  rcases (life.transport.receive life.options.messageTimeout world).1 with ⟨outcome, cancels⟩
  rcases outcome with (_ | (reason | reason | reason)) | frame
  · exact ⟨_, .notReceived (by simp), rfl⟩
  · exact ⟨_, .idled, rfl⟩
  · exact ⟨_, .notReceived (by simp), rfl⟩
  · exact ⟨_, .notReceived (by simp), rfl⟩
  · exact ⟨_, .received, rfl⟩

theorem keeps_deliver (frame : String) (cancelled : Bool) :
    life.Keeps ⟨.received frame, cancelled⟩
      (do
        Task.note (.frame frame)
        life.handle (life.deliver frame) .delivered)
      (Ends (fun _ => (· = .streaming)) .ending fun _ => False) := by
  have handed : life.Keeps ⟨.received frame, cancelled⟩ (Task.note (.frame frame))
      (Ends (fun _ => (· = .delivering)) .ending fun _ => False) :=
    .entry (fun run => ⟨rfl, by simp [SessionEvent.fires]⟩) .handing fun run => rfl
  apply handed.bind_ends
  intro cancelled
  apply keeps_handle (fun _ _ => .whileDelivering) fun _ => rfl
  intro cancelled outcome
  cases outcome with
  | ok value => exact .delivered
  | error reason => exact .notDelivered

theorem keeps_answer (cancelled : Bool) :
    life.Keeps ⟨.idled, cancelled⟩
      (do
        Task.checkpoint
        Task.call (life.transport.send life.options.ping) (.ping life.options.ping))
      (Ends (fun _ => (· = .streaming)) .ending fun _ => False) := by
  apply Keeps.checkpoint_bind .idled
  · apply keeps_call fun _ => rfl
    intro reply
    rcases reply with ⟨outcome, cancels⟩
    cases outcome with
    | ok value => exact .pinged
    | error reason => exact .notPinged
  · exact fun last there => there

theorem keeps_round (cancelled : Bool) :
    life.Keeps ⟨.streaming, cancelled⟩ life.round
      (Ends (fun _ => (· = .streaming)) .ending fun _ => False) := by
  apply Keeps.checkpoint_bind .streaming
  · apply keeps_receive.bind_outcomeOf
    · intro outcome standing there
      rcases standing with ⟨station, cancelled⟩
      rcases outcome with (_ | (reason | reason | reason)) | frame <;> cases there
      · exact Keeps.throw rfl
      · exact keeps_answer cancelled
      · exact Keeps.throw rfl
      · exact Keeps.throw rfl
      · exact keeps_deliver frame cancelled
    · exact fun _ impossible => impossible
  · exact fun last there => there

theorem keeps_stream (rounds : Nat) (cancelled : Bool) :
    life.Keeps ⟨.streaming, cancelled⟩ (life.stream rounds)
      (Ends (fun _ _ => False) .ending (· = .streaming)) := by
  induction rounds generalizing cancelled with
  | zero => exact Keeps.throw rfl
  | succ rounds step => exact (keeps_round cancelled).bind_ends step

theorem keeps_connect (cancelled : Bool) :
    life.Keeps ⟨.opened, cancelled⟩
      (Task.call (life.transport.connect life.options.url life.options.connectTimeout)
        (.connect life.options.url life.options.connectTimeout))
      (Ends (fun _ => (· = .connected)) .ending fun _ => False) := by
  apply keeps_call fun _ => rfl
  intro reply
  rcases reply with ⟨outcome, cancels⟩
  cases outcome with
  | ok value => exact .connected
  | error reason => exact .notConnected

theorem keeps_subscribe (cancelled : Bool) :
    life.Keeps ⟨.subscribing, cancelled⟩ (life.handle life.subscribe .subscribed)
      (Ends (fun _ => (· = .subscribed)) .ending fun _ => False) := by
  apply keeps_handle (fun _ _ => .whileSubscribing) fun _ => rfl
  intro cancelled outcome
  cases outcome with
  | ok value => exact .subscribed
  | error reason => exact .notSubscribed

theorem keeps_converse (rounds : Nat) (cancelled : Bool) :
    life.Keeps ⟨.opened, cancelled⟩ (life.converse rounds)
      (Ends (fun _ _ => False) .ending (· = .streaming)) := by
  apply (keeps_connect cancelled).bind_ends
  intro cancelled
  apply Keeps.checkpoint_bind .connected
  · apply Keeps.enter_bind .subscribing
    apply (keeps_subscribe false).bind_ends
    intro cancelled
    exact Keeps.enter_bind .streaming (keeps_stream rounds cancelled)
  · exact fun last there => there

/-- Work that halts with a connection open is followed by its end. -/
theorem keeps_closing {source : Standing} {work : Task σ Unit} {cut : Station → Prop}
    (keeps : life.Keeps source work (Ends (fun _ _ => False) .ending cut)) :
    life.Keeps source (life.closing work) (Ends (fun _ _ => False) .ended cut) := by
  apply keeps.bind_outcomeOf
  · intro outcome standing there
    cases outcome with
    | ok value => exact there.elim
    | error reason =>
        rcases standing with ⟨station, cancelled⟩
        cases there
        have closes : life.Keeps ⟨.ending reason, cancelled⟩ (Task.disconnect life.transport)
            (Ends (fun _ => (· = .ended reason)) .ended fun _ => False) :=
          .entry (fun run => ⟨rfl, by simp [SessionEvent.fires]⟩) .disconnected fun run => rfl
        apply closes.bind_ends
        intro cancelled
        exact Keeps.throw rfl
  · exact fun standing there => there

theorem keeps_create (cancelled : Bool) :
    life.Keeps ⟨.opening, cancelled⟩ (Task.create life.transport)
      (Ends (fun _ => (· = .opened)) .ended fun _ => False) := by
  have called : life.Keeps ⟨.opening, cancelled⟩ (Task.call life.transport.create .create)
      (Ends (fun _ => (· = .opened)) .ended fun _ => False) := by
    apply Keeps.call fun _ => rfl
    intro world
    rcases (life.transport.create world).1 with ⟨outcome, cancels⟩
    cases outcome with
    | ok value => exact ⟨_, .created, rfl⟩
    | error reason => exact ⟨_, .notCreated, rfl⟩
  apply called.bind_ends
  intro cancelled
  exact Keeps.silent (fun _ => ⟨rfl, rfl⟩) fun _ => rfl

theorem keeps_session (rounds : Nat) :
    life.Keeps ⟨.between, false⟩ (life.session rounds)
      (Ends (fun _ _ => False) .ended (· = .streaming)) := by
  apply Keeps.enter_bind .connecting
  apply (keeps_create false).bind_ends
  intro cancelled
  exact keeps_closing (keeps_converse rounds cancelled)

theorem keeps_backOff (failure : Failure) (cancelled : Bool) :
    life.Keeps ⟨.ended (.failed failure), cancelled⟩ (life.backOff failure)
      (Ends (fun _ => (· = .between)) afterPause fun _ => False) := by
  have pauses : life.Keeps ⟨.backingOff, false⟩
      (Task.pause life.transport life.options.retryDelay (.backOff life.options.retryDelay))
      (Ends (fun _ => (· = .rested)) afterPause fun _ => False) := by
    apply Keeps.checkpoint_bind .backingOff
    · apply Keeps.call fun _ => rfl
      intro world
      rcases replied : (life.transport.pause life.options.retryDelay world).1 with
        ⟨outcome, cancels⟩
      rcases outcome with (_ | failure) | value
      · exact ⟨_, .woken, rfl⟩
      · exact ⟨_, .broken world replied, rfl⟩
      · exact ⟨_, .rested, rfl⟩
    · exact fun last there => there
  have prints (line : String) : life.Keeps ⟨.backingOff, false⟩ (Task.printErr line)
      fun result last => result = .ok () ∧ last = ⟨.backingOff, false⟩ :=
    .silent (fun _ => ⟨rfl, rfl⟩) fun _ => ⟨rfl, rfl⟩
  apply Keeps.checkpoint_bind (.ended failure)
  · apply Keeps.enter_bind .backingOff
    apply (prints _).bind
    · intro _ standing fits
      cases fits.2
      apply pauses.bind_ends
      intro cancelled
      have again : life.Keeps ⟨.rested, cancelled⟩ (Task.enter .disconnected)
          (Ends (fun _ => (· = .between)) afterPause fun _ => False) :=
        .entry (fun run => ⟨rfl, by simp [SessionEvent.fires]⟩) .again fun run => rfl
      exact again
    · intro stop standing fits
      cases fits.1
  · exact fun last there => there

theorem keeps_sessions (rounds count : Nat) (cancelled : Bool) :
    life.Keeps ⟨.between, cancelled⟩ (life.sessions rounds count)
      (Ends (fun _ _ => False) afterPause fun station =>
        station = .between ∨ station = .streaming) := by
  induction count generalizing cancelled with
  | zero => exact Keeps.throw (.inl rfl)
  | succ count step =>
      apply Keeps.checkpoint_bind .between
      · apply (keeps_session rounds).bind_outcomeOf
        · intro outcome standing there
          rcases standing with ⟨station, cancelled⟩
          rcases outcome with (_ | failure) | value
          · cases there
            exact Keeps.throw rfl
          · cases there
            exact (keeps_backOff failure cancelled).bind_ends step
          · exact there.elim
        · exact fun standing there => .inr there
      · exact fun last there => there

/-- A run keeps to the machine from between sessions on, and ends by cancellation unless a pause
after a failed session fails itself. -/
theorem keeps_run (bound : Nat) (cancelled : Bool) :
    life.Keeps ⟨.between, cancelled⟩ (life.run bound)
      (Ends (fun _ _ => False) afterRun fun station =>
        station = .between ∨ station = .streaming) := by
  apply (keeps_sessions bound bound cancelled).bind_outcomeOf
  · intro outcome standing there
    rcases standing with ⟨station, cancelled⟩
    rcases outcome with (_ | failure) | value
    · cases there
      exact Keeps.enter_bind .stopped (Keeps.throw rfl)
    · cases there
      exact Keeps.throw rfl
    · exact there.elim
  · exact fun standing there => there

end Parts

/-- At which station a run is left, by how it ends. -/
inductive Leaves : Except Stop Unit → Station → Prop
  | stopped : Leaves (.error (.halted .cancelled)) .stopped
  | broken (failure : Failure) : Leaves (.error (.halted (.failed failure))) (.broken failure)
  | cutBetween : Leaves (.error .unfinished) .between
  | cutStreaming : Leaves (.error .unfinished) .streaming

/-- What a run adds to the record is a path from between sessions to where the run is left. -/
theorem exists_path (life : Lifecycle σ) (bound : Nat) (start : Run σ) :
    ∃ record last, (life.run bound start).2.record = start.record ++ record ∧
      life.Path ⟨.between, start.cancelled⟩ record last ∧
      Leaves (life.run bound start).1 last.station := by
  obtain ⟨record, ⟨station, cancelled⟩, record_eq, path, -, ends⟩ :=
    life.keeps_run bound start.cancelled start rfl
  refine ⟨record, _, record_eq, path, ?_⟩
  generalize (life.run bound start).1 = outcome at ends ⊢
  rcases outcome with ((_ | failure) | _) | value
  · cases ends
    exact .stopped
  · cases ends
    exact .broken failure
  · rcases ends with there | there <;> cases there
    · exact .cutBetween
    · exact .cutStreaming
  · exact ends.elim

end Lifecycle

end SwapFeed
