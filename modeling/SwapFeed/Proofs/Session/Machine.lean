import SwapFeed.Session.Lifecycle

/-!
# The stream as a machine

What a stream may do next depends on where it stands and on whether its token is cancelled.  The
machine here has one station for every place between two entries of the record, and its moves say
which entry leads from which station to which other one.  Where the token is looked at, a stream on
a cancelled token goes on without an entry, and where it is not looked at, nothing asks for it.

The machine knows neither transports nor handlers: a call may have any reply, and a handler may do
what it likes until it ends as it likes.  Only the pause after a failed session is known to be one
of the transport, because what a stream does with its outcome depends on what such pauses promise.
-/

namespace SwapFeed

namespace SessionEvent

/-- Whether the token fires during an event. -/
def fires : SessionEvent → Bool
  | create reply => reply.cancels
  | connect _ _ reply => reply.cancels
  | receive _ reply => reply.cancels
  | ping _ reply => reply.cancels
  | backOff _ reply => reply.cancels
  | send _ reply => reply.cancels
  | pause _ reply => reply.cancels
  | cancel => true
  | phase _ => false
  | disconnect => false
  | subscribed _ => false
  | frame _ => false
  | delivered _ => false
  | interrupt => false

/-- What handlers do, and the stream itself never does. -/
inductive ByHandler : SessionEvent → Prop
  | send (text : String) (reply : CallReply Unit) : ByHandler (.send text reply)
  | pause (delay : Int) (reply : CallReply Unit) : ByHandler (.pause delay reply)
  | cancel : ByHandler .cancel
  | interrupt : ByHandler .interrupt

end SessionEvent

namespace Lifecycle

/-- Where a stream stands between two entries of its record. -/
inductive Station where
  /-- No session is under way. -/
  | between
  | opening
  | opened
  | connected
  | subscribing
  | subscribed
  | streaming
  /-- A frame has come and is not yet handed on. -/
  | received (frame : String)
  | delivering
  /-- A window without a frame has passed and is not yet answered. -/
  | idled
  /-- Work on the connection has halted, and the connection is still open. -/
  | ending (halt : Halt)
  /-- The session is over, and nothing is open. -/
  | ended (halt : Halt)
  | backingOff
  | rested
  /-- The pause after a failed session has failed itself. -/
  | broken (failure : Failure)
  | stopped
  deriving DecidableEq, Repr

namespace Station

/-- Whether a connection is open. -/
def holds : Station → Bool
  | opened | connected | subscribing | subscribed | streaming => true
  | received _ | delivering | idled | ending _ => true
  | between | opening | ended _ | backingOff | rested | broken _ | stopped => false

/-- Where a cancelled token is noticed, and where a stream goes from there. -/
inductive Heeds : Station → Station → Prop
  | between : Heeds .between (.ended .cancelled)
  | connected : Heeds .connected (.ending .cancelled)
  | streaming : Heeds .streaming (.ending .cancelled)
  | idled : Heeds .idled (.ending .cancelled)
  | ended (failure : Failure) : Heeds (.ended (.failed failure)) (.ended .cancelled)
  | backingOff : Heeds .backingOff (.ended .cancelled)

theorem Heeds.holds_eq {source target : Station} (heeds : source.Heeds target) :
    source.holds = target.holds := by
  cases heeds <;> rfl

end Station

variable {σ : Type}

/-- Which entry leads from a station to another one.  Entries that are made only on a live token
have `false` in the place of whether it is cancelled. -/
inductive Moves (life : Lifecycle σ) : Station → Bool → SessionEvent → Station → Prop
  | connecting : Moves life .between false (.phase .connecting) .opening
  | created {cancelled cancels : Bool} :
      Moves life .opening cancelled (.create ⟨.ok (), cancels⟩) .opened
  | notCreated {cancelled cancels : Bool} {halt : Halt} :
      Moves life .opening cancelled (.create ⟨.error halt, cancels⟩) (.ended halt)
  | connected {cancelled cancels : Bool} :
      Moves life .opened cancelled
        (.connect life.options.url life.options.connectTimeout ⟨.ok (), cancels⟩) .connected
  | notConnected {cancelled cancels : Bool} {halt : Halt} :
      Moves life .opened cancelled
        (.connect life.options.url life.options.connectTimeout ⟨.error halt, cancels⟩)
        (.ending halt)
  | subscribing : Moves life .connected false (.phase .subscribing) .subscribing
  | whileSubscribing {cancelled : Bool} {event : SessionEvent} (byHandler : event.ByHandler) :
      Moves life .subscribing cancelled event .subscribing
  | subscribed {cancelled : Bool} :
      Moves life .subscribing cancelled (.subscribed (.ok ())) .subscribed
  | notSubscribed {cancelled : Bool} {halt : Halt} :
      Moves life .subscribing cancelled (.subscribed (.error halt)) (.ending halt)
  | streaming {cancelled : Bool} :
      Moves life .subscribed cancelled (.phase .streaming) .streaming
  | received {cancels : Bool} {frame : String} :
      Moves life .streaming false (.receive life.options.messageTimeout ⟨.ok frame, cancels⟩)
        (.received frame)
  | idled {cancels : Bool} {reason : String} :
      Moves life .streaming false
        (.receive life.options.messageTimeout ⟨.error (.failed (.idle reason)), cancels⟩) .idled
  | notReceived {cancels : Bool} {halt : Halt}
      (notIdle : ∀ reason, halt ≠ .failed (.idle reason)) :
      Moves life .streaming false
        (.receive life.options.messageTimeout ⟨.error halt, cancels⟩) (.ending halt)
  | handing {cancelled : Bool} {frame : String} :
      Moves life (.received frame) cancelled (.frame frame) .delivering
  | whileDelivering {cancelled : Bool} {event : SessionEvent} (byHandler : event.ByHandler) :
      Moves life .delivering cancelled event .delivering
  | delivered {cancelled : Bool} :
      Moves life .delivering cancelled (.delivered (.ok ())) .streaming
  | notDelivered {cancelled : Bool} {halt : Halt} :
      Moves life .delivering cancelled (.delivered (.error halt)) (.ending halt)
  | pinged {cancels : Bool} :
      Moves life .idled false (.ping life.options.ping ⟨.ok (), cancels⟩) .streaming
  | notPinged {cancels : Bool} {halt : Halt} :
      Moves life .idled false (.ping life.options.ping ⟨.error halt, cancels⟩) (.ending halt)
  | disconnected {cancelled : Bool} {halt : Halt} :
      Moves life (.ending halt) cancelled .disconnect (.ended halt)
  | backingOff {failure : Failure} :
      Moves life (.ended (.failed failure)) false (.phase .errorBackoff) .backingOff
  | rested {cancels : Bool} :
      Moves life .backingOff false (.backOff life.options.retryDelay ⟨.ok (), cancels⟩) .rested
  | woken {cancels : Bool} :
      Moves life .backingOff false
        (.backOff life.options.retryDelay ⟨.error .cancelled, cancels⟩) (.ended .cancelled)
  | broken {cancels : Bool} {failure : Failure} (world : σ)
      (reply : (life.transport.pause life.options.retryDelay world).1 =
        ⟨.error (.failed failure), cancels⟩) :
      Moves life .backingOff false
        (.backOff life.options.retryDelay ⟨.error (.failed failure), cancels⟩) (.broken failure)
  | again {cancelled : Bool} : Moves life .rested cancelled (.phase .disconnected) .between
  | stopped {cancelled : Bool} :
      Moves life (.ended .cancelled) cancelled (.phase .disconnected) .stopped

/-- Where a stream stands, and whether its token is cancelled. -/
structure Standing where
  station : Station
  cancelled : Bool

/-- The entries on the way from one standing to another. -/
inductive Path (life : Lifecycle σ) : Standing → List SessionEvent → Standing → Prop
  | here (standing : Standing) : Path life standing [] standing
  | heed {source target : Station} {record : List SessionEvent} {last : Standing}
      (heeds : source.Heeds target) (rest : Path life ⟨target, true⟩ record last) :
      Path life ⟨source, true⟩ record last
  | move {source target : Station} {cancelled : Bool} {event : SessionEvent}
      {record : List SessionEvent} {last : Standing}
      (moves : life.Moves source cancelled event target)
      (rest : Path life ⟨target, cancelled || event.fires⟩ record last) :
      Path life ⟨source, cancelled⟩ (event :: record) last

namespace Path

variable {life : Lifecycle σ} {first middle last : Standing} {before after : List SessionEvent}

theorem append (path : life.Path first before middle) (rest : life.Path middle after last) :
    life.Path first (before ++ after) last := by
  induction path with
  | here standing => exact rest
  | heed heeds _ step => exact .heed heeds (step rest)
  | move moves _ step => exact .move moves (step rest)

/-- A path with an entry in its record passes the move that makes it. -/
theorem split {record : List SessionEvent} (path : life.Path first record last)
    {event : SessionEvent} (record_eq : record = before ++ event :: after) :
    ∃ source cancelled target, life.Path first before ⟨source, cancelled⟩ ∧
      life.Moves source cancelled event target ∧
      life.Path ⟨target, cancelled || event.fires⟩ after last := by
  induction path generalizing before with
  | here standing => simp at record_eq
  | heed heeds _ step =>
      obtain ⟨source, cancelled, target, path, moves, rest⟩ := step record_eq
      exact ⟨source, cancelled, target, .heed heeds path, moves, rest⟩
  | @move source target cancelled head record last moves rest step =>
      cases before with
      | nil =>
          simp only [List.nil_append, List.cons.injEq] at record_eq
          rcases record_eq with ⟨rfl, rfl⟩
          exact ⟨source, cancelled, target, .here _, moves, rest⟩
      | cons earlier before =>
          simp only [List.cons_append, List.cons.injEq] at record_eq
          rcases record_eq with ⟨rfl, record_eq⟩
          obtain ⟨source, cancelled, target, path, moves', rest⟩ := step record_eq
          exact ⟨source, cancelled, target, .move moves path, moves', rest⟩

/-- A path stands somewhere after each part of its record. -/
theorem cut (path : life.Path first (before ++ after) last) :
    ∃ middle, life.Path first before middle ∧ life.Path middle after last := by
  generalize record_eq : before ++ after = record at path
  induction path generalizing before with
  | here standing =>
      obtain ⟨rfl, rfl⟩ := List.append_eq_nil_iff.mp record_eq
      exact ⟨standing, .here _, .here _⟩
  | heed heeds _ step =>
      obtain ⟨middle, path, rest⟩ := step record_eq
      exact ⟨middle, .heed heeds path, rest⟩
  | move moves rest step =>
      cases before with
      | nil =>
          cases record_eq
          exact ⟨_, .here _, .move moves rest⟩
      | cons event before =>
          injection record_eq with same record_eq
          subst same
          obtain ⟨middle, path, rest⟩ := step record_eq
          exact ⟨middle, .move moves path, rest⟩

/-- How a path comes to its end: it is where it started, or the token was heeded last, or a move was
made last. -/
theorem arrives {record : List SessionEvent} (path : life.Path first record last) :
    record = [] ∧ last = first ∨
      (∃ source : Station, source.Heeds last.station ∧ last.cancelled = true ∧
        life.Path first record ⟨source, true⟩) ∨
      ∃ before event source cancelled, record = before ++ [event] ∧
        life.Path first before ⟨source, cancelled⟩ ∧
        life.Moves source cancelled event last.station ∧
        last.cancelled = (cancelled || event.fires) := by
  induction path with
  | here standing => exact .inl ⟨rfl, rfl⟩
  | heed heeds rest step =>
      rcases step with ⟨rfl, rfl⟩ | ⟨source, heeded, cancelled, path⟩ | moved
      · exact .inr (.inl ⟨_, heeds, rfl, .here _⟩)
      · exact .inr (.inl ⟨source, heeded, cancelled, .heed heeds path⟩)
      · rcases moved with ⟨before, event, source, cancelled, rfl, path, moves, fired⟩
        exact .inr (.inr ⟨before, event, source, cancelled, rfl, .heed heeds path, moves, fired⟩)
  | @move source target cancelled event record last moves rest step =>
      rcases step with ⟨rfl, rfl⟩ | ⟨source, heeded, cancelled, path⟩ | moved
      · exact .inr (.inr ⟨[], event, source, cancelled, rfl, .here _, moves, rfl⟩)
      · exact .inr (.inl ⟨source, heeded, cancelled, .move moves path⟩)
      · rcases moved with ⟨before, later, source, cancelled, rfl, path, moves', fired⟩
        exact .inr (.inr ⟨event :: before, later, source, cancelled, rfl, .move moves path, moves',
          fired⟩)

/-- The token is cancelled at the end if it was at first or if it fired on the way. -/
theorem cancelled_eq {record : List SessionEvent} (path : life.Path first record last) :
    last.cancelled = (first.cancelled || record.any (·.fires)) := by
  induction path with
  | here standing => simp
  | heed heeds rest step => exact step
  | move moves rest step => rw [step, List.any_cons, Bool.or_assoc]

end Path

end Lifecycle

end SwapFeed
