import Mathlib.Control.Monad.Basic
import SwapFeed.Proofs.Session.Conduct
import SwapFeed.Session.Script

/-!
# Phases of a stream

The phases that a stream reports tell how far each of its sessions came.  A session connects,
subscribes and streams, in this order, for as long as nothing fails.  A failed session is followed
by one pause, and a cancelled one by nothing.

The invariant is what has been reported since the last failed session.  It depends on the station
alone, and at the stations where it matters there is only one possibility.
-/

namespace SwapFeed

namespace SessionEvent

/-- The phase that is reported. -/
def phase? : SessionEvent → Option Phase
  | phase reported => some reported
  | _ => none

/-- What is done to get a frame: to wait for one, and to answer an empty window. -/
def awaitsFrame : SessionEvent → Bool
  | receive .. | ping .. => true
  | _ => false

/-- What makes a session fail.  A window without a frame does not. -/
def failsSession : SessionEvent → Bool
  | receive _ ⟨.error (.failed (.idle _)), _⟩ => false
  | create ⟨.error (.failed _), _⟩ | connect _ _ ⟨.error (.failed _), _⟩ => true
  | receive _ ⟨.error (.failed _), _⟩ | ping _ ⟨.error (.failed _), _⟩ => true
  | subscribed (.error (.failed _)) | delivered (.error (.failed _)) => true
  | _ => false

end SessionEvent

/-- The phases that a record reports, in order. -/
def phasesOf (record : List SessionEvent) : List Phase := record.filterMap (·.phase?)

theorem phasesOf_append (before after : List SessionEvent) :
    phasesOf (before ++ after) = phasesOf before ++ phasesOf after :=
  List.filterMap_append

namespace Phase

/-- What a session reports, by how far it comes. -/
def advances : List (List Phase) :=
  [[connecting], [connecting, subscribing], [connecting, subscribing, streaming]]

/-- What a session that comes so far and fails reports. -/
def failing (advance : List Phase) : List Phase := advance ++ [errorBackoff, disconnected]

/-- What is reported of the session that cancellation cuts off, if there is one. -/
def cutOffs : List (List Phase) := [] :: advances ++ advances.map (· ++ [errorBackoff])

/-- The reports of a run: some failed sessions, then the one that cancellation cuts off if there is
one, and at last that nothing is connected. -/
def TellRun (phases : List Phase) : Prop :=
  ∃ (failed : List (List Phase)) (cutOff : List Phase),
    (∀ advance ∈ failed, advance ∈ advances) ∧ cutOff ∈ cutOffs ∧
    phases = failed.flatMap failing ++ cutOff ++ [disconnected]

end Phase

/-- What a scheduler promises: a pause passes or ends by cancellation, and does not fail. -/
def Transport.PausesWithoutFailure {σ : Type} (transport : Transport σ) : Prop :=
  ∀ delay world failure, (transport.pause delay world).1.outcome ≠ .error (.failed failure)

theorem Stage.transport_pausesWithoutFailure : Stage.transport.PausesWithoutFailure := by
  intro delay stage failure
  simp only [Stage.transport, Stage.pause]
  split
  · nofun
  · nofun

open Phase

namespace Lifecycle

variable {σ : Type} {life : Lifecycle σ}

/-- What may have been reported since the last failed session. -/
def Station.sinceFailure : Station → List (List Phase)
  | between => [[]]
  | opening | opened | connected => [[.connecting]]
  | subscribing | subscribed => [[.connecting, .subscribing]]
  | streaming | received _ | delivering | idled => [[.connecting, .subscribing, .streaming]]
  | ending _ | ended (.failed _) => advances
  | ended .cancelled => cutOffs
  | backingOff | rested | broken _ => advances.map (· ++ [.errorBackoff])
  | stopped => cutOffs.map (· ++ [.disconnected])

/-- Phases that a stream at a station may have reported: some failed sessions, and then what belongs
to the station. -/
def Station.Reports (station : Station) (phases : List Phase) : Prop :=
  ∃ (failed : List (List Phase)) (current : List Phase),
    (∀ advance ∈ failed, advance ∈ advances) ∧ current ∈ station.sinceFailure ∧
    phases = failed.flatMap failing ++ current

theorem Station.mem_sinceFailure_ended {current : List Phase} (halt : Halt)
    (advance : current ∈ advances) : current ∈ (Station.ended halt).sinceFailure := by
  cases halt with
  | cancelled => exact List.mem_cons_of_mem _ (List.mem_append_left _ advance)
  | failed failure => exact advance

theorem Station.Heeds.mem_sinceFailure {source target : Station} (heeds : source.Heeds target)
    {current : List Phase} (member : current ∈ source.sinceFailure) :
    current ∈ target.sinceFailure := by
  cases heeds with
  | ended failure => exact Station.mem_sinceFailure_ended .cancelled member
  | _ => revert current; decide

namespace Moves

variable {source target : Station} {cancelled : Bool} {event : SessionEvent}

/-- A move adds its phase to what is reported of a session, or it is the last one of a failed
session. -/
theorem mem_sinceFailure (moves : life.Moves source cancelled event target) {current : List Phase}
    (member : current ∈ source.sinceFailure) :
    current ++ phasesOf [event] ∈ target.sinceFailure ∨
      target = .between ∧ ∃ advance ∈ advances, current ++ phasesOf [event] = failing advance := by
  cases moves with
  | again =>
      obtain ⟨advance, advanced, rfl⟩ := List.mem_map.mp member
      refine .inr ⟨rfl, advance, advanced, ?_⟩
      simp [phasesOf, SessionEvent.phase?, failing]
  | notCreated =>
      cases List.mem_singleton.mp member
      exact .inl (Station.mem_sinceFailure_ended _ List.mem_cons_self)
  | disconnected =>
      rw [show phasesOf [SessionEvent.disconnect] = [] from rfl, List.append_nil]
      exact .inl (Station.mem_sinceFailure_ended _ member)
  | backingOff => exact .inl (List.mem_map.mpr ⟨current, member, rfl⟩)
  | stopped => exact .inl (List.mem_map.mpr ⟨current, member, rfl⟩)
  | woken => exact .inl (List.mem_append_right _ ((List.append_nil current).symm ▸ member))
  | whileSubscribing byHandler =>
      cases byHandler <;> exact .inl ((List.append_nil current).symm ▸ member)
  | whileDelivering byHandler =>
      cases byHandler <;> exact .inl ((List.append_nil current).symm ▸ member)
  | _ => simp_all [Station.sinceFailure, phasesOf, SessionEvent.phase?, advances]

theorem reports (moves : life.Moves source cancelled event target) {phases : List Phase}
    (reports : source.Reports phases) : target.Reports (phases ++ phasesOf [event]) := by
  rcases reports with ⟨failed, current, advanced, member, rfl⟩
  rw [List.append_assoc]
  rcases moves.mem_sinceFailure member with member | ⟨rfl, advance, member, ended⟩
  · exact ⟨failed, _, advanced, member, rfl⟩
  · refine ⟨failed ++ [advance], [], ?_, List.mem_singleton_self _, ?_⟩
    · intro other there
      rcases List.mem_append.mp there with there | there
      · exact advanced other there
      · cases List.mem_singleton.mp there
        exact member
    · rw [ended, List.flatMap_append]
      simp

/-- A session that fails is over, or only its connection is left to be closed. -/
theorem of_failsSession (moves : life.Moves source cancelled event target)
    (fails : event.failsSession = true) :
    ∃ failure, target = .ending (.failed failure) ∨ target = .ended (.failed failure) := by
  cases moves with
  | @notCreated _ _ halt =>
      cases halt with
      | cancelled => cases fails
      | failed failure => exact ⟨failure, .inr rfl⟩
  | @notConnected _ _ halt | @notSubscribed _ halt | @notReceived _ halt | @notDelivered _ halt
  | @notPinged _ halt =>
      cases halt with
      | cancelled => cases fails
      | failed failure => exact ⟨failure, .inl rfl⟩
  | whileSubscribing byHandler => cases byHandler <;> cases fails
  | whileDelivering byHandler => cases byHandler <;> cases fails
  | _ => cases fails

end Moves

namespace Path

variable {first last : Standing} {record : List SessionEvent}

theorem reports (path : life.Path first record last) {phases : List Phase}
    (reports : first.station.Reports phases) :
    last.station.Reports (phases ++ phasesOf record) := by
  induction path generalizing phases with
  | here standing => simpa [phasesOf] using reports
  | heed heeds rest step =>
      rcases reports with ⟨failed, current, advanced, member, rfl⟩
      exact step ⟨failed, current, advanced, heeds.mem_sinceFailure member, rfl⟩
  | @move source target cancelled event record last moves rest step =>
      rw [← List.singleton_append, phasesOf_append, ← List.append_assoc]
      exact step (moves.reports reports)

/-- From the start of a run, a record reports what belongs to the station where it leads. -/
theorem reports_of_start {cancelled : Bool}
    (path : life.Path ⟨.between, cancelled⟩ record last) :
    last.station.Reports (phasesOf record) :=
  path.reports ⟨[], [], by simp, List.mem_singleton_self _, rfl⟩

end Path

/-! ## Pauses -/

/-- Stations from which no pause is made without another connection. -/
def Station.pauseless : Station → Bool
  | between | opening | ended .cancelled | rested | broken _ | stopped => true
  | opened | connected | subscribing | subscribed | streaming | received _ | delivering => false
  | idled | ending _ | ended (.failed _) | backingOff => false

/-- What follows a failed session: its connection is closed if there is one, the failure is
reported, and there is one pause before another connection is asked for. -/
def Retries (life : Lifecycle σ) (record : List SessionEvent) : Prop :=
  ∃ closing reply later,
    record = closing ++
      .phase .errorBackoff :: .backOff life.options.retryDelay reply :: later ∧
    (∀ event ∈ closing, event = .disconnect) ∧
    ∀ before delay reply after, later = before ++ .backOff delay reply :: after →
      ∃ creation, .create creation ∈ before

/-- The pause that follows a failed session. -/
theorem Moves.of_backingOff {target : Station} {cancelled : Bool} {event : SessionEvent}
    (moves : life.Moves .backingOff cancelled event target) :
    ∃ reply, event = .backOff life.options.retryDelay reply ∧ target.pauseless = true := by
  cases moves with
  | rested | woken | broken => exact ⟨_, rfl, rfl⟩

namespace Path

variable {first last : Standing} {record : List SessionEvent}

theorem pauseless (path : life.Path first record last)
    (pauseless : first.station.pauseless = true) :
    last.station.pauseless = true ∨ ∃ creation, .create creation ∈ record := by
  induction path with
  | here standing => exact .inl pauseless
  | heed heeds rest step =>
      apply step
      cases heeds <;> first | rfl | cases pauseless
  | move moves rest step =>
      cases moves with
      | created | notCreated => exact .inr ⟨_, List.mem_cons_self⟩
      | connecting | again | stopped =>
          rcases step rfl with later | ⟨creation, member⟩
          · exact .inl later
          · exact .inr ⟨creation, List.mem_cons_of_mem _ member⟩
      | _ => cases pauseless

/-- Between two pauses there is another connection, or the attempt to get one. -/
theorem creation_before_backOff (path : life.Path first record last)
    (pauseless : first.station.pauseless = true) {before after : List SessionEvent} {delay : Int}
    {reply : CallReply Unit} (split : record = before ++ .backOff delay reply :: after) :
    ∃ creation, .create creation ∈ before := by
  obtain ⟨source, cancelled, target, earlier, moves, -⟩ := path.split split
  rcases earlier.pauseless pauseless with there | created
  · cases moves with
    | rested | woken | broken => cases there
    | whileSubscribing byHandler => cases byHandler
    | whileDelivering byHandler => cases byHandler
  · exact created

/-- A session that has failed on a live token is followed by a pause. -/
theorem retries_of_ended {failure : Failure} {outcome : Except Stop Unit}
    (path : life.Path ⟨.ended (.failed failure), false⟩ record last)
    (leaves : Leaves outcome last.station) : life.Retries record := by
  cases path with
  | here => cases leaves
  | move moves rest =>
      cases moves with
      | backingOff =>
          change life.Path ⟨.backingOff, false⟩ _ _ at rest
          cases rest with
          | here => cases leaves
          | move moves rest =>
              obtain ⟨reply, rfl, pauseless⟩ := moves.of_backingOff
              refine ⟨[], reply, _, rfl, by simp, ?_⟩
              intro before delay reply after split
              exact rest.creation_before_backOff pauseless split

theorem retries_of_ending {failure : Failure} {outcome : Except Stop Unit}
    (path : life.Path ⟨.ending (.failed failure), false⟩ record last)
    (leaves : Leaves outcome last.station) : life.Retries record := by
  cases path with
  | here => cases leaves
  | move moves rest =>
      cases moves with
      | disconnected =>
          change life.Path ⟨.ended (.failed failure), false⟩ _ _ at rest
          obtain ⟨closing, reply, later, rfl, closes, once⟩ := rest.retries_of_ended leaves
          exact ⟨.disconnect :: closing, reply, later, rfl, List.forall_mem_cons.mpr ⟨rfl, closes⟩,
            once⟩

end Path

/-! ## Pauses that fail -/

/-- The pause after a failed session fails itself, and the run ends there. -/
def BreaksDown (life : Lifecycle σ) (record : List SessionEvent) : Prop :=
  ∃ before world failure cancels,
    (life.transport.pause life.options.retryDelay world).1 = ⟨.error (.failed failure), cancels⟩ ∧
      record = before ++ [.backOff life.options.retryDelay ⟨.error (.failed failure), cancels⟩]

theorem Path.breaksDown {cancelled : Bool} {record : List SessionEvent} {failure : Failure}
    {last : Standing} (path : life.Path ⟨.between, cancelled⟩ record last)
    (broken : last.station = .broken failure) : life.BreaksDown record := by
  rcases path.arrives with ⟨-, rfl⟩ | ⟨source, heeds, -⟩ | moved
  · cases broken
  · rw [broken] at heeds
    cases heeds
  · rcases moved with ⟨before, event, source, cancelled, rfl, -, moves, -⟩
    rw [broken] at moves
    cases moves with
    | broken world reply => exact ⟨before, world, failure, _, reply, rfl⟩

theorem not_breaksDown (pauses : life.transport.PausesWithoutFailure)
    {record : List SessionEvent} : ¬life.BreaksDown record := by
  rintro ⟨before, world, failure, cancels, reply, -⟩
  exact pauses life.options.retryDelay world failure (by rw [reply])

/-! ## Whole runs -/

namespace Path

variable {cancelled live : Bool} {record : List SessionEvent}

/-- A stream is connected just after its connect has returned. -/
theorem connect_before (path : life.Path ⟨.between, cancelled⟩ record ⟨.connected, live⟩) :
    ∃ earlier cancels, record = earlier ++
      [.connect life.options.url life.options.connectTimeout ⟨.ok (), cancels⟩] := by
  rcases path.arrives with ⟨-, there⟩ | ⟨source, heeds, -⟩ | moved
  · cases there
  · cases heeds
  · rcases moved with ⟨earlier, event, source, cancelled, rfl, -, moves, -⟩
    cases moves with
    | connected => exact ⟨earlier, _, rfl⟩

/-- A stream is subscribed just after its subscribe handler has returned. -/
theorem subscribed_before (path : life.Path ⟨.between, cancelled⟩ record ⟨.subscribed, live⟩) :
    ∃ earlier, record = earlier ++ [.subscribed (.ok ())] := by
  rcases path.arrives with ⟨-, there⟩ | ⟨source, heeds, -⟩ | moved
  · cases there
  · cases heeds
  · rcases moved with ⟨earlier, event, source, cancelled, rfl, -, moves, -⟩
    cases moves with
    | subscribed => exact ⟨earlier, rfl⟩

end Path

/-- The phases of a run that ends are those of some failed sessions, then those of a session that
cancellation cuts off if there is one, and then that nothing is connected, as long as the scheduler
keeps its promise; only where the pause after a failed session fails itself, a run ends without the
last report.  A stream subscribes when its connect has returned
and streams when its subscribe handler has, and it waits for frames, or pings, only while it
streams.  A session that fails on a live token is followed by exactly one pause before another
connection is asked for. -/
theorem phases_follow_sessions (life : Lifecycle σ) (bound : Nat) (start : Run σ) :
    ∃ record, (life.run bound start).2.record = start.record ++ record ∧
      ((life.run bound start).1 ≠ .error .unfinished →
        TellRun (phasesOf record) ∨ life.BreaksDown record) ∧
      (life.transport.PausesWithoutFailure → (life.run bound start).1 ≠ .error .unfinished →
        TellRun (phasesOf record)) ∧
      ∀ before event after, record = before ++ event :: after →
        (event = .phase .subscribing → ∃ earlier cancels, before = earlier ++
          [.connect life.options.url life.options.connectTimeout ⟨.ok (), cancels⟩]) ∧
        (event = .phase .streaming → ∃ earlier, before = earlier ++ [.subscribed (.ok ())]) ∧
        (event.awaitsFrame = true → (phasesOf before).getLast? = some .streaming) ∧
        (event.failsSession = true →
          (start.cancelled || (before ++ [event]).any (·.fires)) = false →
          life.Retries after) := by
  obtain ⟨record, last, record_eq, path, leaves⟩ := life.exists_path bound start
  have ended : (life.run bound start).1 ≠ .error .unfinished →
      TellRun (phasesOf record) ∨ life.BreaksDown record := by
    intro finished
    generalize (life.run bound start).1 = outcome at leaves finished
    rcases last with ⟨station, cancelled⟩
    cases leaves with
    | stopped =>
        obtain ⟨failed, current, advanced, member, told⟩ := path.reports_of_start
        obtain ⟨cutOff, cut, rfl⟩ := List.mem_map.mp member
        exact .inl ⟨failed, cutOff, advanced, cut, by rw [told, List.append_assoc]⟩
    | broken failure => exact .inr (path.breaksDown rfl)
    | cutBetween => exact (finished rfl).elim
    | cutStreaming => exact (finished rfl).elim
  refine ⟨record, record_eq, ended, ?_, ?_⟩
  · intro pauses finished
    exact (ended finished).resolve_right (not_breaksDown pauses)
  · intro before event after split
    obtain ⟨source, cancelled, target, earlier, moves, rest⟩ := path.split split
    refine ⟨?_, ?_, ?_, ?_⟩
    · rintro rfl
      cases moves with
      | subscribing => exact earlier.connect_before
      | whileSubscribing byHandler | whileDelivering byHandler => cases byHandler
    · rintro rfl
      cases moves with
      | streaming => exact earlier.subscribed_before
      | whileSubscribing byHandler | whileDelivering byHandler => cases byHandler
    · intro awaits
      have waits : source = .streaming ∨ source = .idled := by
        cases moves with
        | received | idled | notReceived => exact .inl rfl
        | pinged | notPinged => exact .inr rfl
        | whileSubscribing byHandler | whileDelivering byHandler => cases byHandler <;> cases awaits
        | _ => cases awaits
      obtain ⟨failed, current, -, member, told⟩ := earlier.reports_of_start
      have streams : current = [.connecting, .subscribing, .streaming] := by
        rcases waits with rfl | rfl <;> exact List.mem_singleton.mp member
      rw [told, streams, List.getLast?_append]
      rfl
    · intro fails live
      have still : (cancelled || event.fires) = false := by
        have token : cancelled = (start.cancelled || before.any (·.fires)) := earlier.cancelled_eq
        rw [token, Bool.or_assoc]
        simpa using live
      obtain ⟨failure, rfl | rfl⟩ := moves.of_failsSession fails
      · rw [still] at rest
        exact rest.retries_of_ending leaves
      · rw [still] at rest
        exact rest.retries_of_ended leaves

/-- A stream that subscribes with one text and prints what it hears. -/
def resetStream : Lifecycle Stage where
  options := { url := "wss://stream" }
  transport := Stage.transport
  subscribe := Handler.send "subscribe"
  deliver := Handler.printOut

/-- A first connection is refused, and a second one breaks after a frame.  The token fires in the
call that sees it break. -/
def resetStart : Run Stage where
  world :=
    { upcoming :=
        [{ connectFails := some "refused" },
          { steps := [(.frame "quote", false), (.fails (.transport "reset"), true)] }] }

/-- The refused session is reported as failed, and the broken one as cut off. -/
theorem phases_follow_sessions_reset :
    resetStream.transport.PausesWithoutFailure ∧
      phasesOf (resetStream.run 4 resetStart).2.record =
        failing [connecting] ++ [connecting, subscribing, streaming] ++ [disconnected] ∧
      TellRun (phasesOf (resetStream.run 4 resetStart).2.record) := by
  have halted : (resetStream.run 4 resetStart).1 = .error (.halted .cancelled) := by
    decide +kernel
  obtain ⟨record, record_eq, -, tells, -⟩ := phases_follow_sessions resetStream 4 resetStart
  rw [show resetStart.record = [] from rfl, List.nil_append] at record_eq
  rw [record_eq]
  refine ⟨Stage.transport_pausesWithoutFailure, ?_, ?_⟩
  · rw [← record_eq]
    decide +kernel
  · exact tells Stage.transport_pausesWithoutFailure (by rw [halted]; nofun)

end Lifecycle

end SwapFeed
