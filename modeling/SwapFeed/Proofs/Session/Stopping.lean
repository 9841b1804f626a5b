import SwapFeed.Proofs.Session.Bound
import SwapFeed.Proofs.Session.Phases

/-!
# Cancellation is final

When the token of a stream fires, the stream only tidies up: it asks for nothing any more, neither
for a connection nor for a frame nor for time, and hands on at most the frame of the call during
which the token fired.  Then it ends by cancellation, whatever has failed besides.

What the machine does on a cancelled token depends on the station alone.  It is quiet from every
station that it can be in when a call has come back, but for two: a frame that has come is handed
on, and a connection that was created is connected, because the token is not looked at between the
creation of a connection and its use.
-/

namespace SwapFeed

namespace SessionEvent

/-- What a stream does to go on: it asks for a connection, for a frame or for time, or says that it
will try again. -/
def goesOn : SessionEvent → Bool
  | create _ | receive .. | ping .. | backOff .. | phase .errorBackoff => true
  | phase .disconnected | phase .connecting | phase .subscribing | phase .streaming => false
  | connect .. | disconnect | subscribed _ | frame _ | delivered _ => false
  | send .. | pause .. | cancel | interrupt => false

def connects : SessionEvent → Bool
  | connect .. => true
  | _ => false

/-- The frame that is handed to the frame handler. -/
def frame? : SessionEvent → Option String
  | frame text => some text
  | _ => none

/-- What a stream may still do when it tidies up. -/
structure Quiet (event : SessionEvent) : Prop where
  goesOn : event.goesOn = false
  connects : event.connects = false
  frame? : event.frame? = none

theorem frames_of_quiet {record : List SessionEvent} (quiet : ∀ event ∈ record, event.Quiet) :
    record.filterMap (·.frame?) = [] :=
  List.filterMap_eq_nil_iff.mpr fun event member => (quiet event member).frame?

theorem ByHandler.quiet {event : SessionEvent} (byHandler : event.ByHandler) : event.Quiet := by
  cases byHandler <;> exact ⟨rfl, rfl, rfl⟩

end SessionEvent

/-- What a scheduler promises of a token that fires during a pause: the pause passes or ends by
cancellation, and does not fail. -/
def Transport.HeedsToken {σ : Type} (transport : Transport σ) : Prop :=
  ∀ delay world, (transport.pause delay world).1.cancels = true → ∀ failure,
    (transport.pause delay world).1.outcome ≠ .error (.failed failure)

theorem Stage.transport_heedsToken : Stage.transport.HeedsToken :=
  fun delay stage _ => Stage.transport_pausesWithoutFailure delay stage

namespace Lifecycle

variable {σ : Type} {life : Lifecycle σ}

/-- Stations from which a stream on a cancelled token does nothing but tidy up. -/
def Station.settled : Station → Bool
  | opening | opened | received _ => false
  | between | connected | subscribing | subscribed | streaming | delivering | idled => true
  | ending _ | ended _ | backingOff | rested | broken _ | stopped => true

theorem Station.Heeds.settled {source target : Station} (heeds : source.Heeds target) :
    target.settled = true := by
  cases heeds <;> rfl

namespace Moves

variable {source target : Station} {cancelled : Bool} {event : SessionEvent}

theorem settled_of_cancelled (moves : life.Moves source true event target)
    (settled : source.settled = true) : target.settled = true ∧ event.Quiet := by
  cases moves with
  | whileSubscribing byHandler => exact ⟨rfl, byHandler.quiet⟩
  | whileDelivering byHandler => exact ⟨rfl, byHandler.quiet⟩
  | _ => first | exact ⟨rfl, rfl, rfl, rfl⟩ | cases settled

/-- Where a stream is when its token has just fired. -/
theorem of_fires (moves : life.Moves source cancelled event target) (fires : event.fires = true) :
    target.settled = true ∨ (∃ reply, event = .create reply) ∧ target = .opened ∨
      ∃ timeout frame, event = .receive timeout ⟨.ok frame, true⟩ ∧ target = .received frame := by
  cases moves with
  | created => exact .inr (.inl ⟨⟨_, rfl⟩, rfl⟩)
  | received =>
      cases fires
      exact .inr (.inr ⟨_, _, rfl, rfl⟩)
  | _ => first | exact .inl rfl | cases fires

/-- Pauses that heed the token do not break a stream on a cancelled one. -/
theorem not_cancelled_of_broken {failure : Failure} (heedful : life.transport.HeedsToken)
    (moves : life.Moves source cancelled event (.broken failure)) :
    (cancelled || event.fires) = false := by
  cases moves with
  | @broken cancels _ world reply =>
      have wakes := heedful life.options.retryDelay world
      rw [reply] at wakes
      cases cancels with
      | false => rfl
      | true => exact (wakes rfl failure rfl).elim

end Moves

namespace Path

variable {first last : Standing} {record : List SessionEvent}

/-- On a cancelled token, everything from a settled station on is quiet. -/
theorem quiet (path : life.Path first record last) (cancelled : first.cancelled = true)
    (settled : first.station.settled = true) : ∀ event ∈ record, event.Quiet := by
  induction path with
  | here standing => simp
  | heed heeds rest step => exact step rfl heeds.settled
  | move moves rest step =>
      cases cancelled
      obtain ⟨target_settled, event_quiet⟩ := moves.settled_of_cancelled settled
      exact List.forall_mem_cons.mpr ⟨event_quiet, step rfl target_settled⟩

/-- A new connection is connected, and then everything is quiet. -/
theorem quiet_of_opened (path : life.Path ⟨.opened, true⟩ record last) :
    record = [] ∨ ∃ url timeout reply rest, record = .connect url timeout reply :: rest ∧
      ∀ event ∈ rest, event.Quiet := by
  cases path with
  | here => exact .inl rfl
  | heed heeds rest => cases heeds
  | move moves rest =>
      cases moves with
      | connected => exact .inr ⟨_, _, _, _, rfl, rest.quiet rfl rfl⟩
      | notConnected => exact .inr ⟨_, _, _, _, rfl, rest.quiet rfl rfl⟩

/-- A frame that has come is handed on, and then everything is quiet. -/
theorem quiet_of_received {frame : String}
    (path : life.Path ⟨.received frame, true⟩ record last) :
    record = [] ∨ ∃ rest, record = .frame frame :: rest ∧ ∀ event ∈ rest, event.Quiet := by
  cases path with
  | here => exact .inl rfl
  | heed heeds rest => cases heeds
  | move moves rest =>
      cases moves with
      | handing => exact .inr ⟨_, rfl, rest.quiet rfl rfl⟩

/-- Once the token has fired, a stream goes on with nothing, connects no connection but the one that
was being created, and hands on no frame but the one that was being received. -/
theorem quiet_of_fires {source target : Station} {cancelled : Bool} {firing : SessionEvent}
    (moves : life.Moves source cancelled firing target) (fires : firing.fires = true)
    (path : life.Path ⟨target, true⟩ record last) :
    (∀ event ∈ record, event.goesOn = false) ∧
      ((∀ reply, firing ≠ .create reply) → ∀ event ∈ record, event.connects = false) ∧
      (record.filterMap (·.frame?) = [] ∨ ∃ timeout frame,
        firing = .receive timeout ⟨.ok frame, true⟩ ∧
          record.filterMap (·.frame?) = [frame]) := by
  rcases moves.of_fires fires with settled | ⟨⟨reply, rfl⟩, rfl⟩ | ⟨timeout, frame, rfl, rfl⟩
  · have quiet := path.quiet rfl settled
    exact ⟨fun event member => (quiet event member).goesOn,
      fun _ event member => (quiet event member).connects, .inl (SessionEvent.frames_of_quiet quiet)⟩
  · refine ⟨?_, fun other => (other reply rfl).elim, .inl ?_⟩
    all_goals rcases path.quiet_of_opened with rfl | ⟨url, timeout, reply, rest, rfl, quiet⟩
    · simp
    · exact List.forall_mem_cons.mpr ⟨rfl, fun event member => (quiet event member).goesOn⟩
    · rfl
    · exact (List.filterMap_cons_none rfl).trans (SessionEvent.frames_of_quiet quiet)
  · rcases path.quiet_of_received with rfl | ⟨rest, rfl, quiet⟩
    · simp
    · refine ⟨?_, fun _ => ?_, .inr ⟨timeout, frame, rfl, ?_⟩⟩
      · exact List.forall_mem_cons.mpr ⟨rfl, fun event member => (quiet event member).goesOn⟩
      · exact List.forall_mem_cons.mpr ⟨rfl, fun event member => (quiet event member).connects⟩
      · exact congrArg (frame :: ·) (SessionEvent.frames_of_quiet quiet)

/-- Where pauses heed the token, no pause breaks a stream whose token is cancelled. -/
theorem not_broken {failure : Failure} (heedful : life.transport.HeedsToken)
    (path : life.Path first record last) (apart : first ≠ ⟨.broken failure, true⟩) :
    last ≠ ⟨.broken failure, true⟩ := by
  induction path with
  | here standing => exact apart
  | heed heeds _ step =>
      apply step
      intro broken
      cases broken
      cases heeds
  | move moves _ step =>
      apply step
      intro broken
      injection broken with there cancelled
      subst there
      cases (moves.not_cancelled_of_broken heedful).symm.trans cancelled

end Path

/-! ## Whole runs -/

/-- A run ends by cancellation and reports that nothing is connected. -/
def StopsCancelled (life : Lifecycle σ) (bound : Nat) (start : Run σ) : Prop :=
  (life.run bound start).1 = .error (.halted .cancelled) ∧
    (life.run bound start).2.phase = .disconnected

/-- Who sees a run end by cancellation has seen the report before. -/
theorem stopsCancelled_of_halted {bound : Nat} {start : Run σ}
    (halted : (life.run bound start).1 = .error (.halted .cancelled)) :
    life.StopsCancelled bound start := by
  refine ⟨halted, ?_⟩
  rcases result : life.sessions bound bound start with ⟨outcome, after⟩
  rcases Task.unfinished_or_ended outcome with rfl | ⟨known, rfl⟩
  · rw [run, Task.outcomeOf_bind_of_unfinished result] at halted
    cases halted
  · rw [run, Task.outcomeOf_bind_of_ended result] at halted ⊢
    rcases known with (_ | failure) | value
    · rfl
    · cases halted
    · cases halted

/-- Cancellation is final.  On a token that is cancelled from the start a run does nothing but tidy
up.  After the token has fired within a call, whatever the call has come to, the run asks for no
connection, frame or pause any more, does not connect and does not report that it will try again;
it hands on at most the frame of the very call.  In both cases, as long as pauses heed the token, the
run ends by cancellation, at the latest when its bound leaves it room for one more step. -/
theorem cancellation_final (life : Lifecycle σ) (bound : Nat) (start : Run σ) :
    ∃ record, (life.run bound start).2.record = start.record ++ record ∧
      (start.cancelled = true → ∀ event ∈ record, event.Quiet) ∧
      (∀ before firing rest, record = before ++ firing :: rest → firing.fires = true →
        (∀ event ∈ rest, event.goesOn = false) ∧
          ((∀ reply, firing ≠ .create reply) → ∀ event ∈ rest, event.connects = false) ∧
          (rest.filterMap (·.frame?) = [] ∨ ∃ timeout frame,
            firing = .receive timeout ⟨.ok frame, true⟩ ∧
              rest.filterMap (·.frame?) = [frame])) ∧
      (life.transport.HeedsToken →
        (start.cancelled = true ∨ ∃ event ∈ record, event.fires = true) →
          ((life.run bound start).1 = .error .unfinished ∨ life.StopsCancelled bound start) ∧
            ∀ larger, bound < larger → life.StopsCancelled larger start) := by
  obtain ⟨record, last, record_eq, path, cancelled_eq, ends⟩ :=
    life.keeps_run bound start.cancelled start rfl
  refine ⟨record, record_eq, ?_, ?_, ?_⟩
  · intro cancelled
    exact path.quiet cancelled rfl
  · intro before firing rest split fires
    obtain ⟨source, cancelled, target, -, moves, after⟩ := path.split split
    rw [fires, Bool.or_true] at after
    exact Path.quiet_of_fires moves fires after
  · intro heedful fired
    have cancelled : last.cancelled = true := by
      rw [path.cancelled_eq, Bool.or_eq_true, List.any_eq_true]
      exact fired
    have ending : (life.run bound start).1 = .error .unfinished ∨
        life.StopsCancelled bound start := by
      rcases result : (life.run bound start).1 with ((_ | failure) | _) | _
      · exact .inr (stopsCancelled_of_halted result)
      · rw [result] at ends
        have broken : last = ⟨.broken failure, true⟩ := by
          rcases last with ⟨station, last_cancelled⟩
          cases ends
          cases cancelled
          rfl
        exact (path.not_broken heedful (by simp) broken).elim
      · exact .inl rfl
      · rw [result] at ends
        exact ends.elim
    refine ⟨ending, fun larger more => ?_⟩
    rcases run_outlasts more start with ⟨finished, same⟩ | ⟨-, stops⟩
    · rcases ending with unfinished | stopped
      · exact (finished unfinished).elim
      · exact stopsCancelled_of_halted (same ▸ stopped.1)
    · exact stopsCancelled_of_halted (stops (cancelled_eq.trans cancelled))

/-- The refusal is retried, and the break is not. -/
theorem cancellation_final_reset :
    resetStream.transport.HeedsToken ∧
      (resetStream.run 2 resetStart).2.err.length = 1 ∧
      ((resetStream.run 2 resetStart).2.record.any fun event => event.fires) = true ∧
      ∀ larger, 2 < larger → resetStream.StopsCancelled larger resetStart := by
  have fired : ((resetStream.run 2 resetStart).2.record.any fun event => event.fires) = true := by
    decide +kernel
  refine ⟨Stage.transport_heedsToken, by decide +kernel, fired, ?_⟩
  obtain ⟨record, record_eq, -, -, final⟩ := cancellation_final resetStream 2 resetStart
  rw [record_eq, List.any_append, Bool.or_eq_true, List.any_eq_true, List.any_eq_true] at fired
  exact (final Stage.transport_heedsToken (.inr (fired.resolve_left (by simp [resetStart])))).2

end Lifecycle

end SwapFeed
