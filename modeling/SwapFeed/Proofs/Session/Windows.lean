import Mathlib.Data.List.Basic
import SwapFeed.Proofs.Session.Handlers
import SwapFeed.Proofs.Session.Stopping

/-!
# Frames and empty windows

What a call to receive returns is handed on as it is, before anything else is done.  A window that
passes without a frame is answered by a ping on the same connection, and then the stream waits
again, for as many windows as it takes.

Both are about which entry comes next at a station.  That no frame is lost on the way to the end of
a run is an invariant: what has been received is what has been handed on, and the frame that the
station keeps.
-/

namespace SwapFeed

namespace SessionEvent

/-- The frame that a call to receive returns. -/
def received? : SessionEvent → Option String
  | receive _ ⟨.ok text, _⟩ => some text
  | _ => none

/-- Whether a stream that waits for frames is merely idle: no window has a frame, and every ping is
sent, all on a live token. -/
def staysIdle : SessionEvent → Bool
  | receive _ ⟨.error (.failed (.idle _)), false⟩ => true
  | ping _ ⟨.ok _, false⟩ => true
  | receive .. | ping .. => false
  | _ => true

theorem ByHandler.received? {event : SessionEvent} (byHandler : event.ByHandler) :
    event.received? = none := by
  cases byHandler <;> rfl

end SessionEvent

namespace Lifecycle

variable {σ : Type} {life : Lifecycle σ}

/-- The frame that has come and is not yet handed on. -/
def Station.pending? : Station → Option String
  | received frame => some frame
  | _ => none

/-- An empty window and its answer. -/
def idleWindow (life : Lifecycle σ) (reason : String) : List SessionEvent :=
  [.receive life.options.messageTimeout ⟨.error (.failed (.idle reason)), false⟩,
    .ping life.options.ping ⟨.ok (), false⟩]

/-- What follows an empty window on a live token: one ping, and then, if the ping was sent and has
left the token alone, another call to receive, or else the end of the connection.  Only a run that
is cut off stops short of that. -/
def AnswersWindow (life : Lifecycle σ) (outcome : Except Stop Unit) (after : List SessionEvent) :
    Prop :=
  ∃ reply rest, after = .ping life.options.ping reply :: rest ∧
    (reply = ⟨.ok (), false⟩ → rest = [] ∧ outcome = .error .unfinished ∨
      ∃ again later, rest = .receive life.options.messageTimeout again :: later) ∧
    (reply ≠ ⟨.ok (), false⟩ → rest = [] ∧ outcome = .error .unfinished ∨
      ∃ later, rest = .disconnect :: later)

theorem Leaves.pending? {outcome : Except Stop Unit} {station : Station}
    (leaves : Leaves outcome station) : station.pending? = none := by
  cases leaves <;> rfl

/-- A frame that a move hands on is the one that the station keeps, and what is received is kept. -/
theorem Moves.frames_eq {source target : Station} {cancelled : Bool} {event : SessionEvent}
    (moves : life.Moves source cancelled event target) :
    event.frame?.toList ++ target.pending?.toList =
      source.pending?.toList ++ event.received?.toList := by
  cases moves with
  | whileSubscribing byHandler => rw [byHandler.quiet.frame?, byHandler.received?]; rfl
  | whileDelivering byHandler => rw [byHandler.quiet.frame?, byHandler.received?]; rfl
  | _ => rfl

namespace Path

variable {first last : Standing} {record : List SessionEvent} {outcome : Except Stop Unit}

/-- What is handed on, with what is kept at last, is what was kept at first and what is received. -/
theorem frames_eq (path : life.Path first record last) :
    record.filterMap (·.frame?) ++ last.station.pending?.toList =
      first.station.pending?.toList ++ record.filterMap (·.received?) := by
  simp only [List.filterMap_eq_flatMap_toList]
  induction path with
  | here standing => simp
  | heed heeds _ step =>
      rw [step]
      cases heeds <;> rfl
  | move moves _ step =>
      rw [List.flatMap_cons, List.flatMap_cons, List.append_assoc, step, ← List.append_assoc,
        moves.frames_eq, List.append_assoc]

/-- A frame that has come is handed on next. -/
theorem next_of_received {frame : String} {cancelled : Bool}
    (path : life.Path ⟨.received frame, cancelled⟩ record last)
    (leaves : Leaves outcome last.station) : ∃ rest, record = .frame frame :: rest := by
  cases path with
  | here => cases leaves
  | heed heeds => cases heeds
  | move moves rest =>
      cases moves with
      | handing => exact ⟨_, rfl⟩

/-- Work that has halted leaves nothing to do on a connection but to close it. -/
theorem next_of_ending {halt : Halt} {cancelled : Bool}
    (path : life.Path ⟨.ending halt, cancelled⟩ record last)
    (leaves : Leaves outcome last.station) : ∃ rest, record = .disconnect :: rest := by
  cases path with
  | here => cases leaves
  | heed heeds => cases heeds
  | move moves rest =>
      cases moves with
      | disconnected => exact ⟨_, rfl⟩

/-- A stream on a live token waits for the next frame. -/
theorem next_of_streaming (path : life.Path ⟨.streaming, false⟩ record last)
    (leaves : Leaves outcome last.station) :
    record = [] ∧ outcome = .error .unfinished ∨
      ∃ reply rest, record = .receive life.options.messageTimeout reply :: rest := by
  cases path with
  | here =>
      cases leaves
      exact .inl ⟨rfl, rfl⟩
  | move moves rest =>
      cases moves with
      | received | idled | notReceived => exact .inr ⟨_, _, rfl⟩

theorem next_of_streaming_cancelled (path : life.Path ⟨.streaming, true⟩ record last)
    (leaves : Leaves outcome last.station) :
    record = [] ∧ outcome = .error .unfinished ∨ ∃ rest, record = .disconnect :: rest := by
  cases path with
  | here =>
      cases leaves
      exact .inl ⟨rfl, rfl⟩
  | heed heeds rest =>
      cases heeds
      exact .inr (rest.next_of_ending leaves)
  | move moves => cases moves

/-- An empty window is answered. -/
theorem answersWindow (path : life.Path ⟨.idled, false⟩ record last)
    (leaves : Leaves outcome last.station) : life.AnswersWindow outcome record := by
  cases path with
  | here => cases leaves
  | move moves rest =>
      cases moves with
      | @pinged cancels =>
          refine ⟨_, _, rfl, ?_⟩
          cases cancels with
          | false => exact ⟨fun _ => rest.next_of_streaming leaves, fun other => (other rfl).elim⟩
          | true => exact ⟨nofun, fun _ => rest.next_of_streaming_cancelled leaves⟩
      | notPinged => exact ⟨_, _, rfl, nofun, fun _ => .inr (rest.next_of_ending leaves)⟩

/-- A stream comes to an empty window on a live token by a call to receive. -/
theorem received_before {cancelled : Bool}
    (path : life.Path ⟨.between, cancelled⟩ record ⟨.idled, false⟩) :
    ∃ earlier reason, record = earlier ++
      [.receive life.options.messageTimeout ⟨.error (.failed (.idle reason)), false⟩] := by
  rcases path.arrives with ⟨-, there⟩ | ⟨source, heeds, -⟩ | moved
  · cases there
  · cases heeds
  · rcases moved with ⟨earlier, event, source, cancelled, rfl, -, moves, still⟩
    cases moves with
    | @idled cancels reason =>
        cases cancels with
        | false => exact ⟨earlier, reason, rfl⟩
        | true => cases still

/-- For as long as a stream stays idle, its record goes from window to window. -/
theorem prefix_of_staysIdle (path : life.Path first record last)
    (live : first.cancelled = false) (idle : ∀ event ∈ record, event.staysIdle = true) :
    (first.station = .streaming → ∃ reasons : List String,
      record <+: reasons.flatMap life.idleWindow) ∧
    (first.station = .idled → ∃ reasons : List String,
      record <+: .ping life.options.ping ⟨.ok (), false⟩ ::
        reasons.flatMap life.idleWindow) := by
  induction path with
  | here standing => exact ⟨fun _ => ⟨[], by simp⟩, fun _ => ⟨[], by simp⟩⟩
  | heed heeds rest step => cases live
  | move moves rest step =>
      obtain ⟨now, later⟩ := List.forall_mem_cons.mp idle
      constructor
      · rintro rfl
        cases moves with
        | @idled cancels reason =>
            cases cancels with
            | true => cases now
            | false =>
                obtain ⟨reasons, within⟩ := (step rfl later).2 rfl
                exact ⟨reason :: reasons, List.cons_prefix_cons.mpr ⟨rfl, within⟩⟩
        | received => cases now
        | @notReceived _ halt notIdle =>
            rcases halt with _ | (reason | _ | _)
            · cases now
            · exact (notIdle reason rfl).elim
            · cases now
            · cases now
      · rintro rfl
        cases moves with
        | @pinged cancels =>
            cases cancels with
            | true => cases now
            | false =>
                obtain ⟨reasons, within⟩ := (step rfl later).1 rfl
                exact ⟨reasons, List.cons_prefix_cons.mpr ⟨rfl, within⟩⟩
        | notPinged => cases now

end Path

/-- Frames are handed on as they come, and a stream without frames pings and waits.  What is handed
on over a whole run is exactly what the calls to receive return, in their order, and each frame goes
to its handler before anything else is done.  An empty window on a live token is answered by one
ping on the same connection and, if that works, by another call to receive; pings answer empty
windows only.  However many windows in a row are empty, there is nothing but windows and their
pings. -/
theorem frames_handed_and_windows_answered (life : Lifecycle σ) (bound : Nat) (start : Run σ) :
    ∃ record, (life.run bound start).2.record = start.record ++ record ∧
      record.filterMap (·.frame?) = record.filterMap (·.received?) ∧
      (∀ before timeout frame cancels after,
        record = before ++ .receive timeout ⟨.ok frame, cancels⟩ :: after →
        ∃ acts outcome rest, after = .frame frame :: acts ++ .delivered outcome :: rest ∧
          (life.deliver frame).Acts (start.cancelled || before.any (·.fires) || cancels) acts
            outcome) ∧
      (∀ before timeout reason after,
        record = before ++ .receive timeout ⟨.error (.failed (.idle reason)), false⟩ :: after →
        life.AnswersWindow (life.run bound start).1 after) ∧
      (∀ before text reply after, record = before ++ .ping text reply :: after →
        ∃ earlier reason, before = earlier ++
          [.receive life.options.messageTimeout ⟨.error (.failed (.idle reason)), false⟩]) ∧
      (∀ before timeout reply waiting after,
        record = before ++ (.receive timeout reply :: waiting) ++ after →
        (∀ event ∈ .receive timeout reply :: waiting, event.staysIdle = true) →
        ∃ reasons : List String,
          .receive timeout reply :: waiting <+: reasons.flatMap life.idleWindow) := by
  obtain ⟨record, last, record_eq, path, leaves, attends⟩ := life.exists_attended_path bound start
  refine ⟨record, record_eq, ?_, ?_, ?_, ?_, ?_⟩
  · have frames := path.frames_eq
    rw [leaves.pending?] at frames
    simpa [Station.pending?] using frames
  · intro before timeout frame cancels after split
    obtain ⟨source, cancelled, target, -, moves, rest⟩ := path.split split
    have there : target = .received frame := by
      cases moves with
      | received => rfl
      | whileSubscribing byHandler | whileDelivering byHandler => cases byHandler
    subst there
    obtain ⟨later, rfl⟩ := rest.next_of_received leaves
    obtain ⟨acts, outcome, later, rfl, does⟩ :=
      attends (before ++ [.receive timeout ⟨.ok frame, cancels⟩]) (.frame frame) later _ _
        (by simp [split]) (.deliver frame)
    refine ⟨acts, outcome, later, rfl, ?_⟩
    simpa [SessionEvent.fires, Bool.or_assoc] using does
  · intro before timeout reason after split
    obtain ⟨source, cancelled, target, -, moves, rest⟩ := path.split split
    cases moves with
    | idled => exact rest.answersWindow leaves
    | notReceived notIdle => exact (notIdle reason rfl).elim
    | whileSubscribing byHandler | whileDelivering byHandler => cases byHandler
  · intro before text reply after split
    obtain ⟨source, cancelled, target, earlier, moves, -⟩ := path.split split
    cases moves with
    | pinged | notPinged => exact earlier.received_before
    | whileSubscribing byHandler | whileDelivering byHandler => cases byHandler
  · intro before timeout reply waiting after split idle
    obtain ⟨source, cancelled, target, -, moves, rest⟩ :=
      path.split (split.trans (List.append_assoc before _ after))
    obtain ⟨middle, windows, -⟩ := rest.cut
    have waits : source = .streaming ∧ cancelled = false := by
      cases moves with
      | received | idled | notReceived => exact ⟨rfl, rfl⟩
      | whileSubscribing byHandler | whileDelivering byHandler => cases byHandler
    exact ((Path.move moves windows).prefix_of_staysIdle waits.2 idle).1 waits.1

end Lifecycle

end SwapFeed
