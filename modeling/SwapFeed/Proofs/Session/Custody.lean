import SwapFeed.Proofs.Session.Conduct

/-!
# Connections are released

A stream holds at most one connection at a time.  What it does with a connection lies between the
creation of the connection and its one disconnect, and everything that belongs to no connection, a
failed session's pause above all, waits until the disconnect is done.

The invariant is that a connection is open, going by the record, exactly at the stations that hold
one.
-/

namespace SwapFeed

namespace SessionEvent

/-- A connection is created. -/
def opens : SessionEvent → Bool
  | create ⟨.ok _, _⟩ => true
  | _ => false

def closes : SessionEvent → Bool
  | disconnect => true
  | _ => false

/-- Calls on a connection, and the work that is done while it is there to be called. -/
def usesConnection : SessionEvent → Bool
  | connect .. | receive .. | ping .. | send .. | interrupt | disconnect => true
  | subscribed _ | frame _ | delivered _ => true
  | phase _ | create _ | backOff .. | pause .. | cancel => false

/-- What is done without a connection: to ask for one, and to report and to pause between
sessions. -/
def betweenConnections : SessionEvent → Bool
  | create _ | backOff .. => true
  | phase .connecting | phase .errorBackoff | phase .disconnected => true
  | phase .subscribing | phase .streaming => false
  | connect .. | receive .. | ping .. | send .. | interrupt | disconnect => false
  | subscribed _ | frame _ | delivered _ | pause .. | cancel => false

end SessionEvent

/-- Whether a connection is open after a record, if one was open before it: a created connection
stays open until a disconnect. -/
def staysOpen (held : Bool) (record : List SessionEvent) : Bool :=
  record.foldl (fun held event => event.opens || held && !event.closes) held

/-- The part of a record after the creation of a connection releases it: the connection has the
record for itself up to one disconnect, and nothing is done on it from then on, because there is
another connection before anything is done on one. -/
def Releases (record : List SessionEvent) : Prop :=
  ∃ held rest, record = held ++ .disconnect :: rest ∧
    (∀ event ∈ held, event.closes = false ∧ event.betweenConnections = false) ∧
    ∀ between event later, rest = between ++ event :: later → event.usesConnection = true →
      ∃ creation ∈ between, creation.opens = true

theorem staysOpen_cons (held : Bool) (event : SessionEvent) (rest : List SessionEvent) :
    staysOpen held (event :: rest) = staysOpen (event.opens || held && !event.closes) rest := rfl

theorem countP_toNat_cons (holds : SessionEvent → Bool) (event : SessionEvent)
    (rest : List SessionEvent) :
    (event :: rest).countP holds = rest.countP holds + (holds event).toNat := by
  rw [List.countP_cons]
  cases holds event <;> rfl

/-- A connection that is open was so all along, or it has been created and not closed since. -/
theorem creation_of_staysOpen {held : Bool} {record : List SessionEvent}
    (stays : staysOpen held record = true) :
    held = true ∧ (∀ event ∈ record, event.closes = false) ∨
      ∃ earlier creation since, record = earlier ++ creation :: since ∧ creation.opens = true ∧
        ∀ event ∈ since, event.closes = false := by
  induction record generalizing held with
  | nil => exact .inl ⟨stays, by simp⟩
  | cons event rest step =>
      rw [staysOpen_cons] at stays
      rcases step stays with ⟨afterwards, others⟩ | ⟨earlier, creation, since, rfl, created⟩
      · rcases Bool.or_eq_true_iff.mp afterwards with opens | kept
        · exact .inr ⟨[], event, rest, rfl, opens, others⟩
        · obtain ⟨was, notClosed⟩ := Bool.and_eq_true_iff.mp kept
          exact .inl ⟨was, List.forall_mem_cons.mpr ⟨by simpa using notClosed, others⟩⟩
      · exact .inr ⟨event :: earlier, creation, since, rfl, created⟩

/-- Without a connection at first there is none unless one is created. -/
theorem exists_opens_of_staysOpen {record : List SessionEvent}
    (stays : staysOpen false record = true) : ∃ creation ∈ record, creation.opens = true := by
  rcases creation_of_staysOpen stays with ⟨was, -⟩ | ⟨earlier, creation, since, rfl, opens, -⟩
  · cases was
  · exact ⟨creation, by simp, opens⟩

namespace Lifecycle

variable {σ : Type} {life : Lifecycle σ}

/-! ## One move -/

namespace Moves

variable {source target : Station} {cancelled : Bool} {event : SessionEvent}

/-- An entry opens and closes what its move says. -/
theorem holds_eq (moves : life.Moves source cancelled event target) :
    target.holds = (event.opens || source.holds && !event.closes) := by
  cases moves with
  | whileSubscribing byHandler => cases byHandler <;> rfl
  | whileDelivering byHandler => cases byHandler <;> rfl
  | _ => rfl

theorem holds_of_usesConnection (moves : life.Moves source cancelled event target)
    (uses : event.usesConnection = true) : source.holds = true := by
  cases moves <;> first | rfl | cases uses

theorem not_holds_of_betweenConnections (moves : life.Moves source cancelled event target)
    (between : event.betweenConnections = true) : source.holds = false := by
  cases moves with
  | whileSubscribing byHandler => cases byHandler <;> cases between
  | whileDelivering byHandler => cases byHandler <;> cases between
  | _ => first | rfl | cases between

/-- What is open afterwards is what was open, with what is created and without what is closed. -/
theorem balance (moves : life.Moves source cancelled event target) :
    event.opens.toNat + source.holds.toNat = event.closes.toNat + target.holds.toNat := by
  cases moves with
  | whileSubscribing byHandler => cases byHandler <;> rfl
  | whileDelivering byHandler => cases byHandler <;> rfl
  | _ => rfl

end Moves

/-! ## Whole runs -/

namespace Path

variable {first last : Standing} {record : List SessionEvent}

theorem holds_eq (path : life.Path first record last) :
    last.station.holds = staysOpen first.station.holds record := by
  induction path with
  | here standing => rfl
  | heed heeds _ step => rw [step, heeds.holds_eq]
  | move moves _ step => rw [step, staysOpen_cons, moves.holds_eq]

/-- As many connections are released as are created, up to those held at first and at last. -/
theorem countP_opens (path : life.Path first record last) :
    record.countP (·.opens) + first.station.holds.toNat =
      record.countP (·.closes) + last.station.holds.toNat := by
  induction path with
  | here standing => simp
  | heed heeds _ step =>
      rw [heeds.holds_eq]
      exact step
  | @move source target cancelled event record last moves _ step =>
      change _ + source.holds.toNat = _
      change _ + target.holds.toNat = _ at step
      have balance := moves.balance
      rw [countP_toNat_cons, countP_toNat_cons]
      omega

/-- Where no connection is held, one is created before anything is done on one. -/
theorem exists_opens (path : life.Path first record last) (free : first.station.holds = false)
    {before after : List SessionEvent} {event : SessionEvent}
    (record_eq : record = before ++ event :: after) (uses : event.usesConnection = true) :
    ∃ creation ∈ before, creation.opens = true := by
  obtain ⟨source, cancelled, target, earlier, moves, -⟩ := path.split record_eq
  apply exists_opens_of_staysOpen
  rw [← free, ← earlier.holds_eq]
  exact moves.holds_of_usesConnection uses

/-- A connection that is held is released, or it is still held at the end. -/
theorem releases_or_holds (path : life.Path first record last)
    (held : first.station.holds = true) :
    Releases record ∨ last.station.holds = true ∧
      ∀ event ∈ record, event.closes = false ∧ event.betweenConnections = false := by
  induction path with
  | here standing => exact .inr ⟨held, by simp⟩
  | heed heeds _ step => exact step (heeds.holds_eq ▸ held)
  | @move source target cancelled event record last moves rest step =>
      have within : event.betweenConnections = false := by
        cases between : event.betweenConnections with
        | false => rfl
        | true => exact held.symm.trans (moves.not_holds_of_betweenConnections between)
      have target_holds := moves.holds_eq
      cases closes : event.closes with
      | true =>
          have opens : event.opens = false := by cases event <;> first | rfl | cases closes
          have disconnects : event = .disconnect := by cases event <;> first | rfl | cases closes
          rw [held, opens, closes] at target_holds
          refine .inl ⟨[], record, by rw [disconnects]; rfl, by simp, ?_⟩
          intro between later after record_eq uses
          exact rest.exists_opens target_holds record_eq uses
      | false =>
          rw [held, closes] at target_holds
          rcases step (by simpa using target_holds) with released | ⟨still, others⟩
          · obtain ⟨held, rest, record_eq, whileHeld, afterwards⟩ := released
            refine .inl ⟨event :: held, rest, by rw [record_eq]; rfl, ?_, afterwards⟩
            exact List.forall_mem_cons.mpr ⟨⟨closes, within⟩, whileHeld⟩
          · exact .inr ⟨still, List.forall_mem_cons.mpr ⟨⟨closes, within⟩, others⟩⟩

end Path

/-- Every connection that is created is released by one disconnect, after everything that is done on
it and before the session is over; only a run that is cut off by its bound may still hold its last
connection.  At any point of a run at most one connection is open, calls are made on an open one
only, and a run that ends leaves none open. -/
theorem connections_released_once (life : Lifecycle σ) (bound : Nat) (start : Run σ) :
    ∃ record, (life.run bound start).2.record = start.record ++ record ∧
      (∀ before creation after, record = before ++ creation :: after → creation.opens = true →
        Releases after ∨ (life.run bound start).1 = .error .unfinished ∧
          ∀ event ∈ after, event.closes = false ∧ event.betweenConnections = false) ∧
      (∀ before event after, record = before ++ event :: after →
        (event.usesConnection = true → staysOpen false before = true) ∧
          (event.betweenConnections = true → staysOpen false before = false) ∧
          before.countP (·.opens) ≤ before.countP (·.closes) + 1) ∧
      ((life.run bound start).1 ≠ .error .unfinished →
        staysOpen false record = false ∧
          record.countP (·.opens) = record.countP (·.closes)) := by
  obtain ⟨record, last, record_eq, path, -, ends⟩ := life.keeps_run bound start.cancelled start rfl
  have cutOff (held : last.station.holds = true) :
      (life.run bound start).1 = .error .unfinished := by
    generalize (life.run bound start).1 = outcome at ends ⊢
    rcases outcome with ((_ | failure) | _) | _
    · cases held.symm.trans (congrArg Station.holds ends)
    · cases held.symm.trans (congrArg Station.holds ends)
    · rfl
    · exact ends.elim
  refine ⟨record, record_eq, ?_, ?_, ?_⟩
  · intro before creation after split opens
    obtain ⟨source, cancelled, target, -, moves, rest⟩ := path.split split
    have held : target.holds = true := by rw [moves.holds_eq, opens]; rfl
    rcases rest.releases_or_holds held with released | ⟨still, others⟩
    · exact .inl released
    · exact .inr ⟨cutOff still, others⟩
  · intro before event after split
    obtain ⟨source, cancelled, target, earlier, moves, -⟩ := path.split split
    have holds : source.holds = staysOpen false before := earlier.holds_eq
    refine ⟨?_, ?_, ?_⟩
    · intro uses
      rw [← holds]
      exact moves.holds_of_usesConnection uses
    · intro between
      rw [← holds]
      exact moves.not_holds_of_betweenConnections between
    · have balance := earlier.countP_opens
      have atMost : source.holds.toNat ≤ 1 := Bool.toNat_le _
      change _ + 0 = _ + source.holds.toNat at balance
      omega
  · intro finished
    have free : last.station.holds = false := by
      cases held : last.station.holds with
      | false => rfl
      | true => exact (finished (cutOff held)).elim
    have balance := path.countP_opens
    rw [free] at balance
    exact ⟨path.holds_eq.symm.trans free, balance⟩

end Lifecycle

end SwapFeed
