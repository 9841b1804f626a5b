import SwapFeed.Proofs.Session.Custody
import SwapFeed.Proofs.Session.Windows

/-!
# The course of a connection

A connection is connected, then the subscribe handler has it, and then frames are waited for.  Each
of these may be the last that is done on it.  For streams whose frame handler has nothing to do with
the connection, nothing but windows, pings and frames is left once the subscribe handler is done.
-/

namespace SwapFeed

namespace SessionEvent

/-- What is done on a connection once it is subscribed. -/
def inStream : SessionEvent → Bool
  | receive .. | ping .. | frame _ | delivered _ => true
  | _ => false

def receives : SessionEvent → Bool
  | receive .. => true
  | _ => false

theorem ByHandler.not_closes {event : SessionEvent} (byHandler : event.ByHandler) :
    event.closes = false := by
  cases byHandler <;> rfl

end SessionEvent

/-- The part of a record up to the next disconnect. -/
def upToClose (record : List SessionEvent) : List SessionEvent :=
  record.takeWhile fun event => !event.closes

theorem upToClose_append {first rest : List SessionEvent}
    (stays : ∀ event ∈ first, event.closes = false) :
    upToClose (first ++ rest) = first ++ upToClose rest :=
  List.takeWhile_append_of_pos fun event member => by simp [stays event member]

@[simp] theorem upToClose_disconnect (rest : List SessionEvent) :
    upToClose (.disconnect :: rest) = [] := rfl

namespace Lifecycle

variable {σ : Type} {life : Lifecycle σ}

/-- The frame handler of a stream has nothing to do with the connection, and no frame makes it
fail. -/
def TakesFrames (life : Lifecycle σ) : Prop :=
  ∀ frame cancelled acts outcome, (life.deliver frame).Acts cancelled acts outcome →
    acts = [] ∧ outcome = .ok ()

/-- The entry of a connect that has returned on a live token. -/
def connects (life : Lifecycle σ) : SessionEvent :=
  .connect life.options.url life.options.connectTimeout ⟨.ok (), false⟩

/-- What may be done on a connection from its creation on, until it is closed.  Whether the token
is cancelled when the connection is there decides how far it comes. -/
inductive Course (life : Lifecycle σ) : Bool → List SessionEvent → Prop
  | notConnected (cancelled : Bool) (reply : CallReply Unit) :
      Course life cancelled [.connect life.options.url life.options.connectTimeout reply]
  | notSubscribed {acts : List SessionEvent} {halt : Halt}
      (does : life.subscribe.Acts false acts (.error halt)) :
      Course life false
        (life.connects :: .phase .subscribing :: acts ++ [.subscribed (.error halt)])
  | streamed {acts later : List SessionEvent} (does : life.subscribe.Acts false acts (.ok ()))
      (inStream : ∀ event ∈ later, event.inStream = true)
      (live : acts.any (·.fires) = true → later = []) :
      Course life false (life.connects :: .phase .subscribing :: acts ++
        [.subscribed (.ok ()), .phase .streaming] ++ later)

theorem Attends.after {cancelled : Bool} (first : List SessionEvent) {rest : List SessionEvent}
    (attends : life.Attends cancelled (first ++ rest)) :
    life.Attends (cancelled || first.any (·.fires)) rest := by
  rintro before event after handler ending rfl summons
  obtain ⟨acts, outcome, rest, later, does⟩ :=
    attends (first ++ before) event after handler ending (by simp) summons
  exact ⟨acts, outcome, rest, later, by simpa [Bool.or_assoc] using does⟩

theorem Attends.tail {cancelled : Bool} {event : SessionEvent} {rest : List SessionEvent}
    (attends : life.Attends cancelled (event :: rest)) :
    life.Attends (cancelled || event.fires) rest := by
  simpa using Attends.after [event] attends

/-- Stations of a stream that is subscribed. -/
def Station.subscribedOnce : Station → Bool
  | streaming | received _ | delivering | idled | ending _ => true
  | between | opening | opened | connected | subscribing | subscribed => false
  | ended _ | backingOff | rested | broken _ | stopped => false

namespace Path

variable {first last : Standing} {record : List SessionEvent} {outcome : Except Stop Unit}

/-- Once a connection is subscribed, nothing but windows, pings and frames is left. -/
theorem inStream (path : life.Path first record last) (takes : life.TakesFrames)
    (attends : life.Attends first.cancelled record)
    (subscribed : first.station.subscribedOnce = true)
    (handled : first.station = .delivering → record = [] ∨
      ∃ rest, record = .delivered (.ok ()) :: rest) :
    ∀ event ∈ upToClose record, event.inStream = true := by
  induction path with
  | here standing => simp [upToClose]
  | heed heeds rest step =>
      apply step attends
      · cases heeds <;> first | rfl | cases subscribed
      · rintro rfl
        cases heeds
  | move moves rest step =>
      have later := step attends.tail
      cases moves with
      | received | idled | notReceived | pinged | notPinged =>
          exact List.forall_mem_cons.mpr ⟨rfl, later rfl nofun⟩
      | handing =>
          obtain ⟨acts, ended, others, rfl, does⟩ := attends [] _ _ _ _ rfl (.deliver _)
          obtain ⟨rfl, rfl⟩ := takes _ _ _ _ does
          exact List.forall_mem_cons.mpr ⟨rfl, later rfl fun _ => .inr ⟨others, rfl⟩⟩
      | delivered => exact List.forall_mem_cons.mpr ⟨rfl, later rfl nofun⟩
      | whileDelivering byHandler =>
          rcases handled rfl with none | ⟨rest, same⟩
          · cases none
          · cases same
            cases byHandler
      | notDelivered =>
          rcases handled rfl with none | ⟨rest, same⟩
          · cases none
          · cases same
      | disconnected => simp
      | _ => cases subscribed

/-- Once the subscribe handler has returned, the stream streams, on a live token only. -/
theorem streamed {cancelled : Bool} (path : life.Path ⟨.subscribed, cancelled⟩ record last)
    (leaves : Leaves outcome last.station) (takes : life.TakesFrames)
    (attends : life.Attends cancelled record) :
    ∃ later, upToClose record = .phase .streaming :: later ∧
      (∀ event ∈ later, event.inStream = true) ∧ (cancelled = true → later = []) := by
  cases path with
  | here => cases leaves
  | heed heeds => cases heeds
  | @move _ _ _ _ record _ moves rest =>
      cases moves with
      | streaming =>
          refine ⟨upToClose record, rfl, rest.inStream takes attends.tail rfl nofun, ?_⟩
          rintro rfl
          rcases rest.next_of_streaming_cancelled leaves with ⟨rfl, -⟩ | ⟨closed, rfl⟩ <;> rfl

/-- A connection that is being subscribed goes as far as the subscribe handler lets it. -/
theorem course_of_subscribing (path : life.Path ⟨.subscribing, false⟩ record last)
    (leaves : Leaves outcome last.station) (takes : life.TakesFrames)
    (attends : life.Attends false (.phase .subscribing :: record)) :
    life.Course false (life.connects :: .phase .subscribing :: upToClose record) := by
  obtain ⟨acts, ended, rest, rfl, does⟩ := attends [] _ _ _ _ rfl .subscribe
  obtain ⟨source, cancelled, target, earlier, moves, later⟩ := path.split rfl
  have stays : ∀ event ∈ acts, event.closes = false := fun event member =>
    (does.byHandler event member).not_closes
  have token : cancelled = acts.any (·.fires) := earlier.cancelled_eq
  rw [upToClose_append stays]
  cases moves with
  | @notSubscribed _ halt =>
      obtain ⟨closed, rfl⟩ := later.next_of_ending leaves
      exact .notSubscribed does
  | subscribed =>
      have attendsLater : life.Attends (cancelled || false) rest := by
        have again : life.Attends false
            ((.phase .subscribing :: acts ++ [.subscribed (.ok ())]) ++ rest) := by
          simpa using attends
        simpa [token, SessionEvent.fires] using Attends.after _ again
      obtain ⟨streamed, same, inStream, live⟩ := later.streamed leaves takes attendsLater
      have course := Course.streamed does inStream fun fires => live (by simp [token, fires])
      change life.Course false (_ :: _ :: (acts ++ .subscribed (.ok ()) :: upToClose rest))
      rw [same]
      simpa using course
  | whileSubscribing byHandler | whileDelivering byHandler => cases byHandler

/-- A connection that has been connected is subscribed, on a live token only. -/
theorem course_of_connected {created cancelled : Bool} {reply : CallReply Unit}
    (path : life.Path ⟨.connected, cancelled⟩ record last)
    (leaves : Leaves outcome last.station) (takes : life.TakesFrames)
    (attends : life.Attends cancelled record)
    (live : cancelled = false → created = false ∧ reply = ⟨.ok (), false⟩) :
    life.Course created (.connect life.options.url life.options.connectTimeout reply ::
      upToClose record) := by
  cases path with
  | here => cases leaves
  | heed heeds rest =>
      cases heeds
      obtain ⟨closed, rfl⟩ := rest.next_of_ending leaves
      exact .notConnected created reply
  | move moves rest =>
      cases moves with
      | subscribing =>
          obtain ⟨rfl, rfl⟩ := live rfl
          exact rest.course_of_subscribing leaves takes attends

/-- The way of a connection from its creation on. -/
theorem course {cancelled : Bool} (path : life.Path ⟨.opened, cancelled⟩ record last)
    (leaves : Leaves outcome last.station) (takes : life.TakesFrames)
    (attends : life.Attends cancelled record) : life.Course cancelled (upToClose record) := by
  cases path with
  | here => cases leaves
  | heed heeds => cases heeds
  | move moves rest =>
      cases moves with
      | notConnected =>
          obtain ⟨closed, rfl⟩ := rest.next_of_ending leaves
          exact .notConnected _ _
      | @connected _ cancels =>
          apply rest.course_of_connected leaves takes attends.tail
          intro live
          obtain ⟨was, still⟩ : cancelled = false ∧ cancels = false :=
            Bool.or_eq_false_iff.mp live
          exact ⟨was, by rw [still]⟩

/-- A frame is handed on, and the stream streams on. -/
theorem handed {frame : String} {cancelled : Bool}
    (path : life.Path ⟨.received frame, cancelled⟩ record last)
    (leaves : Leaves outcome last.station) (takes : life.TakesFrames)
    (attends : life.Attends cancelled record) :
    ∃ rest, record = .frame frame :: .delivered (.ok ()) :: rest ∧
      life.Path ⟨.streaming, cancelled⟩ rest last := by
  cases path with
  | here => cases leaves
  | heed heeds => cases heeds
  | move moves delivering =>
      cases moves with
      | handing =>
          obtain ⟨acts, ended, rest, rfl, does⟩ := attends [] _ _ _ _ rfl (.deliver frame)
          obtain ⟨rfl, rfl⟩ := takes _ _ _ _ does
          rw [show (cancelled || (SessionEvent.frame frame).fires) = cancelled from
            Bool.or_false cancelled] at delivering
          refine ⟨rest, rfl, ?_⟩
          cases delivering with
          | heed heeds => cases heeds
          | move moves rest =>
              cases moves with
              | delivered => simpa [SessionEvent.fires] using rest
              | whileDelivering byHandler => cases byHandler

end Path

end Lifecycle

end SwapFeed
