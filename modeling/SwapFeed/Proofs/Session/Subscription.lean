import SwapFeed.Proofs.Session.Connection
import SwapFeed.Source

/-!
# No connection is read before it is subscribed

The subscribe handler of a source sends one request per channel, and returns only if all of them
are sent.  So a connection is read only if all of them are sent, and what comes in on it is never a
reason to give it up.
-/

namespace SwapFeed

namespace SessionEvent

/-- The text that a handler tries to send. -/
def sending? : SessionEvent → Option String
  | send text _ => some text
  | _ => none

/-- The text that a handler has sent. -/
def sent? : SessionEvent → Option String
  | send text ⟨.ok _, _⟩ => some text
  | _ => none

end SessionEvent

namespace Subscription

/-- The pause between two texts, if pacing asks for one. -/
def gap (pacing : Int) : List SessionEvent :=
  if 0 < pacing then [.pause pacing ⟨.ok (), false⟩] else []

/-- The entries of texts that are all sent, on a token that is live until the last of them is. -/
def allSent (pacing : Int) (cancels : Bool) : List String → List SessionEvent
  | [] => []
  | [last] => [.send last ⟨.ok (), cancels⟩]
  | text :: next :: rest =>
      .send text ⟨.ok (), false⟩ :: (gap pacing ++ allSent pacing cancels (next :: rest))

/-- Not all of the texts are sent; those that are tried or sent are the first ones. -/
structure StopsShort (texts : List String) (acts : List SessionEvent) : Prop where
  tried : acts.filterMap (·.sending?) <+: texts
  sent : acts.filterMap (·.sent?) <+: texts
  notAll : acts.filterMap (·.sent?) ≠ texts

/-- What sending some texts, one after the other, may come to. -/
def Comes (pacing : Int) (texts : List String) (cancelled : Bool) (acts : List SessionEvent)
    (outcome : Except Halt Unit) : Prop :=
  outcome = .ok () ∧ cancelled = false ∧ (∃ cancels, acts = allSent pacing cancels texts) ∨
    (∃ halt, outcome = .error halt) ∧ StopsShort texts acts

namespace StopsShort

variable {texts : List String} {text : String} {acts : List SessionEvent}

theorem at_once : StopsShort (text :: texts) [] :=
  ⟨List.nil_prefix, List.nil_prefix, nofun⟩

theorem failing {halt : Halt} {cancels : Bool} :
    StopsShort (text :: texts) [.send text ⟨.error halt, cancels⟩] :=
  ⟨List.cons_prefix_cons.mpr ⟨rfl, List.nil_prefix⟩, List.nil_prefix, nofun⟩

theorem send (short : StopsShort texts acts) {value : Unit} {cancels : Bool} :
    StopsShort (text :: texts) (.send text ⟨.ok value, cancels⟩ :: acts) where
  tried := List.cons_prefix_cons.mpr ⟨rfl, short.tried⟩
  sent := List.cons_prefix_cons.mpr ⟨rfl, short.sent⟩
  notAll := fun all => short.notAll (List.cons.inj all).2

theorem pause (short : StopsShort texts acts) {delay : Int} {reply : CallReply Unit} :
    StopsShort texts (.pause delay reply :: acts) :=
  ⟨short.tried, short.sent, short.notAll⟩

end StopsShort

variable {σ : Type} {pacing : Int} {request : Json} {rest : List Json} {cancelled : Bool}
  {acts : List SessionEvent} {outcome : Except Halt Unit}

/-- A request is sent on a live token only.  What sending comes to is then up to what is done
next. -/
theorem comes_of_sendOne {next : Unit → Handler σ Unit} {texts : List String}
    (does : (sendOne request >>= next).Acts cancelled acts outcome)
    (goesOn : ∀ cancels after, (next ()).Acts cancels after outcome →
      outcome = .ok () ∧ (∃ fires, .send request.render ⟨.ok (), cancels⟩ :: after =
        allSent pacing fires (request.render :: texts)) ∨
      (∃ halt, outcome = .error halt) ∧ StopsShort texts after) :
    Comes pacing (request.render :: texts) cancelled acts outcome := by
  cases does with
  | checkThen rest =>
      cases cancelled with
      | true =>
          cases rest
          exact .inr ⟨⟨_, rfl⟩, .at_once⟩
      | false =>
          cases rest with
          | sendThen reply rest =>
              rcases reply with ⟨halt | value, cancels⟩
              · cases rest
                exact .inr ⟨⟨_, rfl⟩, .failing⟩
              · rcases goesOn cancels _ rest with ⟨rfl, fires, all⟩ | ⟨halts, short⟩
                · exact .inl ⟨rfl, rfl, fires, all⟩
                · exact .inr ⟨halts, short.send⟩

theorem sendRest_cons (pacing : Int) (request : Json) (rest : List Json) :
    (sendRest pacing (request :: rest) : Handler σ Unit) =
      if 0 < pacing then Handler.pause pacing >>= fun _ => sendPaced pacing (request :: rest)
      else sendPaced pacing (request :: rest) := rfl

/-- A gap on the way to some texts. -/
theorem comes_of_gap
    (step : ∀ {cancelled acts}, (sendPaced pacing (request :: rest) : Handler σ Unit).Acts
      cancelled acts outcome →
      Comes pacing ((request :: rest).map Json.render) cancelled acts outcome)
    (does : (sendRest pacing (request :: rest) : Handler σ Unit).Acts cancelled acts outcome) :
    outcome = .ok () ∧ cancelled = false ∧ (∃ cancels, acts = gap pacing ++
        allSent pacing cancels ((request :: rest).map Json.render)) ∨
      (∃ halt, outcome = .error halt) ∧ StopsShort ((request :: rest).map Json.render) acts := by
  rw [sendRest_cons] at does
  by_cases paced : 0 < pacing
  · rw [if_pos paced] at does
    rw [gap, if_pos paced]
    cases does with
    | notPaused rest =>
        cases rest
        exact .inr ⟨⟨_, rfl⟩, .at_once⟩
    | pauseThen reply rest =>
        rcases reply with ⟨halt | value, cancels⟩
        · cases rest
          exact .inr ⟨⟨_, rfl⟩, StopsShort.at_once.pause⟩
        · rcases step rest with ⟨rfl, rfl, cancels, rfl⟩ | ⟨halts, short⟩
          · exact .inl ⟨rfl, rfl, cancels, rfl⟩
          · exact .inr ⟨halts, short.pause⟩
  · rw [if_neg paced] at does
    rw [gap, if_neg paced]
    exact step does

theorem comes_of_sendPaced
    (does : (sendPaced pacing (request :: rest) : Handler σ Unit).Acts cancelled acts outcome) :
    Comes pacing ((request :: rest).map Json.render) cancelled acts outcome := by
  induction rest generalizing request cancelled acts with
  | nil =>
      apply comes_of_sendOne does
      intro cancels after done
      cases done
      exact .inl ⟨rfl, cancels, rfl⟩
  | cons next rest step =>
      apply comes_of_sendOne does
      intro cancels after later
      rcases comes_of_gap step later with ⟨rfl, rfl, fires, rfl⟩ | stops
      · exact .inl ⟨rfl, fires, rfl⟩
      · exact .inr stops

/-- The subscribe handler returns only if all requests are sent. -/
theorem comes_of_send
    (does : (send pacing (request :: rest) : Handler σ Unit).Acts cancelled acts outcome) :
    Comes pacing ((request :: rest).map Json.render) cancelled acts outcome := by
  obtain ⟨result, before, after, rfl, sends, reports⟩ := Handler.Acts.of_outcomeOf_bind does
  rcases comes_of_sendPaced sends with ⟨rfl, rfl, all⟩ | ⟨⟨halt, rfl⟩, short⟩
  · cases reports with
    | printOutThen rest =>
        cases rest
        exact .inl ⟨rfl, rfl, by simpa using all⟩
  · have ended : after = [] ∧ outcome = .error halt := by
      cases halt with
      | cancelled =>
          cases reports
          exact ⟨rfl, rfl⟩
      | failed failure =>
          cases reports with
          | printErrThen rest =>
              cases rest
              exact ⟨rfl, rfl⟩
    rw [ended.1, ended.2, List.append_nil]
    exact .inr ⟨⟨halt, rfl⟩, short⟩

/-! ## Texts that are all sent -/

theorem filterMap_allSent {pick : SessionEvent → Option String}
    (pauses : ∀ delay reply, pick (.pause delay reply) = none)
    (sends : ∀ text cancels, pick (.send text ⟨.ok (), cancels⟩) = some text)
    (pacing : Int) (cancels : Bool) (texts : List String) :
    (allSent pacing cancels texts).filterMap pick = texts := by
  have gapless : (gap pacing).filterMap pick = [] := by
    rw [gap]
    split
    · simp [pauses]
    · rfl
  induction texts using allSent.induct with
  | case1 => rfl
  | case2 last => simp [allSent, sends]
  | case3 text next rest step => simp [allSent, sends, gapless, step]

/-- What is done on a connection, from its creation until it is closed, keeps to some texts: these
are sent in order, each once and nothing else is, and unless all of them are sent the connection is
not read.  They are not all sent if one of them fails, or if the token fires before the last one is
tried. -/
structure KeepsTo (texts : List String) (held : List SessionEvent) : Prop where
  tried : held.filterMap (·.sending?) <+: texts
  sent : held.filterMap (·.sent?) <+: texts
  failing : (∃ text halt cancels, .send text ⟨.error halt, cancels⟩ ∈ held) →
    held.filterMap (·.sent?) ≠ texts
  striking : ∀ begun rest, held = begun ++ rest → begun.any (·.fires) = true →
    begun.filterMap (·.sending?) ≠ texts → held.filterMap (·.sent?) ≠ texts
  unread : held.filterMap (·.sent?) ≠ texts → ∀ event ∈ held, event.receives = false

section Within

variable {texts : List String} {before after : List SessionEvent}

end Within

end Subscription

namespace Lifecycle.Course

open Subscription

variable {σ : Type} {life : Lifecycle σ} {pacing : Int} {request : Json} {rest : List Json}
  {cancelled : Bool}

end Lifecycle.Course

namespace Source

open Subscription

variable {σ : Type}

/-- The requests that a source sends on a connection: for trades, for order books and for
instruments, each for the native ids of all pairs. -/
def requestTexts (source : Source) : List String :=
  [source.names.trades, source.names.orderBook, source.names.instruments].map fun channel =>
    (request channel (source.settings.pairs.map source.table.toNative)).render

/-- How a connection comes to be read: it is created and connected, all requests are sent, with
pauses in between if pacing asks for them, and the token is live all along. -/
def opening (source : Source) : List SessionEvent :=
  [.create ⟨.ok (), false⟩,
      .connect source.settings.streamUrl source.settings.connectTimeout ⟨.ok (), false⟩,
      .phase .subscribing] ++
    allSent source.settings.subscribePacing false source.requestTexts ++
    [.subscribed (.ok ()), .phase .streaming]

section Paths

variable {source : Source} {transport : Transport σ} {now : Int} {cancelled : Bool}
  {record : List SessionEvent} {last : Lifecycle.Standing} {outcome : Except Stop Unit}
  {before after : List SessionEvent}

end Paths

end Source

end SwapFeed
