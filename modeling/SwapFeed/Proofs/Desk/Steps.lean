import SwapFeed.Proofs.Desk.Basic

/-!
# What a step does to a desk

Every step of a desk has one of four effects: nothing that matters to a book, one more waiting diff,
a snapshot in the book of its pair, or an empty queue.  Invariants of runs are proved from these
effects alone.
-/

namespace SwapFeed

/-! ## Many diffs at once -/

namespace Tracker

/-- Apply messages one after the other. -/
def applyAll (tracker : Tracker) (messages : List BookMessage) : Tracker :=
  messages.foldl applyMessage tracker

/-- How messages meet the books when they are applied one after the other. -/
def meetings (tracker : Tracker) : List BookMessage → List Arrival
  | [] => []
  | message :: rest => ⟨message, tracker⟩ :: meetings (tracker.applyMessage message) rest

@[simp] theorem book?_applyAll (tracker : Tracker) (messages : List BookMessage) (pair : String) :
    (tracker.applyAll messages).book? pair =
      (tracker.book? pair).map (·.applyAll messages) := by
  induction messages generalizing tracker with
  | nil => simp [applyAll, Book.applyAll]
  | cons message rest step =>
      have here := step (tracker.applyMessage message)
      rw [book?_applyMessage, Option.map_map] at here
      exact here

@[simp] theorem length_meetings (tracker : Tracker) (messages : List BookMessage) :
    (tracker.meetings messages).length = messages.length := by
  induction messages generalizing tracker with
  | nil => rfl
  | cons message rest step => simp [meetings, step]

/-- A message meets the books after all messages in front of it. -/
theorem getElem?_meetings (tracker : Tracker) (earlier later : List BookMessage)
    (message : BookMessage) :
    (tracker.meetings (earlier ++ message :: later))[earlier.length]? =
      some ⟨message, tracker.applyAll earlier⟩ := by
  induction earlier generalizing tracker with
  | nil => rfl
  | cons first rest step =>
      have there := step (tracker.applyMessage first)
      simpa [meetings, applyAll] using there

end Tracker

namespace Desk

theorem foldl_take (desk : Desk) (messages : List BookMessage) :
    messages.foldl take desk =
      { desk with
        tracker := desk.tracker.applyAll messages
        arrivals := desk.arrivals ++ desk.tracker.meetings messages } := by
  induction messages generalizing desk with
  | nil => simp [Tracker.applyAll, Tracker.meetings]
  | cons message rest step =>
      rw [List.foldl_cons, step]
      simp [take, Tracker.applyAll, Tracker.meetings]

/-! ## Draining -/

theorem consume_take (desk : Desk) :
    (desk.source.feed.diffs.consume take desk).1 =
      { desk with
        tracker := desk.tracker.applyAll desk.waiting
        arrivals := desk.arrivals ++ desk.tracker.meetings desk.waiting } := by
  rw [EventQueue.consume_fst, foldl_take]
  rfl

theorem waiting_drain (desk : Desk) : desk.drain.waiting = [] := by
  simp [waiting, drain]

theorem tracker_drain (desk : Desk) :
    desk.drain.tracker = desk.tracker.applyAll desk.waiting := by
  simp [drain, consume_take]

theorem arrivals_drain (desk : Desk) :
    desk.drain.arrivals = desk.arrivals ++ desk.tracker.meetings desk.waiting := by
  simp [drain, consume_take]

/-- What was taken from the queue stays remembered. -/
theorem getElem?_arrivals_step {desk : Desk} {index : Nat} {arrival : Arrival} (step : DeskStep)
    (taken : desk.arrivals[index]? = some arrival) :
    (desk.step step).arrivals[index]? = some arrival := by
  cases step with
  | receive now raw => exact taken
  | query now answer pair =>
      have kept : (desk.query now answer pair).arrivals = desk.arrivals := by
        simp only [query]
        split
        · rfl
        · rfl
      rw [Desk.step, kept]
      exact taken
  | drain =>
      obtain ⟨inside, -⟩ := List.getElem?_eq_some_iff.mp taken
      rw [Desk.step, arrivals_drain, List.getElem?_append_left inside]
      exact taken

theorem getElem?_arrivals_run {desk : Desk} {index : Nat} {arrival : Arrival}
    (steps : List DeskStep) (taken : desk.arrivals[index]? = some arrival) :
    (desk.run steps).arrivals[index]? = some arrival := by
  induction steps generalizing desk with
  | nil => exact taken
  | cons step rest inductionStep => exact inductionStep (getElem?_arrivals_step step taken)

/-! ## Drawing ids -/

/-- One update id is drawn at a clock reading in range. -/
def Draws (desk after : Desk) : Prop :=
  ∃ now stamp, now ≤ UpdateIds.latestMicros ∧
    after.source.feed.ids = desk.source.feed.ids.advance now stamp

theorem Draws.lastId_lt {desk after : Desk} (draws : desk.Draws after)
    (room : desk.lastId.toNat + 1 < UInt64.size) : desk.lastId < after.lastId := by
  rcases draws with ⟨now, stamp, -, drawn⟩
  unfold lastId at room ⊢
  rw [drawn]
  exact UpdateIds.last_lt_last_advance _ now stamp room

theorem Draws.toNat_lastId_le {desk after : Desk} (draws : desk.Draws after) :
    after.lastId.toNat ≤ max UpdateIds.latestMicros.toNat (desk.lastId.toNat + 1) := by
  rcases draws with ⟨now, stamp, clock, drawn⟩
  rw [lastId, drawn]
  exact UpdateIds.toNat_last_advance_le _ clock stamp

/-! ## The effect of a step -/

/-- A desk after a snapshot of a pair got the last of some ids. -/
def quote (desk : Desk) (pair : String) (row : SnapshotRow) (ids : UpdateIds) : Desk :=
  { desk with
    source := { desk.source with feed := { desk.source.feed with ids := ids } }
    tracker := desk.tracker.applyMessage (row.toSnapshot pair ids.last) }

section

variable (desk : Desk) (pair : String) (row : SnapshotRow) (ids : UpdateIds)

theorem ids_quote : (desk.quote pair row ids).source.feed.ids = ids := rfl

theorem waiting_quote : (desk.quote pair row ids).waiting = desk.waiting := rfl

theorem arrivals_quote : (desk.quote pair row ids).arrivals = desk.arrivals := rfl

theorem tracker_quote :
    (desk.quote pair row ids).tracker =
      desk.tracker.applyMessage (row.toSnapshot pair (desk.quote pair row ids).lastId) := rfl

end

theorem query_of_ok {desk : Desk} {answer : Answerer} {pair : String} {row : SnapshotRow}
    (now : Int)
    (fetched : (SnapshotRow.fetch desk.source.context answer pair).result = .ok row) :
    desk.query now answer pair =
      desk.quote pair row (row.nextIds (Source.clockWord now) desk.source.feed.ids) := by
  simp [query, Source.fetchSnapshot, fetched, quote]

theorem query_of_error {desk : Desk} {answer : Answerer} {pair : String} {reason : QueryError}
    (now : Int)
    (fetched : (SnapshotRow.fetch desk.source.context answer pair).result = .error reason) :
    desk.query now answer pair = desk := by
  simp [query, Source.fetchSnapshot, fetched]

/-- What a step of a source's desk does. -/
inductive Effect (source : Source) (desk after : Desk) : DeskStep → Prop where
  /-- No diff, no snapshot, and no id drawn. -/
  | idle {step : DeskStep} (carries : source.changeIn? step = none)
      (noted : ∀ pair basis, source.note pair basis step = basis)
      (lastId : after.lastId = desk.lastId) (waiting : after.waiting = desk.waiting)
      (tracker : after.tracker = desk.tracker) (arrivals : after.arrivals = desk.arrivals) :
      Effect source desk after step
  /-- A change gets an id and waits behind all others. -/
  | queued {now : Int} {raw : String} {change : BookChange}
      (carries : source.changeOf? raw = some change) (draws : desk.Draws after)
      (waiting : after.waiting = desk.waiting ++ [change.toDiff after.lastId])
      (tracker : after.tracker = desk.tracker) (arrivals : after.arrivals = desk.arrivals) :
      Effect source desk after (.receive now raw)
  /-- A snapshot gets an id and goes to the book of its pair. -/
  | quoted {now : Int} {answer : Answerer} {pair : String} {row : SnapshotRow}
      (brings : source.rowsOf? answer pair = some row) (draws : desk.Draws after)
      (waiting : after.waiting = desk.waiting)
      (tracker : after.tracker = desk.tracker.applyMessage (row.toSnapshot pair after.lastId))
      (arrivals : after.arrivals = desk.arrivals) :
      Effect source desk after (.query now answer pair)
  /-- All waiting diffs meet the books, in order. -/
  | drained (lastId : after.lastId = desk.lastId) (waiting : after.waiting = [])
      (tracker : after.tracker = desk.tracker.applyAll desk.waiting)
      (arrivals : after.arrivals = desk.arrivals ++ desk.tracker.meetings desk.waiting) :
      Effect source desk after .drain

theorem drain_effect (source : Source) (desk : Desk) : Effect source desk desk.drain .drain :=
  .drained rfl (waiting_drain desk) (tracker_drain desk) (arrivals_drain desk)

/-- A desk serves a source: it differs from it at most in its feed. -/
def Serves (desk : Desk) (source : Source) : Prop :=
  desk.source = { source with feed := desk.source.feed }

theorem opening_serves (source : Source) (pairs : List String) :
    (opening source pairs).Serves source := rfl

section

variable {source : Source} {desk : Desk} (serves : desk.Serves source)
include serves

theorem Serves.changeOf?_eq (raw : String) : desk.source.changeOf? raw = source.changeOf? raw := by
  rw [serves]
  rfl

theorem Serves.rowsOf?_eq (answer : Answerer) (pair : String) :
    desk.source.rowsOf? answer pair = source.rowsOf? answer pair := by
  rw [serves]
  rfl

theorem Serves.receive (now : Int) (raw : String) : (desk.receive now raw).Serves source := by
  rw [Serves] at serves ⊢
  simp only [Desk.receive, Source.process]
  rw [serves]

theorem Serves.query (now : Int) (answer : Answerer) (pair : String) :
    (desk.query now answer pair).Serves source := by
  rw [Serves] at serves ⊢
  simp only [Desk.query, Source.fetchSnapshot]
  cases (SnapshotRow.fetch desk.source.context answer pair).result with
  | error reason => exact serves
  | ok row =>
      simp only
      rw [serves]

theorem Serves.drain : desk.drain.Serves source := by
  rw [Serves] at serves ⊢
  simp only [Desk.drain]
  rw [serves]

/-- Steps leave everything of a source alone but its feed. -/
theorem Serves.step (step : DeskStep) : (desk.step step).Serves source := by
  cases step with
  | receive now raw => exact serves.receive now raw
  | query now answer pair => exact serves.query now answer pair
  | drain => exact serves.drain

theorem receive_effect {now : Int} (clock : Source.PlausibleClock now) (raw : String) :
    Effect source desk (desk.receive now raw) (.receive now raw) := by
  have owned := serves.changeOf?_eq raw
  cases delivered : Delivery.ofText desk.source.names desk.source.table raw with
  | diff change =>
      have carries : desk.source.changeOf? raw = some change := by
        simp [Source.changeOf?, delivered]
      refine .queued (owned ▸ carries) ?_ ?_ rfl rfl
      · refine ⟨Source.clockWord now, UInt64.ofNat (change.millis.toNat * 1000),
          Source.clockWord_le clock, ?_⟩
        simp [receive, Source.process, Feed.process, delivered, Feed.deliver, BookChange.nextIds]
      · simp [waiting, lastId, receive, Source.process, Feed.process, delivered, Feed.deliver]
  | trades trades | funding updates | dropped log =>
      have carries : source.changeOf? raw = none := by
        rw [← owned]
        simp [Source.changeOf?, delivered]
      refine .idle carries ?_ ?_ ?_ rfl rfl
      · intro pair basis
        simp [Source.note, carries]
      · simp [lastId, receive, Source.process, Feed.process, delivered, Feed.deliver]
      · simp [waiting, receive, Source.process, Feed.process, delivered, Feed.deliver]

theorem query_effect {now : Int} (clock : Source.PlausibleClock now) (answer : Answerer)
    (pair : String) :
    Effect source desk (desk.query now answer pair) (.query now answer pair) := by
  have owned := serves.rowsOf?_eq answer pair
  cases fetched : (SnapshotRow.fetch desk.source.context answer pair).result with
  | error reason =>
      have brings : source.rowsOf? answer pair = none := by
        rw [← owned]
        simp [Source.rowsOf?, fetched, Except.toOption]
      rw [query_of_error now fetched]
      refine .idle rfl ?_ rfl rfl rfl rfl
      intro asked basis
      simp only [Source.note, brings]
      split <;> rfl
  | ok row =>
      have brings : source.rowsOf? answer pair = some row := by
        rw [← owned]
        simp [Source.rowsOf?, fetched, Except.toOption]
      rw [query_of_ok now fetched]
      have draws : desk.Draws
          (desk.quote pair row (row.nextIds (Source.clockWord now) desk.source.feed.ids)) :=
        ⟨Source.clockWord now,
          (UpdateIds.stampOfSeconds? row.timestamp).getD (Source.clockWord now),
          Source.clockWord_le clock, ids_quote ..⟩
      exact .quoted brings draws (waiting_quote ..) (tracker_quote ..) (arrivals_quote ..)

/-- Every step has one of the four effects. -/
theorem step_effect {step : DeskStep} (clock : step.ClockInRange) :
    Effect source desk (desk.step step) step := by
  cases step with
  | receive now raw => exact receive_effect serves clock raw
  | query now answer pair => exact query_effect serves clock answer pair
  | drain => exact drain_effect source desk

end

end Desk

end SwapFeed
