import SwapFeed.Proofs.Desk.Reconstruction

/-!
# Which waiting changes are stale

Whether a change counts is decided by ids, and ids follow the order in which changes and snapshots
are handled.  So a change is lost if a snapshot of its pair is applied while it waits, even if the
change is newer; and a change that is handled after a snapshot counts, even if it is older.  The
exchange times of both have no part in this.

The invariant is about one waiting diff: it keeps its place in the queue, and what the book is going
to say to it changes only with a snapshot of its pair, which makes it stale for good.
-/

namespace SwapFeed

/-- Whether the book of a pair accepted a diff that was taken from the queue. -/
def Desk.verdict? (desk : Desk) (pair : String) (index : Nat) : Option Bool :=
  desk.arrivals[index]?.bind fun arrival =>
    (arrival.tracker.book? pair).map (·.accepts arrival.message)

/-- The way of one change of a pair to the books: it is handled after some steps, waits during
others, and is taken by a drain. -/
structure Passage (source : Source) (pair : String) (steps : List DeskStep) where
  before : List DeskStep
  now : Int
  raw : String
  change : BookChange
  between : List DeskStep
  after : List DeskStep
  steps_eq : steps = before ++ .receive now raw :: (between ++ .drain :: after)
  carries : source.changeOf? raw = some change
  samePair : change.pair = pair
  undrained : .drain ∉ between

namespace Passage

variable {source : Source} {pair : String} {steps : List DeskStep}

/-- The steps before the drain. -/
def handled (passage : Passage source pair steps) : List DeskStep :=
  passage.before ++ .receive passage.now passage.raw :: passage.between

/-- A snapshot is the last one of the pair that is applied before the drain. -/
def LastSnapshot (passage : Passage source pair steps) (row : SnapshotRow) : Prop :=
  ∃ earlier quote later, passage.handled = earlier ++ quote :: later ∧
    source.Brings pair row quote ∧ ∀ step ∈ later, ¬source.Quotes pair step

/-- A snapshot of the pair is applied while the change waits. -/
def Overtaken (passage : Passage source pair steps) : Prop :=
  ∃ step ∈ passage.between, source.Quotes pair step

/-- The diff of the change and the book of its pair as they meet at the drain. -/
def Meets (passage : Passage source pair steps) (desk : Desk) (message : BookMessage)
    (book : Book) : Prop :=
  (∃ updateId, message = passage.change.toDiff updateId) ∧
    ∃ tracker,
      desk.arrivals[(source.changes passage.before).length]? = some ⟨message, tracker⟩ ∧
      tracker.book? pair = some book

theorem Meets.unique {passage : Passage source pair steps} {desk : Desk}
    {message other : BookMessage} {book otherBook : Book}
    (meets : passage.Meets desk message book) (otherMeets : passage.Meets desk other otherBook) :
    message = other ∧ book = otherBook := by
  rcases meets with ⟨-, tracker, arrived, found⟩
  rcases otherMeets with ⟨-, otherTracker, otherArrived, otherFound⟩
  rw [arrived, Option.some.injEq, Arrival.mk.injEq] at otherArrived
  rcases otherArrived with ⟨rfl, rfl⟩
  rw [found, Option.some.injEq] at otherFound
  exact ⟨rfl, otherFound⟩

/-- The verdict on a taken diff can be read off the desk. -/
theorem Meets.verdict?_eq {passage : Passage source pair steps} {desk : Desk}
    {message : BookMessage} {book : Book} (meets : passage.Meets desk message book) :
    desk.verdict? pair (source.changes passage.before).length = some (book.accepts message) := by
  rcases meets with ⟨-, tracker, arrived, found⟩
  simp [Desk.verdict?, arrived, found]

/-- Unless a snapshot overtakes the change, the last one was there before it. -/
theorem isSome_basis_of_not_overtaken {passage : Passage source pair steps} {row : SnapshotRow}
    (last : passage.LastSnapshot row) (inTime : ¬passage.Overtaken) :
    (source.basis pair passage.before).isSome = true := by
  rcases last with ⟨earlier, quote, later, split, brings, quiet⟩
  have quietWait : ∀ step ∈ passage.between, ¬source.Quotes pair step := by
    intro step waiting quotes
    exact inTime ⟨step, waiting, quotes⟩
  have quietRest :
      ∀ step ∈ .receive passage.now passage.raw :: passage.between, ¬source.Quotes pair step :=
    List.forall_mem_cons.mpr ⟨source.not_quotes_receive pair _ _, quietWait⟩
  have reached : source.basis pair passage.handled = some ⟨row, source.changesOf pair later⟩ := by
    rw [split]
    exact Source.basis_of_brings brings quiet
  rw [handled, Source.basis, List.foldl_append, Source.foldl_note_of_not_quotes quietRest,
    ← Source.basis] at reached
  cases basis : source.basis pair passage.before with
  | some found => rfl
  | none =>
      rw [basis] at reached
      cases reached

/-- If there is no snapshot before the change, the last one overtakes it. -/
theorem overtaken_of_not_quotes {passage : Passage source pair steps} {row : SnapshotRow}
    (last : passage.LastSnapshot row)
    (quiet : ∀ step ∈ passage.before, ¬source.Quotes pair step) : passage.Overtaken := by
  apply Classical.byContradiction
  intro inTime
  have known := isSome_basis_of_not_overtaken last inTime
  rw [Source.basis_of_not_quotes quiet] at known
  cases known

end Passage

namespace Desk

/-! ## A waiting diff -/

/-- A diff waits as the one with a given index, and the book of its pair is going to accept it
exactly if it still counts. -/
def Awaits (pair : String) (message : BookMessage) (index : Nat) (counts : Prop) (desk : Desk) :
    Prop :=
  ∃ earlier later book, desk.waiting = earlier ++ message :: later ∧
    desk.arrivals.length + earlier.length = index ∧ desk.tracker.book? pair = some book ∧
    ((book.applyAll earlier).accepts message = true ↔ counts)

variable {source : Source} {pair : String} {done : List DeskStep} {desk : Desk}
  {message : BookMessage} {index : Nat} {counts : Prop}

/-- A change that is handled waits behind all others, and counts if there is a snapshot. -/
theorem Tracks.awaits_receive (tracks : Tracks source pair done desk) {now : Int} {raw : String}
    {change : BookChange} (carries : source.changeOf? raw = some change)
    (samePair : change.pair = pair) (clock : Source.PlausibleClock now)
    (room : UpdateIds.latestMicros.toNat + done.length + 1 < UInt64.size) :
    Awaits pair (change.toDiff (desk.receive now raw).lastId) (source.changes done).length
      ((source.basis pair done).isSome = true) (desk.receive now raw) := by
  obtain ⟨book, found, -, settledBound, settled⟩ := tracks.exists_book
  cases receive_effect tracks.serves clock raw with
  | idle carriesNone =>
      rw [Source.changeIn?_receive, carries] at carriesNone
      cases carriesNone
  | queued carriesToo draws waiting tracker arrivals =>
      rw [carries, Option.some.injEq] at carriesToo
      subst carriesToo
      have above := tracks.lastId_lt draws room
      refine ⟨desk.waiting, [], book, waiting, ?_, ?_, ?_⟩
      · rw [arrivals]
        exact tracks.taken
      · rw [tracker]
        exact found
      · have fresh := UInt64.lt_of_le_of_lt settledBound above
        have sameBook : change.pair = (book.applyAll desk.waiting).pair := by
          rw [Book.pair_applyAll, Tracker.pair_of_book? found, samePair]
        rw [settled.accepts_toDiff sameBook fresh]

/-- An idle step applies no snapshot. -/
theorem not_quotes_of_noted {step : DeskStep}
    (noted : ∀ pair basis, source.note pair basis step = basis) : ¬source.Quotes pair step := by
  intro quotes
  rcases quotes with ⟨row, brings⟩
  have changed := noted pair none
  rw [Source.note_of_brings brings] at changed
  cases changed

/-- A snapshot of the pair makes the diff stale for good; nothing else but a drain matters. -/
theorem Awaits.step (awaits : Awaits pair message index counts desk)
    (tracks : Tracks source pair done desk) {step : DeskStep} (undrained : step ≠ .drain)
    (clock : step.ClockInRange)
    (room : UpdateIds.latestMicros.toNat + done.length + 1 < UInt64.size) :
    Awaits pair message index (counts ∧ ¬source.Quotes pair step) (desk.step step) := by
  rcases awaits with ⟨earlier, later, book, split, place, found, verdict⟩
  obtain rfl := Tracker.pair_of_book? found
  cases step_effect tracks.serves clock with
  | idle carries noted lastId waiting tracker arrivals =>
      refine ⟨earlier, later, book, ?_, ?_, ?_, ?_⟩
      · rw [waiting, split]
      · rw [arrivals, place]
      · rw [tracker, found]
      · rw [verdict]
        exact (and_iff_left (not_quotes_of_noted noted)).symm
  | @queued now raw change carries draws waiting tracker arrivals =>
      refine ⟨earlier, later ++ [change.toDiff (desk.step (.receive now raw)).lastId], book,
        ?_, ?_, ?_, ?_⟩
      · rw [waiting, split, List.append_assoc, List.cons_append]
      · rw [arrivals, place]
      · rw [tracker, found]
      · rw [verdict]
        exact (and_iff_left (source.not_quotes_receive book.pair now raw)).symm
  | @quoted now answer asked row brings draws waiting tracker arrivals =>
      refine ⟨earlier, later, book.apply (row.toSnapshot asked
        (desk.step (.query now answer asked)).lastId), ?_, ?_, ?_, ?_⟩
      · rw [waiting, split]
      · rw [arrivals, place]
      · rw [tracker, Tracker.book?_applyMessage, found]
        rfl
      · by_cases samePair : asked = book.pair
        · subst samePair
          have quotes : source.Quotes book.pair (.query now answer book.pair) := ⟨row, rfl, brings⟩
          have stale := tracks.waiting_le_of_draws draws room
          rw [split] at stale
          rw [Book.accepts_applyAll_apply_toSnapshot book stale row]
          constructor
          · intro accepted
            cases accepted
          · intro both
            rcases both with ⟨-, quiet⟩
            exact (quiet quotes).elim
        · have quiet : ¬source.Quotes book.pair (.query now answer asked) := by
            intro quotes
            rcases quotes with ⟨other, same, -⟩
            exact samePair same
          have unread : (row.toSnapshot asked (desk.step (.query now answer asked)).lastId).pair
              ≠ book.pair := samePair
          rw [Book.apply_of_pair_ne unread, verdict]
          exact (and_iff_left quiet).symm
  | drained => exact (undrained rfl).elim

/-- So the diff still counts after a run if no step applied a snapshot of the pair. -/
theorem Awaits.run {steps : List DeskStep} (awaits : Awaits pair message index counts desk)
    (tracks : Tracks source pair done desk) (undrained : .drain ∉ steps)
    (clocks : ∀ step ∈ steps, step.ClockInRange)
    (room : UpdateIds.latestMicros.toNat + done.length + steps.length < UInt64.size) :
    Awaits pair message index (counts ∧ ∀ step ∈ steps, ¬source.Quotes pair step)
      (desk.run steps) := by
  induction steps generalizing done desk counts with
  | nil => simpa using awaits
  | cons step rest inductionStep =>
      obtain ⟨clock, restClocks⟩ := List.forall_mem_cons.mp clocks
      obtain ⟨other, restUndrained⟩ := List.ne_and_not_mem_of_not_mem_cons undrained
      rw [List.length_cons] at room
      have next := awaits.step tracks (Ne.symm other) clock (by omega)
      have nextTracks := tracks.step clock (by omega)
      have reached := inductionStep next nextTracks restUndrained restClocks (by
        rw [List.length_append, List.length_singleton]
        omega)
      simpa [and_assoc] using reached

/-- A drain brings the diff to the book of its pair. -/
theorem Awaits.drain (awaits : Awaits pair message index counts desk) :
    ∃ tracker book, desk.drain.arrivals[index]? = some ⟨message, tracker⟩ ∧
      tracker.book? pair = some book ∧ (book.accepts message = true ↔ counts) := by
  rcases awaits with ⟨earlier, later, book, split, place, found, verdict⟩
  refine ⟨desk.tracker.applyAll earlier, book.applyAll earlier, ?_, ?_, verdict⟩
  · rw [arrivals_drain, ← place, List.getElem?_append_right (Nat.le_add_right ..),
      Nat.add_sub_cancel_left, split]
    exact Tracker.getElem?_meetings _ earlier later message
  · rw [Tracker.book?_applyAll, found]
    rfl

end Desk

/-! ## Passages -/

namespace Passage

variable {source : Source} {pairs : List String} {pair : String} {steps : List DeskStep}

/-- The change of a passage meets the book of its pair, and counts exactly if there is a snapshot
before it and none overtakes it. -/
theorem exists_meets (passage : Passage source pair steps) (tracked : pair ∈ pairs)
    (clocks : ∀ step ∈ steps, step.ClockInRange) (count : steps.length < Nat.pow 2 63) :
    ∃ message book, passage.Meets ((Desk.opening source pairs).run steps) message book ∧
      (book.accepts message = true ↔
        (source.basis pair passage.before).isSome = true ∧ ¬passage.Overtaken) := by
  have split := passage.steps_eq
  have room := UpdateIds.latestMicros_add_lt count
  have lengths := congrArg List.length split
  simp only [List.length_append, List.length_cons] at lengths
  have beforeClocks : ∀ step ∈ passage.before, step.ClockInRange := fun step member =>
    clocks step (by simp [split, member])
  have betweenClocks : ∀ step ∈ passage.between, step.ClockInRange := fun step member =>
    clocks step (by simp [split, member])
  have clock : DeskStep.ClockInRange (.receive passage.now passage.raw) :=
    clocks _ (by simp [split])
  have opened : Desk.Tracks source pair [] (Desk.opening source pairs) :=
    Desk.tracks_opening tracked
  have reached := opened.run beforeClocks (by
    rw [List.length_nil]
    omega)
  rw [List.nil_append] at reached
  have waits := reached.awaits_receive passage.carries passage.samePair clock (by omega)
  have received := reached.step clock (by omega)
  have waited := waits.run received passage.undrained betweenClocks (by
    rw [List.length_append, List.length_singleton]
    omega)
  obtain ⟨tracker, book, arrived, found, verdict⟩ := waited.drain
  have ran := congrArg (Desk.opening source pairs).run split
  rw [Desk.run_append, Desk.run_cons, Desk.run_append, Desk.run_cons] at ran
  have arrivedAtLast := Desk.getElem?_arrivals_run passage.after arrived
  have meets : passage.Meets ((Desk.opening source pairs).run steps) (passage.change.toDiff
      (((Desk.opening source pairs).run passage.before).receive passage.now passage.raw).lastId)
      book := by
    refine ⟨⟨_, rfl⟩, tracker, ?_, found⟩
    rw [ran]
    exact arrivedAtLast
  refine ⟨_, book, meets, ?_⟩
  rw [verdict]
  simp [Overtaken]

/-- Behind a snapshot a change counts exactly if the snapshot does not overtake it. -/
theorem exists_meets_of_lastSnapshot (passage : Passage source pair steps) {row : SnapshotRow}
    (last : passage.LastSnapshot row) (tracked : pair ∈ pairs)
    (clocks : ∀ step ∈ steps, step.ClockInRange) (count : steps.length < Nat.pow 2 63) :
    ∃ message book, passage.Meets ((Desk.opening source pairs).run steps) message book ∧
      (book.accepts message = true ↔ ¬passage.Overtaken) := by
  obtain ⟨message, book, meets, verdict⟩ := passage.exists_meets tracked clocks count
  refine ⟨message, book, meets, ?_⟩
  rw [verdict]
  constructor
  · intro counts
    exact counts.2
  · intro inTime
    exact ⟨isSome_basis_of_not_overtaken last inTime, inTime⟩

end Passage

/-! ## One change and one snapshot -/

/-- A change that offers nine at 100. -/
def bitcoinUpdate (millis : String) : String :=
  Wire.update "BTC-USDT-SWAP" millis "[[\"100\",\"9\"]]" "[]"

/-- A snapshot that offers one at 100. -/
def bitcoinAnswer (millis : String) : Answerer := fun _ =>
  .ok (Wire.snapshot millis "[[\"100\",\"1\"]]" "[]")

/-- A snapshot is applied, and then a change is handled. -/
def quoteThenChange (quoteMillis changeMillis : String) : List DeskStep :=
  [.query 0 (bitcoinAnswer quoteMillis) "BTC-USDT", .receive 0 (bitcoinUpdate changeMillis),
    .drain]

/-- A change is handled, and then a snapshot is applied. -/
def changeThenQuote (changeMillis quoteMillis : String) : List DeskStep :=
  [.receive 0 (bitcoinUpdate changeMillis), .query 0 (bitcoinAnswer quoteMillis) "BTC-USDT",
    .drain]

namespace Passage

section

variable {source : Source} {pair : String} {quoteMillis changeMillis : String}

theorem between_quoteThenChange
    (passage : Passage source pair (quoteThenChange quoteMillis changeMillis)) :
    passage.between = [] := by
  rcases passage with ⟨before, now, raw, change, between, after, split, -, -, -⟩
  cases before with
  | nil => simp [quoteThenChange] at split
  | cons first rest =>
      cases rest with
      | nil =>
          cases between with
          | nil => rfl
          | cons head tail => simp [quoteThenChange] at split
      | cons second rest => cases rest <;> simp [quoteThenChange] at split

theorem before_changeThenQuote
    (passage : Passage source pair (changeThenQuote changeMillis quoteMillis)) :
    passage.before = [] := by
  rcases passage with ⟨before, now, raw, change, between, after, split, -, -, -⟩
  cases before with
  | nil => rfl
  | cons first rest =>
      cases rest with
      | nil => simp [changeThenQuote] at split
      | cons second rest => cases rest <;> simp [changeThenQuote] at split

end

section

variable {source : Source} (quoteMillis changeMillis : String) {change : BookChange}
  (carries : source.changeOf? (bitcoinUpdate changeMillis) = some change)
  (samePair : change.pair = "BTC-USDT") {row : SnapshotRow}
  (brings : source.rowsOf? (bitcoinAnswer quoteMillis) "BTC-USDT" = some row)

/-- The way of a change that is handled after the snapshot. -/
def ofQuoteThenChange : Passage source "BTC-USDT" (quoteThenChange quoteMillis changeMillis) where
  before := [.query 0 (bitcoinAnswer quoteMillis) "BTC-USDT"]
  now := 0
  raw := bitcoinUpdate changeMillis
  change := change
  between := []
  after := []
  steps_eq := rfl
  carries := carries
  samePair := samePair
  undrained := List.not_mem_nil

/-- The way of a change that waits while the snapshot is applied. -/
def ofChangeThenQuote : Passage source "BTC-USDT" (changeThenQuote changeMillis quoteMillis) where
  before := []
  now := 0
  raw := bitcoinUpdate changeMillis
  change := change
  between := [.query 0 (bitcoinAnswer quoteMillis) "BTC-USDT"]
  after := []
  steps_eq := rfl
  carries := carries
  samePair := samePair
  undrained := by simp

include brings

theorem lastSnapshot_ofQuoteThenChange :
    (ofQuoteThenChange quoteMillis changeMillis carries samePair).LastSnapshot row := by
  refine ⟨[], .query 0 (bitcoinAnswer quoteMillis) "BTC-USDT",
    [.receive 0 (bitcoinUpdate changeMillis)], rfl, ⟨rfl, brings⟩, ?_⟩
  intro step member
  rw [List.mem_singleton.mp member]
  exact Source.not_quotes_receive _ _ _ _

theorem lastSnapshot_ofChangeThenQuote :
    (ofChangeThenQuote quoteMillis changeMillis carries samePair).LastSnapshot row := by
  refine ⟨[.receive 0 (bitcoinUpdate changeMillis)],
    .query 0 (bitcoinAnswer quoteMillis) "BTC-USDT", [], rfl, ⟨rfl, brings⟩, ?_⟩
  intro step member
  cases member

end

end Passage

namespace Source

/-- Every change that is newer than the last snapshot of its pair is accepted. -/
def KeepsNewer (source : Source) (pairs : List String) (pair : String) (steps : List DeskStep) :
    Prop :=
  ∀ (passage : Passage source pair steps) (row : SnapshotRow), passage.LastSnapshot row →
    row.millis < passage.change.millis →
    ∃ message book, passage.Meets ((Desk.opening source pairs).run steps) message book ∧
      book.accepts message = true

/-- Every change that is older than the last snapshot of its pair is refused, and leaves the book
as it is. -/
def RefusesOlder (source : Source) (pairs : List String) (pair : String)
    (steps : List DeskStep) : Prop :=
  ∀ (passage : Passage source pair steps) (row : SnapshotRow), passage.LastSnapshot row →
    passage.change.millis < row.millis →
    ∃ message book, passage.Meets ((Desk.opening source pairs).run steps) message book ∧
      book.accepts message = false ∧ book.apply message = book

variable {source : Source} {pairs : List String} {pair : String} {steps : List DeskStep}

/-- No newer change is lost exactly if none waits while a snapshot of its pair is applied. -/
theorem keepsNewer_iff (tracked : pair ∈ pairs) (clocks : ∀ step ∈ steps, step.ClockInRange)
    (count : steps.length < Nat.pow 2 63) :
    source.KeepsNewer pairs pair steps ↔
      ∀ (passage : Passage source pair steps) (row : SnapshotRow), passage.LastSnapshot row →
        row.millis < passage.change.millis → ¬passage.Overtaken := by
  constructor
  · intro keeps passage row last newer
    obtain ⟨message, book, meets, accepted⟩ := keeps passage row last newer
    obtain ⟨other, otherBook, otherMeets, verdict⟩ :=
      passage.exists_meets_of_lastSnapshot last tracked clocks count
    obtain ⟨rfl, rfl⟩ := meets.unique otherMeets
    exact verdict.mp accepted
  · intro inTime passage row last newer
    obtain ⟨message, book, meets, verdict⟩ :=
      passage.exists_meets_of_lastSnapshot last tracked clocks count
    exact ⟨message, book, meets, verdict.mpr (inTime passage row last newer)⟩

/-- A newer change that is handled after the snapshot is accepted. -/
theorem keepsNewer_quoteThenChange :
    "BTC-USDT" ∈ ["BTC-USDT"] ∧ (∀ step ∈ quoteThenChange "1000" "2000", step.ClockInRange) ∧
      (quoteThenChange "1000" "2000").length < Nat.pow 2 63 ∧
      bitcoinSource.KeepsNewer ["BTC-USDT"] "BTC-USDT" (quoteThenChange "1000" "2000") := by
  have tracked : "BTC-USDT" ∈ ["BTC-USDT"] := by decide
  have clocks : ∀ step ∈ quoteThenChange "1000" "2000", step.ClockInRange := by decide
  have count : (quoteThenChange "1000" "2000").length < Nat.pow 2 63 := by decide
  refine ⟨tracked, clocks, count, (keepsNewer_iff tracked clocks count).mpr ?_⟩
  intro passage row last newer overtaken
  rcases overtaken with ⟨step, member, -⟩
  rw [passage.between_quoteThenChange] at member
  cases member

/-- A newer change that waits while the snapshot is applied is lost. -/
theorem not_keepsNewer_changeThenQuote :
    (∀ step ∈ changeThenQuote "2000" "1000", step.ClockInRange) ∧
      ¬bitcoinSource.KeepsNewer ["BTC-USDT"] "BTC-USDT" (changeThenQuote "2000" "1000") := by
  have carries : bitcoinSource.changeOf? (bitcoinUpdate "2000") =
      some ⟨"BTC-USDT", 2000, [⟨.ofInt 100, .ofInt 9⟩], []⟩ := by
    decide +kernel
  have brings : bitcoinSource.rowsOf? (bitcoinAnswer "1000") "BTC-USDT" =
      some ⟨1000, [⟨.ofInt 100, .ofInt 1⟩], []⟩ := by
    decide +kernel
  have refused : ((Desk.opening bitcoinSource ["BTC-USDT"]).run
      (changeThenQuote "2000" "1000")).verdict? "BTC-USDT" 0 = some false := by
    decide +kernel
  have newer : (1000 : Int) < 2000 := by decide
  refine ⟨by decide, ?_⟩
  intro keeps
  obtain ⟨message, book, meets, accepted⟩ :=
    keeps (.ofChangeThenQuote "1000" "2000" carries rfl) _
      (Passage.lastSnapshot_ofChangeThenQuote "1000" "2000" carries rfl brings) newer
  have verdict := meets.verdict?_eq
  rw [accepted] at verdict
  cases refused.symm.trans verdict

/-- Every older change is refused exactly if each one waits while a snapshot of its pair is
applied. -/
theorem refusesOlder_iff (tracked : pair ∈ pairs) (clocks : ∀ step ∈ steps, step.ClockInRange)
    (count : steps.length < Nat.pow 2 63) :
    source.RefusesOlder pairs pair steps ↔
      ∀ (passage : Passage source pair steps) (row : SnapshotRow), passage.LastSnapshot row →
        passage.change.millis < row.millis → passage.Overtaken := by
  constructor
  · intro refuses passage row last older
    obtain ⟨message, book, meets, refused, -⟩ := refuses passage row last older
    obtain ⟨other, otherBook, otherMeets, verdict⟩ :=
      passage.exists_meets_of_lastSnapshot last tracked clocks count
    obtain ⟨rfl, rfl⟩ := meets.unique otherMeets
    apply Classical.byContradiction
    intro inTime
    have accepted := verdict.mpr inTime
    rw [refused] at accepted
    cases accepted
  · intro overtaken passage row last older
    obtain ⟨message, book, meets, verdict⟩ :=
      passage.exists_meets_of_lastSnapshot last tracked clocks count
    have refused : book.accepts message = false := by
      rw [Bool.eq_false_iff, ne_eq, verdict]
      exact fun inTime => inTime (overtaken passage row last older)
    exact ⟨message, book, meets, refused, Book.apply_of_not_accepts refused⟩

/-- An older change that waits while the snapshot is applied is refused. -/
theorem refusesOlder_changeThenQuote :
    "BTC-USDT" ∈ ["BTC-USDT"] ∧ (∀ step ∈ changeThenQuote "1000" "2000", step.ClockInRange) ∧
      (changeThenQuote "1000" "2000").length < Nat.pow 2 63 ∧
      bitcoinSource.RefusesOlder ["BTC-USDT"] "BTC-USDT" (changeThenQuote "1000" "2000") := by
  have tracked : "BTC-USDT" ∈ ["BTC-USDT"] := by decide
  have clocks : ∀ step ∈ changeThenQuote "1000" "2000", step.ClockInRange := by decide
  have count : (changeThenQuote "1000" "2000").length < Nat.pow 2 63 := by decide
  refine ⟨tracked, clocks, count, (refusesOlder_iff tracked clocks count).mpr ?_⟩
  intro passage row last older
  apply passage.overtaken_of_not_quotes last
  intro step member
  rw [passage.before_changeThenQuote] at member
  cases member

/-- An older change that is handled after the snapshot is accepted and overwrites it. -/
theorem not_refusesOlder_quoteThenChange :
    (∀ step ∈ quoteThenChange "2000" "1000", step.ClockInRange) ∧
      ¬bitcoinSource.RefusesOlder ["BTC-USDT"] "BTC-USDT" (quoteThenChange "2000" "1000") := by
  have carries : bitcoinSource.changeOf? (bitcoinUpdate "1000") =
      some ⟨"BTC-USDT", 1000, [⟨.ofInt 100, .ofInt 9⟩], []⟩ := by
    decide +kernel
  have brings : bitcoinSource.rowsOf? (bitcoinAnswer "2000") "BTC-USDT" =
      some ⟨2000, [⟨.ofInt 100, .ofInt 1⟩], []⟩ := by
    decide +kernel
  have accepted : ((Desk.opening bitcoinSource ["BTC-USDT"]).run
      (quoteThenChange "2000" "1000")).verdict? "BTC-USDT" 0 = some true := by
    decide +kernel
  have older : (1000 : Int) < 2000 := by decide
  refine ⟨by decide, ?_⟩
  intro refuses
  obtain ⟨message, book, meets, refused, -⟩ :=
    refuses (.ofQuoteThenChange "2000" "1000" carries rfl) _
      (Passage.lastSnapshot_ofQuoteThenChange "2000" "1000" carries rfl brings) older
  have verdict := meets.verdict?_eq
  rw [refused] at verdict
  cases accepted.symm.trans verdict

end Source

end SwapFeed
