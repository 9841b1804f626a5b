import SwapFeed.Proofs.Desk.Steps

/-!
# Books are rebuilt from the last snapshot

After a drain the book of a pair is the pair's last snapshot with every change of the pair that was
handled after it, in order and each once.  Changes handled before the snapshot leave no trace, even
if they are drained after it.

The invariant behind this looks at what a book is going to be: the book after whatever waits.  That
*settled* book stands on the basis that the history gives.  A change joins the queue with an id
above all others, so it settles on top; a snapshot gets an id above all that waits, so whatever
waits is stale on it; and a drain only makes the settled book the present one.
-/

namespace SwapFeed

/-! ## What a book shows -/

/-- All prices on both sides are numbers. -/
def Basis.Numeric (basis : Basis) : Prop :=
  Side.Numeric basis.bidRows ∧ Side.Numeric basis.askRows

/-- A book that is ready and shows both sides of a basis. -/
structure Book.Shows (book : Book) (basis : Basis) : Prop where
  ready : book.ready = true
  bids : Side.Shows .bids book.bids basis.bidRows
  asks : Side.Shows .asks book.asks basis.askRows

theorem Book.StandsOn.shows {book : Book} {basis : Basis} (stands : book.StandsOn (some basis))
    (numeric : basis.Numeric) : book.Shows basis := by
  rcases stands with ⟨ready, bids, asks⟩
  constructor
  · exact ready
  · rw [bids]
    exact Side.shows_writeAll PriceOrder.bids_rankedBy numeric.1
  · rw [asks]
    exact Side.shows_writeAll PriceOrder.asks_rankedBy numeric.2

/-! ## The invariant -/

namespace Desk

/-- What holds of a desk after all of some steps, whatever the pair: ids stay within bounds, only
diffs wait, no id that waits is above the last one, and no change got lost. -/
structure Consistent (source : Source) (done : List DeskStep) (desk : Desk) : Prop where
  serves : desk.Serves source
  lastId_le : desk.lastId.toNat ≤ UpdateIds.latestMicros.toNat + done.length
  waiting_le : ∀ message ∈ desk.waiting, message.kind = .diff ∧ message.updateId ≤ desk.lastId
  /-- Every change was taken from the queue or still waits. -/
  taken : desk.arrivals.length + desk.waiting.length = (source.changes done).length

/-- The pair has a book, and after whatever waits it stands on the basis of the history. -/
structure Tracks (source : Source) (pair : String) (done : List DeskStep) (desk : Desk) : Prop
    extends Consistent source done desk where
  settled : ∃ book, desk.tracker.book? pair = some book ∧ book.lastUpdateId ≤ desk.lastId ∧
    (book.applyAll desk.waiting).StandsOn (source.basis pair done)

variable {source : Source} {pair : String} {done : List DeskStep} {desk : Desk}

theorem tracks_opening {pairs : List String} (tracked : pair ∈ pairs) :
    Tracks source pair [] (opening source pairs) where
  serves := opening_serves source pairs
  lastId_le := Nat.zero_le _
  waiting_le := by
    intro message member
    exact (List.not_mem_nil member).elim
  taken := rfl
  settled := ⟨{ pair := pair }, Tracker.book?_ofPairs tracked, UInt64.le_refl _, rfl⟩

namespace Consistent

variable {after : Desk}

/-- As long as the ids have room, a draw goes above the last id. -/
theorem lastId_lt (consistent : Consistent source done desk) (draws : desk.Draws after)
    (room : UpdateIds.latestMicros.toNat + done.length + 1 < UInt64.size) :
    desk.lastId < after.lastId := by
  have bound := consistent.lastId_le
  exact draws.lastId_lt (by omega)

/-- A draw stays within the bounds of one more step. -/
theorem lastId_le_of_draws (consistent : Consistent source done desk)
    (draws : desk.Draws after) :
    after.lastId.toNat ≤ UpdateIds.latestMicros.toNat + (done.length + 1) := by
  have bound := consistent.lastId_le
  have reached := draws.toNat_lastId_le
  omega

/-- So everything that waits got its id before the draw. -/
theorem waiting_le_of_draws (consistent : Consistent source done desk)
    (draws : desk.Draws after)
    (room : UpdateIds.latestMicros.toNat + done.length + 1 < UInt64.size) :
    ∀ message ∈ desk.waiting, message.kind = .diff ∧ message.updateId ≤ after.lastId := by
  intro message member
  have above := consistent.lastId_lt draws room
  obtain ⟨diff, below⟩ := consistent.waiting_le message member
  exact ⟨diff, UInt64.le_trans below (UInt64.le_of_lt above)⟩

theorem step (consistent : Consistent source done desk) {step : DeskStep}
    (clock : step.ClockInRange)
    (room : UpdateIds.latestMicros.toNat + done.length + 1 < UInt64.size) :
    Consistent source (done ++ [step]) (desk.step step) := by
  have serves := consistent.serves.step step
  have bound := consistent.lastId_le
  have taken := consistent.taken
  cases step_effect consistent.serves clock with
  | idle carries noted lastId waiting tracker arrivals =>
      refine ⟨serves, ?_, ?_, ?_⟩
      · rw [lastId, List.length_append]
        exact Nat.le_trans bound (by omega)
      · rw [waiting, lastId]
        exact consistent.waiting_le
      · rw [arrivals, waiting, Source.changes_append_singleton, carries]
        simpa using taken
  | @queued now raw change carries draws waiting tracker arrivals =>
      refine ⟨serves, ?_, ?_, ?_⟩
      · rw [List.length_append]
        exact consistent.lastId_le_of_draws draws
      · intro message member
        rw [waiting, List.mem_append, List.mem_singleton] at member
        cases member with
        | inl old => exact consistent.waiting_le_of_draws draws room message old
        | inr new =>
            subst new
            exact ⟨rfl, UInt64.le_refl _⟩
      · rw [arrivals, waiting, Source.changes_append_singleton, Source.changeIn?_receive, carries]
        simp only [List.length_append, List.length_singleton, Option.toList_some]
        omega
  | @quoted now answer asked row brings draws waiting tracker arrivals =>
      refine ⟨serves, ?_, ?_, ?_⟩
      · rw [List.length_append]
        exact consistent.lastId_le_of_draws draws
      · rw [waiting]
        exact consistent.waiting_le_of_draws draws room
      · rw [arrivals, waiting, Source.changes_append_singleton]
        simpa [Source.changeIn?] using taken
  | drained lastId waiting tracker arrivals =>
      refine ⟨serves, ?_, ?_, ?_⟩
      · rw [lastId, List.length_append]
        exact Nat.le_trans bound (by omega)
      · rw [waiting]
        intro message member
        exact (List.not_mem_nil member).elim
      · rw [arrivals, waiting, Source.changes_append_singleton]
        simpa [Source.changeIn?] using taken

end Consistent

/-- The book that a tracked pair has, with its last id before and after whatever waits. -/
theorem Tracks.exists_book (tracks : Tracks source pair done desk) :
    ∃ book, desk.tracker.book? pair = some book ∧ book.lastUpdateId ≤ desk.lastId ∧
      (book.applyAll desk.waiting).lastUpdateId ≤ desk.lastId ∧
      (book.applyAll desk.waiting).StandsOn (source.basis pair done) := by
  obtain ⟨book, found, bound, settled⟩ := tracks.settled
  refine ⟨book, found, bound, ?_, settled⟩
  apply Book.lastUpdateId_applyAll_le bound
  intro message member
  exact (tracks.waiting_le message member).2

/-- A queued change settles on top of its pair's basis, and leaves other pairs alone. -/
theorem settled_apply {book : Book} (samePair : book.pair = pair)
    (settled : book.StandsOn (source.basis pair done)) {raw : String} {change : BookChange}
    (carries : source.changeOf? raw = some change) {updateId : UInt64}
    (fresh : book.lastUpdateId < updateId) (now : Int) :
    (book.apply (change.toDiff updateId)).StandsOn
      (source.basis pair (done ++ [.receive now raw])) := by
  subst samePair
  rw [Source.basis_append_singleton]
  simp only [Source.note, carries]
  by_cases samePair : change.pair = book.pair
  · rw [if_pos samePair]
    exact settled.apply_toDiff samePair fresh
  · rw [if_neg samePair, Book.apply_of_pair_ne samePair]
    exact settled

/-- A snapshot settles at once: all that waits is stale on it. -/
theorem settled_snapshot (book : Book) {messages : List BookMessage} {updateId : UInt64}
    (stale : ∀ message ∈ messages, message.kind = .diff ∧ message.updateId ≤ updateId)
    (row : SnapshotRow) :
    ((book.apply (row.toSnapshot book.pair updateId)).applyAll messages).StandsOn
      (some ⟨row, []⟩) := by
  rw [Book.applyAll_apply_toSnapshot book stale row]
  exact Book.standsOn_apply_toSnapshot book row updateId

/-- Every step keeps the invariant. -/
theorem Tracks.step (tracks : Tracks source pair done desk) {step : DeskStep}
    (clock : step.ClockInRange)
    (room : UpdateIds.latestMicros.toNat + done.length + 1 < UInt64.size) :
    Tracks source pair (done ++ [step]) (desk.step step) := by
  refine ⟨tracks.toConsistent.step clock room, ?_⟩
  obtain ⟨book, found, bookBound, settledBound, settled⟩ := tracks.exists_book
  obtain rfl := Tracker.pair_of_book? found
  cases step_effect tracks.serves clock with
  | idle carries noted lastId waiting tracker arrivals =>
      refine ⟨book, ?_, ?_, ?_⟩
      · rw [tracker]
        exact found
      · rw [lastId]
        exact bookBound
      · rw [waiting, Source.basis_append_singleton, noted]
        exact settled
  | @queued now raw change carries draws waiting tracker arrivals =>
      have above := tracks.lastId_lt draws room
      refine ⟨book, ?_, ?_, ?_⟩
      · rw [tracker]
        exact found
      · exact UInt64.le_trans bookBound (UInt64.le_of_lt above)
      · rw [waiting, Book.applyAll_append]
        have fresh := UInt64.lt_of_le_of_lt settledBound above
        exact settled_apply (Book.pair_applyAll ..) settled carries fresh now
  | @quoted now answer asked row brings draws waiting tracker arrivals =>
      have above := tracks.lastId_lt draws room
      refine ⟨book.apply (row.toSnapshot asked (desk.step (.query now answer asked)).lastId),
        ?_, ?_, ?_⟩
      · rw [tracker, Tracker.book?_applyMessage, found]
        rfl
      · have stillBelow := UInt64.le_trans bookBound (UInt64.le_of_lt above)
        exact Book.lastUpdateId_apply_le stillBelow (UInt64.le_refl _)
      · rw [waiting, Source.basis_append_singleton]
        by_cases samePair : asked = book.pair
        · subst samePair
          have bringsHere : source.Brings book.pair row (.query now answer book.pair) :=
            ⟨rfl, brings⟩
          rw [Source.note_of_brings bringsHere]
          exact settled_snapshot book (tracks.waiting_le_of_draws draws room) row
        · have unread : (row.toSnapshot asked (desk.step (.query now answer asked)).lastId).pair
              ≠ book.pair := samePair
          rw [Book.apply_of_pair_ne unread]
          simpa [Source.note, samePair] using settled
  | drained lastId waiting tracker arrivals =>
      refine ⟨book.applyAll desk.waiting, ?_, ?_, ?_⟩
      · rw [tracker, Tracker.book?_applyAll, found]
        rfl
      · rw [lastId]
        exact settledBound
      · rw [waiting, Source.basis_append_singleton]
        exact settled

/-- So does every run that the ids have room for. -/
theorem Tracks.run {steps : List DeskStep} (tracks : Tracks source pair done desk)
    (clocks : ∀ step ∈ steps, step.ClockInRange)
    (room : UpdateIds.latestMicros.toNat + done.length + steps.length < UInt64.size) :
    Tracks source pair (done ++ steps) (desk.run steps) := by
  induction steps generalizing done desk with
  | nil => simpa using tracks
  | cons step rest inductionStep =>
      obtain ⟨clock, restClocks⟩ := List.forall_mem_cons.mp clocks
      rw [List.length_cons] at room
      have next := tracks.step clock (by omega)
      have reached := inductionStep next restClocks (by
        rw [List.length_append, List.length_singleton]
        omega)
      simpa using reached

end Desk

/-! ## Steps with numbers for prices -/

/-- No price of a change is NaN. -/
def BookChange.Numeric (change : BookChange) : Prop :=
  Side.Numeric change.bids ∧ Side.Numeric change.asks

/-- No price of a snapshot is NaN. -/
def SnapshotRow.Numeric (row : SnapshotRow) : Prop :=
  Side.Numeric row.bids ∧ Side.Numeric row.asks

instance (change : BookChange) : Decidable change.Numeric :=
  inferInstanceAs (Decidable (_ ∧ _))

instance (row : SnapshotRow) : Decidable row.Numeric :=
  inferInstanceAs (Decidable (_ ∧ _))

/-- No price that a step brings is NaN. -/
def Source.PricesAreNumbers (source : Source) : DeskStep → Prop
  | .receive _ raw => ∀ change ∈ source.changeOf? raw, change.Numeric
  | .query _ answer pair => ∀ row ∈ source.rowsOf? answer pair, row.Numeric
  | .drain => True

instance (source : Source) : DecidablePred source.PricesAreNumbers
  | .receive _ raw =>
      inferInstanceAs (Decidable (∀ change ∈ source.changeOf? raw, change.Numeric))
  | .query _ answer pair =>
      inferInstanceAs (Decidable (∀ row ∈ source.rowsOf? answer pair, row.Numeric))
  | .drain => inferInstanceAs (Decidable True)

/-- A basis has numbers for prices if its snapshot and its changes have. -/
theorem Basis.numeric_of {basis : Basis} (snapshot : basis.snapshot.Numeric)
    (changes : ∀ change ∈ basis.changes, change.Numeric) : basis.Numeric := by
  constructor
  · exact Side.numeric_append snapshot.1
      (Side.numeric_flatMap fun change member => (changes change member).1)
  · exact Side.numeric_append snapshot.2
      (Side.numeric_flatMap fun change member => (changes change member).2)

namespace Source

variable {source : Source} {pair : String}

theorem numeric_of_mem_changesOf {steps : List DeskStep}
    (numbers : ∀ step ∈ steps, source.PricesAreNumbers step) {change : BookChange}
    (member : change ∈ source.changesOf pair steps) : change.Numeric := by
  have handled := (List.mem_filter.mp member).1
  obtain ⟨step, stepMember, carried⟩ := List.mem_filterMap.mp handled
  have number := numbers step stepMember
  cases step with
  | receive now raw => exact number change carried
  | query now answer asked => cases carried
  | drain => cases carried

theorem numeric_of_brings {step : DeskStep} {row : SnapshotRow}
    (number : source.PricesAreNumbers step) (brings : source.Brings pair row step) :
    row.Numeric := by
  cases step with
  | query now answer asked => exact number row brings.2
  | receive now raw => exact brings.elim
  | drain => exact brings.elim

end Source

/-! ## Reconstruction -/

namespace Desk

/-- After a drain the book of a pair stands on the basis that the history gives. -/
theorem standsOn_after_drain (source : Source) {pairs : List String} {pair : String}
    (tracked : pair ∈ pairs) {steps : List DeskStep}
    (clocks : ∀ step ∈ steps, step.ClockInRange) (count : steps.length < Nat.pow 2 63) :
    ∃ book, ((opening source pairs).run (steps ++ [.drain])).tracker.book? pair = some book ∧
      book.StandsOn (source.basis pair steps) := by
  have allClocks : ∀ step ∈ steps ++ [.drain], step.ClockInRange := by
    intro step member
    rcases List.mem_append.mp member with early | last
    · exact clocks step early
    · rw [List.mem_singleton.mp last]
      trivial
  have room := UpdateIds.latestMicros_add_lt count
  have opened : Tracks source pair [] (opening source pairs) := tracks_opening tracked
  have tracks := opened.run allClocks (by
    simp only [List.length_nil, List.length_append, List.length_singleton]
    omega)
  obtain ⟨book, found, -, settled⟩ := tracks.settled
  have nothingWaits : ((opening source pairs).run (steps ++ [.drain])).waiting = [] := by
    rw [run_append]
    exact waiting_drain _
  rw [nothingWaits, List.nil_append, Source.basis_append_singleton] at settled
  exact ⟨book, found, settled⟩

/-- After a drain the book of a pair shows the last snapshot of the pair with all changes of the
pair that were handled after it, and it is as it was made if there was no snapshot. -/
theorem book_after_drain (source : Source) {pairs : List String} {pair : String}
    (tracked : pair ∈ pairs) {steps : List DeskStep}
    (clocks : ∀ step ∈ steps, step.ClockInRange) (count : steps.length < Nat.pow 2 63)
    (numbers : ∀ step ∈ steps, source.PricesAreNumbers step) :
    ∃ book, ((opening source pairs).run (steps ++ [.drain])).tracker.book? pair = some book ∧
      (∀ before step after row, steps = before ++ step :: after →
        source.Brings pair row step → (∀ later ∈ after, ¬source.Quotes pair later) →
        book.Shows ⟨row, source.changesOf pair after⟩) ∧
      ((∀ step ∈ steps, ¬source.Quotes pair step) → book = { pair := pair }) := by
  obtain ⟨book, found, stands⟩ := standsOn_after_drain source tracked clocks count
  refine ⟨book, found, ?_, ?_⟩
  · intro before step after row split brings quiet
    subst split
    rw [Source.basis_of_brings brings quiet] at stands
    have stepMember : step ∈ before ++ step :: after := by simp
    apply stands.shows
    apply Basis.numeric_of
    · exact Source.numeric_of_brings (numbers step stepMember) brings
    · intro change member
      refine Source.numeric_of_mem_changesOf (fun later laterMember => ?_) member
      exact numbers later (by simp [laterMember])
  · intro quiet
    rw [Source.basis_of_not_quotes quiet] at stands
    have empty : book = { pair := book.pair } := stands
    rw [Tracker.pair_of_book? found] at empty
    exact empty

/-- One change is handled before a snapshot and one after it. -/
def bitcoinSteps : List DeskStep :=
  [.receive 0 (Wire.update "BTC-USDT-SWAP" "500" "[[\"100\",\"9\"]]" "[]"),
    .query 0 (fun _ => .ok (Wire.snapshot "1000" "[[\"100\",\"1\"],[\"99\",\"2\"]]" "[]"))
      "BTC-USDT",
    .receive 0 (Wire.update "BTC-USDT-SWAP" "2000" "[[\"100\",\"0\"]]" "[[\"101\",\"3\"]]"),
    .receive 0 "pong"]

/-- Only the snapshot and the change after it are left. -/
theorem book_after_drain_bitcoin :
    "BTC-USDT" ∈ ["BTC-USDT"] ∧ (∀ step ∈ bitcoinSteps, step.ClockInRange) ∧
      bitcoinSteps.length < Nat.pow 2 63 ∧
      (∀ step ∈ bitcoinSteps, bitcoinSource.PricesAreNumbers step) ∧
      ∃ book,
        ((opening bitcoinSource ["BTC-USDT"]).run (bitcoinSteps ++ [.drain])).tracker.book?
            "BTC-USDT" = some book ∧
        book.Shows
          ⟨⟨1000, [⟨.ofInt 100, .ofInt 1⟩, ⟨.ofInt 99, .ofInt 2⟩], []⟩,
            [⟨"BTC-USDT", 2000, [⟨.ofInt 100, .zero⟩], [⟨.ofInt 101, .ofInt 3⟩]⟩]⟩ := by
  have tracked : "BTC-USDT" ∈ ["BTC-USDT"] := by decide
  have clocks : ∀ step ∈ bitcoinSteps, step.ClockInRange := by decide
  have count : bitcoinSteps.length < Nat.pow 2 63 := by decide
  have numbers : ∀ step ∈ bitcoinSteps, bitcoinSource.PricesAreNumbers step := by decide +kernel
  refine ⟨tracked, clocks, count, numbers, ?_⟩
  obtain ⟨book, found, shows, -⟩ := book_after_drain bitcoinSource tracked clocks count numbers
  refine ⟨book, found, ?_⟩
  have after : bitcoinSource.changesOf "BTC-USDT" (bitcoinSteps.drop 2) =
      [⟨"BTC-USDT", 2000, [⟨.ofInt 100, .zero⟩], [⟨.ofInt 101, .ofInt 3⟩]⟩] := by
    decide +kernel
  rw [← after]
  refine shows (bitcoinSteps.take 1) bitcoinSteps[1] (bitcoinSteps.drop 2) _ rfl ⟨rfl, ?_⟩ ?_
  · decide +kernel
  · intro later member
    simp only [bitcoinSteps, List.drop_succ_cons, List.drop_zero, List.mem_cons, List.not_mem_nil,
      or_false] at member
    rcases member with rfl | rfl
    · exact Source.not_quotes_receive _ _ _ _
    · exact Source.not_quotes_receive _ _ _ _

end Desk

end SwapFeed
