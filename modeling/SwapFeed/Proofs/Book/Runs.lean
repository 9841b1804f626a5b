import Mathlib.Data.List.Induction
import SwapFeed.Proofs.Book.Basis

/-!
# Runs of a book

A book may be given any messages in any order.  What it shows afterwards is decided by the messages
that it *stands* on: its last snapshot and the diffs accepted after it.  Which messages these are is
said here without a book, by their pairs, kinds and ids alone, and the invariant of a run is that
the book is what writing their rows gives.
-/

namespace SwapFeed

namespace Side

/-- The front of a side: its first levels, as many as asked for or as there are. -/
structure IsFront (count : Nat) (shown side : Side) : Prop where
  first : shown <+: side
  length_eq : shown.length = min count side.length

theorem isFront_take (count : Nat) (side : Side) : IsFront count (side.take count) side where
  first := List.take_prefix count side
  length_eq := List.length_take

theorem head?_take_succ (side : Side) (count : Nat) :
    (side.take (count + 1)).head? = side.head? := by
  cases side <;> rfl

end Side

namespace BookMessage

/-- A message that sets a pair's book anew. -/
def Renews (pair : String) (message : BookMessage) : Prop :=
  message.pair = pair ∧ message.kind = .snapshot

/-- All prices of a message are numbers. -/
def Numeric (message : BookMessage) : Prop :=
  Side.Numeric message.bids ∧ Side.Numeric message.asks

instance (message : BookMessage) : Decidable message.Numeric :=
  inferInstanceAs (Decidable (_ ∧ _))

end BookMessage

namespace Book

/-! ## The messages that a book stands on -/

/-- What a book of a pair stands on after one more message.  A snapshot of the pair counts alone; a
diff of the pair counts if there is a snapshot and its id is above that of the message before. -/
def stand (pair : String) (standing : List BookMessage) (message : BookMessage) :
    List BookMessage :=
  if message.pair = pair then
    match message.kind, standing.getLast? with
    | .snapshot, _ => [message]
    | .diff, none => standing
    | .diff, some last =>
        if last.updateId < message.updateId then standing ++ [message] else standing
  else standing

/-- The messages that a book of a pair stands on after all of some messages: the last snapshot of
the pair and the diffs accepted after it. -/
def standing (pair : String) (messages : List BookMessage) : List BookMessage :=
  messages.foldl (stand pair) []

variable {pair : String} {message : BookMessage} {known : List BookMessage}

theorem stand_of_pair_ne (otherPair : message.pair ≠ pair) : stand pair known message = known :=
  if_neg otherPair

theorem stand_snapshot (renews : message.Renews pair) : stand pair known message = [message] := by
  rcases renews with ⟨samePair, snapshot⟩
  simp [stand, samePair, snapshot]

theorem stand_diff_nil (diff : message.kind = .diff) : stand pair [] message = [] := by
  simp [stand, diff]

theorem stand_diff (samePair : message.pair = pair) (diff : message.kind = .diff)
    {last : BookMessage} (latest : known.getLast? = some last) :
    stand pair known message =
      if last.updateId < message.updateId then known ++ [message] else known := by
  simp [stand, samePair, diff, latest]

theorem mem_stand {other : BookMessage} (member : other ∈ stand pair known message) :
    other ∈ known ∨ other = message := by
  unfold stand at member
  split at member
  · split at member
    · exact .inr (List.mem_singleton.mp member)
    · exact .inl member
    · split at member
      · exact (List.mem_append.mp member).imp_right List.mem_singleton.mp
      · exact .inl member
  · exact .inl member

theorem stand_eq_nil_iff :
    stand pair known message = [] ↔ known = [] ∧ ¬message.Renews pair := by
  by_cases samePair : message.pair = pair
  · cases kind : message.kind with
    | snapshot =>
        have renews : message.Renews pair := ⟨samePair, kind⟩
        simp [stand_snapshot renews, renews]
    | diff =>
        have keeps : ¬message.Renews pair := by simp [BookMessage.Renews, kind]
        cases latest : known.getLast? with
        | none => simp [List.getLast?_eq_none_iff.mp latest, stand_diff_nil kind, keeps]
        | some last =>
            have nonempty : known ≠ [] := by
              intro empty
              simp [empty] at latest
            rw [stand_diff samePair kind latest]
            split <;> simp [nonempty]
  · have keeps : ¬message.Renews pair := fun renews => samePair renews.1
    simp [stand_of_pair_ne samePair, keeps]

@[simp] theorem standing_nil (pair : String) : standing pair [] = [] := rfl

@[simp] theorem standing_append_singleton (pair : String) (messages : List BookMessage)
    (message : BookMessage) :
    standing pair (messages ++ [message]) = stand pair (standing pair messages) message :=
  List.foldl_append

theorem mem_of_mem_standing {messages : List BookMessage} :
    ∀ message ∈ standing pair messages, message ∈ messages := by
  induction messages using List.reverseRecOn with
  | nil => simp
  | append_singleton messages message step =>
      intro other member
      rw [standing_append_singleton] at member
      rcases mem_stand member with old | new
      · exact List.mem_append_left _ (step other old)
      · exact List.mem_append_right _ (List.mem_singleton.mpr new)

/-- A book stands on nothing as long as no snapshot of its pair came. -/
theorem standing_eq_nil_iff {messages : List BookMessage} :
    standing pair messages = [] ↔ ∀ message ∈ messages, ¬message.Renews pair := by
  induction messages using List.reverseRecOn with
  | nil => simp
  | append_singleton messages message step =>
      rw [standing_append_singleton, stand_eq_nil_iff, step, List.forall_mem_append]
      simp

/-! ## The invariant of a run -/

/-- The book is what writing the rows of some messages gives, with the id of the last of them. -/
structure Rests (pair : String) (known : List BookMessage) (book : Book) : Prop where
  pair_eq : book.pair = pair
  ready_eq : book.ready = !known.isEmpty
  lastUpdateId_eq : book.lastUpdateId = (known.getLast?.map (·.updateId)).getD 0
  bids_eq : book.bids = Side.writeAll .bids [] (known.flatMap (·.bids))
  asks_eq : book.asks = Side.writeAll .asks [] (known.flatMap (·.asks))

theorem rests_nil (pair : String) : Rests pair [] { pair := pair } where
  pair_eq := rfl
  ready_eq := rfl
  lastUpdateId_eq := rfl
  bids_eq := rfl
  asks_eq := rfl

namespace Rests

variable {book : Book}

/-- A book refuses what is for another pair, diffs before any snapshot, and diffs whose id is not
above the last one; it accepts everything else. -/
theorem accepts_eq_false_iff (rests : Rests pair known book) (message : BookMessage) :
    book.accepts message = false ↔
      message.pair ≠ pair ∨ message.kind = .diff ∧
        (known = [] ∨ message.updateId ≤ book.lastUpdateId) := by
  by_cases samePair : message.pair = pair
  · cases kind : message.kind with
    | snapshot => simp [accepts, kind, samePair, rests.pair_eq]
    | diff =>
        rw [accepts_diff kind (samePair.trans rests.pair_eq.symm), rests.ready_eq]
        simp [samePair, Decidable.or_iff_not_imp_left]
  · simp [accepts, rests.pair_eq, samePair]

/-- The messages that a book stands on are those that it accepts, from its last snapshot on. -/
theorem stand_eq (rests : Rests pair known book) (message : BookMessage) :
    stand pair known message =
      if book.accepts message then
        if message.kind = .snapshot then [message] else known ++ [message]
      else known := by
  have refused_iff := rests.accepts_eq_false_iff message
  by_cases samePair : message.pair = pair
  · cases kind : message.kind with
    | snapshot =>
        have accepted : book.accepts message = true := by
          rw [← Bool.not_eq_false, refused_iff]
          simp [samePair, kind]
        rw [stand_snapshot ⟨samePair, kind⟩, if_pos accepted, if_pos rfl]
    | diff =>
        rw [if_neg (by decide : ¬BookMessageKind.diff = .snapshot)]
        cases latest : known.getLast? with
        | none =>
            have empty := List.getLast?_eq_none_iff.mp latest
            rw [refused_iff.mpr (.inr ⟨kind, .inl empty⟩), empty, stand_diff_nil kind]
            rfl
        | some last =>
            have nonempty : known ≠ [] := by
              intro empty
              simp [empty] at latest
            have watermark : book.lastUpdateId = last.updateId := by
              rw [rests.lastUpdateId_eq, latest]
              rfl
            rw [stand_diff samePair kind latest, ← watermark,
              accepts_diff kind (samePair.trans rests.pair_eq.symm), rests.ready_eq]
            simp [nonempty]
  · rw [stand_of_pair_ne samePair, refused_iff.mpr (.inl samePair)]
    rfl

theorem apply_snapshot (rests : Rests pair known book) (snapshot : message.kind = .snapshot)
    (accepted : book.accepts message = true) : Rests pair [message] (book.apply message) := by
  have change : book.apply message = book.written message [] [] := by
    simp [Book.apply, accepted, snapshot]
  rw [change]
  exact
    { pair_eq := rests.pair_eq
      ready_eq := rfl
      lastUpdateId_eq := rfl
      bids_eq := by simp [written]
      asks_eq := by simp [written] }

theorem apply_diff (rests : Rests pair known book) (diff : message.kind = .diff)
    (accepted : book.accepts message = true) :
    Rests pair (known ++ [message]) (book.apply message) := by
  rw [Book.apply_diff diff accepted]
  exact
    { pair_eq := rests.pair_eq
      ready_eq := by simp [written]
      lastUpdateId_eq := by simp [written]
      bids_eq := by simp [written, rests.bids_eq, Side.writeAll_append]
      asks_eq := by simp [written, rests.asks_eq, Side.writeAll_append] }

/-- What a message does to a book is what it does to the messages that the book stands on. -/
theorem apply (rests : Rests pair known book) (message : BookMessage) :
    Rests pair (stand pair known message) (book.apply message) := by
  rw [rests.stand_eq message]
  cases accepted : book.accepts message with
  | false =>
      rw [apply_of_not_accepts accepted]
      exact rests
  | true =>
      cases kind : message.kind with
      | snapshot => exact rests.apply_snapshot kind accepted
      | diff => exact rests.apply_diff kind accepted

/-- An accepted diff has an id above the last one, and leaves it as the last one. -/
theorem lastUpdateId_lt (rests : Rests pair known book) (diff : message.kind = .diff)
    (accepted : book.accepts message = true) :
    book.lastUpdateId < (book.apply message).lastUpdateId := by
  rw [Book.apply_diff diff accepted]
  by_contra stale
  have refused := (rests.accepts_eq_false_iff message).mpr
    (.inr ⟨diff, .inr (UInt64.not_lt.mp stale)⟩)
  simp [refused] at accepted

theorem shows_bids (rests : Rests pair known book)
    (numeric : ∀ message ∈ known, message.Numeric) :
    Side.Shows .bids book.bids (known.flatMap (·.bids)) := by
  rw [rests.bids_eq]
  exact Side.shows_writeAll PriceOrder.bids_rankedBy
    (Side.numeric_flatMap fun message member => (numeric message member).1)

theorem shows_asks (rests : Rests pair known book)
    (numeric : ∀ message ∈ known, message.Numeric) :
    Side.Shows .asks book.asks (known.flatMap (·.asks)) := by
  rw [rests.asks_eq]
  exact Side.shows_writeAll PriceOrder.asks_rankedBy
    (Side.numeric_flatMap fun message member => (numeric message member).2)

end Rests

theorem rests_applyAll (pair : String) (messages : List BookMessage) :
    Rests pair (standing pair messages) (applyAll { pair := pair } messages) := by
  induction messages using List.reverseRecOn with
  | nil => exact rests_nil pair
  | append_singleton messages message step =>
      rw [standing_append_singleton, applyAll_append]
      exact step.apply message

/-- After any messages, a book shows on both sides the rows of the messages that it stands on, and
reads are fronts of its sides.  The next message is refused exactly if it is for another pair or it
is a diff that comes before any snapshot or is stale.  A message that is refused changes nothing,
one that is accepted is stood on, and an accepted diff raises the last id. -/
theorem shows_standing_after_messages (pair : String) (messages : List BookMessage)
    (numeric : ∀ message ∈ messages, message.Numeric) :
    let book := applyAll { pair := pair } messages
    let known := standing pair messages
    Side.Shows .bids book.bids (known.flatMap (·.bids)) ∧
      Side.Shows .asks book.asks (known.flatMap (·.asks)) ∧
      book.lastUpdateId = (known.getLast?.map (·.updateId)).getD 0 ∧
      (∀ next : BookMessage,
        (book.accepts next = false ↔
          next.pair ≠ pair ∨ next.kind = .diff ∧
            ((∀ message ∈ messages, ¬message.Renews pair) ∨
              next.updateId ≤ book.lastUpdateId)) ∧
          (book.accepts next = false → book.apply next = book) ∧
          standing pair (messages ++ [next]) =
            (if book.accepts next then
              if next.kind = .snapshot then [next] else known ++ [next]
            else known) ∧
          (book.accepts next = true → next.kind = .diff →
            book.lastUpdateId < (book.apply next).lastUpdateId)) ∧
      ∀ count,
        Side.IsFront count (book.topBids count) book.bids ∧
          Side.IsFront count (book.topAsks count) book.asks ∧
          (book.topBids (count + 1)).head? = book.bestBid ∧
          (book.topAsks (count + 1)).head? = book.bestAsk := by
  intro book known
  have rests : Rests pair known book := rests_applyAll pair messages
  have knownNumeric : ∀ message ∈ known, message.Numeric := fun message member =>
    numeric message (mem_of_mem_standing message member)
  refine ⟨rests.shows_bids knownNumeric, rests.shows_asks knownNumeric, rests.lastUpdateId_eq,
    ?_, ?_⟩
  · intro next
    refine ⟨?_, apply_of_not_accepts, ?_, fun accepted diff => rests.lastUpdateId_lt diff accepted⟩
    · rw [rests.accepts_eq_false_iff, standing_eq_nil_iff]
    · rw [standing_append_singleton]
      exact rests.stand_eq next
  · intro count
    exact ⟨Side.isFront_take count book.bids, Side.isFront_take count book.asks,
      Side.head?_take_succ book.bids count, Side.head?_take_succ book.asks count⟩

/-- A diff that comes too early, a snapshot with an empty row and both zeros, a stale diff, a diff
of another pair, and a diff that deletes, adds and overwrites. -/
def disorderlyMessages : List BookMessage :=
  [⟨.diff, "BTC-USDT", 9, [⟨.ofInt 7, .ofInt 1⟩], [], .zero⟩,
    ⟨.snapshot, "BTC-USDT", 5,
      [⟨.ofInt 99, .ofInt 1⟩, ⟨.ofInt 100, .ofInt 2⟩, ⟨.ofInt 98, .zero⟩],
      [⟨.zero, .ofInt 3⟩, ⟨.ofMagnitude true 0, .ofInt 4⟩], .zero⟩,
    ⟨.diff, "BTC-USDT", 5, [⟨.ofInt 99, .zero⟩], [], .zero⟩,
    ⟨.diff, "ETH-USDT", 6, [⟨.ofInt 99, .zero⟩], [], .zero⟩,
    ⟨.diff, "BTC-USDT", 7,
      [⟨.ofInt 100, .zero⟩, ⟨.ofInt 101, .ofInt 5⟩, ⟨.ofInt 101, .ofInt 6⟩], [], .zero⟩]

theorem shows_standing_after_disorderlyMessages :
    (∀ message ∈ disorderlyMessages, message.Numeric) ∧
      (applyAll { pair := "BTC-USDT" } disorderlyMessages).bids =
        [⟨.ofInt 101, .ofInt 6⟩, ⟨.ofInt 99, .ofInt 1⟩] ∧
      (applyAll { pair := "BTC-USDT" } disorderlyMessages).asks = [⟨.zero, .ofInt 4⟩] ∧
      Side.Shows .bids (applyAll { pair := "BTC-USDT" } disorderlyMessages).bids
        ((standing "BTC-USDT" disorderlyMessages).flatMap (·.bids)) := by
  have numeric : ∀ message ∈ disorderlyMessages, message.Numeric := by decide +kernel
  refine ⟨numeric, by decide +kernel, by decide +kernel, ?_⟩
  exact (shows_standing_after_messages "BTC-USDT" disorderlyMessages numeric).1

end Book

end SwapFeed
