import SwapFeed.Book.Basic
import SwapFeed.Proofs.Book.Side
import SwapFeed.Rest.Queries
import SwapFeed.Stream.Diff

/-!
# What a book stands on

A book stands on the last snapshot of its pair and the changes that count on top of it.  Nothing of
this depends on update ids: they only decide whether a message is accepted.  The lemmas here say
when a book refuses a message, and what a diff or a snapshot that it accepts does to its basis.
-/

namespace SwapFeed

/-- A snapshot of a pair and the changes on top of it, in order. -/
structure Basis where
  snapshot : SnapshotRow
  changes : List BookChange := []

namespace Basis

/-- More changes on top. -/
def extend (basis : Basis) (changes : List BookChange) : Basis :=
  { basis with changes := basis.changes ++ changes }

/-- All bid rows, in order. -/
def bidRows (basis : Basis) : List Level :=
  basis.snapshot.bids ++ basis.changes.flatMap (·.bids)

/-- All ask rows, in order. -/
def askRows (basis : Basis) : List Level :=
  basis.snapshot.asks ++ basis.changes.flatMap (·.asks)

@[simp] theorem extend_nil (basis : Basis) : basis.extend [] = basis := by
  simp [extend]

@[simp] theorem extend_extend (basis : Basis) (first second : List BookChange) :
    (basis.extend first).extend second = basis.extend (first ++ second) := by
  simp [extend]

@[simp] theorem bidRows_extend (basis : Basis) (change : BookChange) :
    (basis.extend [change]).bidRows = basis.bidRows ++ change.bids := by
  simp [bidRows, extend]

@[simp] theorem askRows_extend (basis : Basis) (change : BookChange) :
    (basis.extend [change]).askRows = basis.askRows ++ change.asks := by
  simp [askRows, extend]

end Basis

namespace Book

/-- Apply messages one after the other. -/
def applyAll (book : Book) (messages : List BookMessage) : Book :=
  messages.foldl apply book

/-! ## Acceptance -/

/-- A diff of the book's pair is accepted once there is a snapshot, if its id is above the last. -/
theorem accepts_diff {book : Book} {message : BookMessage} (diff : message.kind = .diff)
    (samePair : message.pair = book.pair) :
    book.accepts message = (book.ready && decide (book.lastUpdateId < message.updateId)) := by
  simp [accepts, diff, samePair]

theorem apply_diff {book : Book} {message : BookMessage} (diff : message.kind = .diff)
    (accepted : book.accepts message = true) :
    book.apply message = book.written message book.bids book.asks := by
  simp [apply, accepted, diff]

/-- A snapshot of the book's pair is always accepted. -/
theorem apply_snapshot {book : Book} {message : BookMessage} (snapshot : message.kind = .snapshot)
    (samePair : message.pair = book.pair) :
    book.apply message = book.written message [] [] := by
  simp [apply, accepts, snapshot, samePair]

theorem apply_of_pair_ne {book : Book} {message : BookMessage}
    (otherPair : message.pair ≠ book.pair) : book.apply message = book :=
  apply_of_not_accepts (by simp [accepts, otherPair])

/-- A diff is stale on a book whose last id is not below its own. -/
theorem accepts_of_le {book : Book} {message : BookMessage} (diff : message.kind = .diff)
    (stale : message.updateId ≤ book.lastUpdateId) : book.accepts message = false := by
  simp [accepts, diff, UInt64.not_lt.mpr stale]

/-- Stale diffs leave a book alone, however many there are. -/
theorem applyAll_of_le {book : Book} {messages : List BookMessage}
    (stale : ∀ message ∈ messages, message.kind = .diff ∧ message.updateId ≤ book.lastUpdateId) :
    book.applyAll messages = book := by
  induction messages with
  | nil => rfl
  | cons message rest step =>
      obtain ⟨⟨diff, below⟩, restStale⟩ := List.forall_mem_cons.mp stale
      have unchanged : book.apply message = book := apply_of_not_accepts (accepts_of_le diff below)
      simpa [applyAll, unchanged] using step restStale

/-! ## Frames -/

@[simp] theorem pair_applyAll (book : Book) (messages : List BookMessage) :
    (book.applyAll messages).pair = book.pair := by
  induction messages generalizing book with
  | nil => rfl
  | cons message rest step =>
      have here := step (book.apply message)
      simpa [applyAll] using here

@[simp] theorem applyAll_append (book : Book) (first second : List BookMessage) :
    book.applyAll (first ++ second) = (book.applyAll first).applyAll second :=
  List.foldl_append

/-- The last id of a book is its old one or that of the message. -/
theorem lastUpdateId_apply_le {book : Book} {message : BookMessage} {bound : UInt64}
    (bookBound : book.lastUpdateId ≤ bound) (messageBound : message.updateId ≤ bound) :
    (book.apply message).lastUpdateId ≤ bound := by
  rw [apply]
  split
  · split
    · exact messageBound
    · exact messageBound
  · exact bookBound

theorem lastUpdateId_applyAll_le {book : Book} {messages : List BookMessage} {bound : UInt64}
    (bookBound : book.lastUpdateId ≤ bound)
    (messageBound : ∀ message ∈ messages, message.updateId ≤ bound) :
    (book.applyAll messages).lastUpdateId ≤ bound := by
  induction messages generalizing book with
  | nil => exact bookBound
  | cons message rest step =>
      obtain ⟨bound, restBound⟩ := List.forall_mem_cons.mp messageBound
      exact step (lastUpdateId_apply_le bookBound bound) restBound

/-! ## Standing on a basis -/

/-- A book shows its basis: both sides are the rows of the basis written in order.  Without a basis
the book is as it was made. -/
def StandsOn (book : Book) : Option Basis → Prop
  | none => book = { pair := book.pair }
  | some basis =>
      book.ready = true ∧
        book.bids = Side.writeAll .bids [] basis.bidRows ∧
        book.asks = Side.writeAll .asks [] basis.askRows

variable {book : Book} {basis : Option Basis}

theorem StandsOn.ready_eq (stands : book.StandsOn basis) : book.ready = basis.isSome := by
  cases basis with
  | none =>
      simp only [StandsOn] at stands
      rw [stands]
      rfl
  | some basis => exact stands.1

/-- A diff with an id above the last one is accepted exactly on top of a snapshot. -/
theorem StandsOn.accepts_toDiff (stands : book.StandsOn basis) {change : BookChange}
    (samePair : change.pair = book.pair) {updateId : UInt64}
    (fresh : book.lastUpdateId < updateId) :
    book.accepts (change.toDiff updateId) = basis.isSome := by
  have newer : book.lastUpdateId < (change.toDiff updateId).updateId := fresh
  rw [accepts_diff rfl samePair, stands.ready_eq, decide_eq_true newer, Bool.and_true]

/-- Such a diff puts its change on top of the basis; without a snapshot it is lost. -/
theorem StandsOn.apply_toDiff (stands : book.StandsOn basis) {change : BookChange}
    (samePair : change.pair = book.pair) {updateId : UInt64}
    (fresh : book.lastUpdateId < updateId) :
    (book.apply (change.toDiff updateId)).StandsOn (basis.map (·.extend [change])) := by
  have accepts := stands.accepts_toDiff samePair fresh
  cases basis with
  | none =>
      rw [apply_of_not_accepts accepts]
      exact stands
  | some basis =>
      rcases stands with ⟨-, bids, asks⟩
      rw [apply_diff rfl accepts]
      refine ⟨rfl, ?_, ?_⟩
      · rw [Basis.bidRows_extend, Side.writeAll_append, ← bids]
        rfl
      · rw [Basis.askRows_extend, Side.writeAll_append, ← asks]
        rfl

@[simp] theorem lastUpdateId_apply_toSnapshot (book : Book) (row : SnapshotRow)
    (updateId : UInt64) :
    (book.apply (row.toSnapshot book.pair updateId)).lastUpdateId = updateId := by
  rw [apply_snapshot rfl rfl]
  rfl

/-- A snapshot makes every diff stale that got its id before it. -/
theorem applyAll_apply_toSnapshot (book : Book) {messages : List BookMessage} {updateId : UInt64}
    (stale : ∀ message ∈ messages, message.kind = .diff ∧ message.updateId ≤ updateId)
    (row : SnapshotRow) :
    (book.apply (row.toSnapshot book.pair updateId)).applyAll messages =
      book.apply (row.toSnapshot book.pair updateId) := by
  apply applyAll_of_le
  rw [lastUpdateId_apply_toSnapshot]
  exact stale

/-- In particular the book refuses each of them when its turn comes. -/
theorem accepts_applyAll_apply_toSnapshot (book : Book) {earlier later : List BookMessage}
    {message : BookMessage} {updateId : UInt64}
    (stale : ∀ other ∈ earlier ++ message :: later,
      other.kind = .diff ∧ other.updateId ≤ updateId)
    (row : SnapshotRow) :
    ((book.apply (row.toSnapshot book.pair updateId)).applyAll earlier).accepts message =
      false := by
  have earlierStale : ∀ other ∈ earlier, other.kind = .diff ∧ other.updateId ≤ updateId := by
    intro other member
    exact stale other (List.mem_append_left _ member)
  obtain ⟨diff, below⟩ := stale message (List.mem_append_right _ List.mem_cons_self)
  rw [applyAll_apply_toSnapshot book earlierStale row]
  apply accepts_of_le diff
  rw [lastUpdateId_apply_toSnapshot]
  exact below

/-- A snapshot is a new basis, whatever the book stood on. -/
theorem standsOn_apply_toSnapshot (book : Book) (row : SnapshotRow) (updateId : UInt64) :
    (book.apply (row.toSnapshot book.pair updateId)).StandsOn (some ⟨row, []⟩) := by
  rw [apply_snapshot rfl rfl]
  refine ⟨rfl, ?_, ?_⟩
  · simp [written, Basis.bidRows, SnapshotRow.toSnapshot]
  · simp [written, Basis.askRows, SnapshotRow.toSnapshot]

end Book

end SwapFeed
