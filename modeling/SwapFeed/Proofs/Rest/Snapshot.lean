import SwapFeed.Proofs.Desk.Basic
import SwapFeed.Proofs.Rest.Faults
import SwapFeed.Proofs.UpdateId.Drift

/-!
# Snapshots of books

A query for a book either returns a snapshot, which says what the first row of the reply says and
carries a new update id, or it fails and leaves no trace: the id is drawn after everything that can
go wrong.
-/

namespace SwapFeed

/-! ## Ids handed out before -/

namespace UpdateIds

theorem exists_serve_eq_advance (ids : UpdateIds) (request : IdRequest) :
    ∃ now stamp, ids.serve request = ids.advance now stamp := by
  cases request with
  | seconds clock time => exact ⟨clock, _, rfl⟩
  | micros clock time => exact ⟨clock, time, rfl⟩
  | present clock => exact ⟨clock, clock, rfl⟩

theorem last_lt_last_serve (ids : UpdateIds) (request : IdRequest)
    (room : ids.last.toNat + 1 < UInt64.size) : ids.last < (ids.serve request).last := by
  obtain ⟨now, stamp, served⟩ := ids.exists_serve_eq_advance request
  rw [served]
  exact ids.last_lt_last_advance now stamp room

/-- As long as the counter never came to its end, no id is above the last one.  The clock may go
anywhere. -/
theorem issued_le_last (ids : UpdateIds) (requests : List IdRequest)
    (room : ids.last.toNat + 1 < UInt64.size)
    (rooms : ∀ id ∈ ids.issued requests, id.toNat + 1 < UInt64.size) :
    ∀ id ∈ ids.last :: ids.issued requests, id ≤ (ids.serveAll requests).last := by
  induction requests generalizing ids with
  | nil =>
      intro id member
      rw [List.mem_singleton.mp member]
      exact UInt64.le_refl _
  | cons request rest step =>
      obtain ⟨here, later⟩ := List.forall_mem_cons.mp rooms
      have known := step (ids.serve request) here later
      refine List.forall_mem_cons.mpr ⟨?_, known⟩
      have above := ids.last_lt_last_serve request room
      exact UInt64.le_trans (UInt64.le_of_lt above) (known _ List.mem_cons_self)

end UpdateIds

/-! ## What a snapshot says -/

namespace SnapshotRow

open Reply SwapFeed.Json

variable {context : QueryContext} {answer : Answerer} {pair : String} {book : SnapshotRow}

/-- A row of a reply writes a book: a plausible time, and the levels of both sides in order. -/
structure StandsIn (book : SnapshotRow) (row : Json) : Prop where
  timed : row.Has "ts" (·.WritesInt64 book.millis)
  credible : 0 ≤ book.millis ∧ book.millis ≤ latestEpochMillis
  bids : row.Has "bids" (WritesLevels · book.bids)
  asks : row.Has "asks" (WritesLevels · book.asks)

theorem ofBody_eq_ok_iff {body : String} : ofBody pair body = .ok book ↔
    ∃ reply row, Grants body reply ∧ Leads reply row ∧ book.StandsIn row := by
  simp only [ofBody, bind_eq_ok_iff, Reply.ofBody_eq_ok_iff, firstRow_eq_ok_iff, field_eq_ok_iff,
    integer_eq_ok_iff]
  constructor
  · intro read
    rcases read with ⟨reply, grants, row, leads, time, member, millis, written, read⟩
    split at read
    · cases read
    · next credible =>
        simp only [bind_eq_ok_iff, levels_eq_ok_iff] at read
        rcases read with ⟨bids, bidsWritten, asks, asksWritten, built⟩
        cases built
        exact ⟨reply, row, grants, leads, ⟨time, member, written⟩, not_not.mp credible,
          bidsWritten, asksWritten⟩
  · intro stands
    rcases stands with ⟨reply, row, grants, leads, ⟨time, member, written⟩, credible, bids, asks⟩
    refine ⟨reply, grants, row, leads, time, member, book.millis, written, ?_⟩
    rw [if_neg (not_not.mpr credible)]
    simp only [bind_eq_ok_iff, levels_eq_ok_iff]
    exact ⟨book.bids, bids, book.asks, asks, rfl⟩

theorem result_fetch_eq_ok_iff : (fetch context answer pair).result = .ok book ↔
    ∃ row, answer.Delivers (context.bookRequest pair) row ∧ book.StandsIn row := by
  simp only [fetch, bind_eq_ok_iff, bodyOf_eq_ok_iff, ofBody_eq_ok_iff]
  constructor
  · intro fetched
    rcases fetched with ⟨body, answered, reply, row, grants, leads, stands⟩
    exact ⟨row, ⟨body, reply, answered, grants, leads⟩, stands⟩
  · intro delivered
    rcases delivered with ⟨row, ⟨body, reply, answered, grants, leads⟩, stands⟩
    exact ⟨body, answered, reply, row, grants, leads, stands⟩

/-- Its update id is above the last one. -/
theorem last_lt_last_nextIds (book : SnapshotRow) (now : UInt64) (ids : UpdateIds)
    (room : ids.last.toNat + 1 < UInt64.size) : ids.last < (book.nextIds now ids).last :=
  ids.last_lt_last_advance now _ room

end SnapshotRow

/-! ## The query of a source -/

namespace Source

/-- The book of a pair is queried while the counter of update ids has room.  A snapshot comes back
exactly if the request is answered with a row that writes a book, and it is that book.  Its id is
above the last one, and so above all that were ever handed out unless the counter has come to its
end before; it becomes the last one, and nothing else of the source changes.  If the query fails,
nothing changes at all. -/
theorem snapshot_faithful_or_untouched (source : Source) (answer : Answerer) (now : Int)
    (pair : String) (room : source.feed.ids.last.toNat + 1 < UInt64.size) :
    let fetched := (source.fetchSnapshot answer now pair).1
    let after := (source.fetchSnapshot answer now pair).2
    let delivers := answer.Delivers (source.context.bookRequest pair)
    ((∃ message, fetched.result = .ok message) ↔
      ∃ row book, delivers row ∧ SnapshotRow.StandsIn book row) ∧
    (∀ message, fetched.result = .ok message →
      (∃ row book, delivers row ∧ SnapshotRow.StandsIn book row ∧
        message = book.toSnapshot pair message.updateId) ∧
      source.feed.ids.last < message.updateId ∧
      (∀ requests, UpdateIds.serveAll {} requests = source.feed.ids →
        ((∀ id ∈ UpdateIds.issued {} requests, id < message.updateId) ↔
          ∀ id ∈ UpdateIds.issued {} requests, id.toNat + 1 < UInt64.size)) ∧
      after = { source with feed := { source.feed with ids := ⟨message.updateId⟩ } }) ∧
    ∀ error, fetched.result = .error error → after = source := by
  intro fetched after delivers
  simp only [fetched, after, fetchSnapshot]
  cases outcome : (SnapshotRow.fetch source.context answer pair).result with
  | error reason =>
      refine ⟨iff_of_false nofun ?_, nofun, fun _ _ => rfl⟩
      rintro ⟨row, book, delivered, stands⟩
      cases outcome.symm.trans (SnapshotRow.result_fetch_eq_ok_iff.mpr ⟨row, delivered, stands⟩)
  | ok book =>
      obtain ⟨row, delivered, stands⟩ := SnapshotRow.result_fetch_eq_ok_iff.mp outcome
      refine ⟨iff_of_true ⟨_, rfl⟩ ⟨row, book, delivered, stands⟩, ?_, nofun⟩
      rintro _ ⟨⟩
      have above := book.last_lt_last_nextIds (clockWord now) source.feed.ids room
      refine ⟨⟨row, book, delivered, stands, rfl⟩, above, ?_, rfl⟩
      intro requests served
      constructor
      · intro below id member
        exact Nat.lt_of_le_of_lt (UInt64.lt_iff_toNat_lt.mp (below id member))
          (UInt64.toNat_lt _)
      · intro rooms id member
        have known := UpdateIds.issued_le_last {} requests (by decide) rooms id
          (List.mem_cons_of_mem _ member)
        rw [served] at known
        exact UInt64.lt_of_le_of_lt known above

/-- A reply with two bids, one of them with a further column. -/
def twoBids : Answerer :=
  fun _ => .ok (Wire.snapshot "1000" "[[\"100\",\"1\",\"0\"],[\"99\",\"2\"]]" "[]")

/-- The snapshot that it brings. -/
def twoBidsMessage : BookMessage where
  kind := .snapshot
  pair := "BTC-USDT"
  updateId := 1000000
  bids := [⟨⟨0x4059000000000000⟩, ⟨0x3ff0000000000000⟩⟩,
    ⟨⟨0x4058c00000000000⟩, ⟨0x4000000000000000⟩⟩]
  asks := []
  timestamp := ⟨0x3ff0000000000000⟩

/-- A reply whose last ask lacks a size. -/
def lameAsk : Answerer :=
  fun _ => .ok (Wire.snapshot "1000" "[[\"100\",\"1\"]]" "[[\"101\",\"1\"],[\"102\"]]")

theorem snapshot_twoBids_lameAsk :
    bitcoinSource.feed.ids.last.toNat + 1 < UInt64.size ∧
      (bitcoinSource.fetchSnapshot twoBids 5 "BTC-USDT").1.result = .ok twoBidsMessage ∧
      bitcoinSource.feed.ids.last < twoBidsMessage.updateId ∧
      (bitcoinSource.fetchSnapshot twoBids 5 "BTC-USDT").2.feed.ids.last = 1000000 ∧
      (bitcoinSource.fetchSnapshot lameAsk 5 "BTC-USDT").2 = bitcoinSource := by
  have room : bitcoinSource.feed.ids.last.toNat + 1 < UInt64.size := by decide
  have returned : (bitcoinSource.fetchSnapshot twoBids 5 "BTC-USDT").1.result =
      .ok twoBidsMessage := by decide +kernel
  have failed : (bitcoinSource.fetchSnapshot lameAsk 5 "BTC-USDT").1.result =
      .error (.badLevel "order book snapshot BTC-USDT" "asks") := by decide +kernel
  obtain ⟨-, faithful, -⟩ :=
    snapshot_faithful_or_untouched bitcoinSource twoBids 5 "BTC-USDT" room
  obtain ⟨-, -, untouched⟩ :=
    snapshot_faithful_or_untouched bitcoinSource lameAsk 5 "BTC-USDT" room
  obtain ⟨-, above, -, after⟩ := faithful twoBidsMessage returned
  exact ⟨room, returned, above, by rw [after, twoBidsMessage], untouched _ failed⟩

end Source

end SwapFeed
