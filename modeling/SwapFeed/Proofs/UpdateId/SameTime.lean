import SwapFeed.Proofs.Rest.Snapshot
import SwapFeed.Proofs.Stream.Seconds

/-!
# Snapshots and diffs of one exchange time

A diff draws its update id for the exchange time in whole microseconds.  A snapshot draws its id for
the time in seconds.  The two ids are the same as long as the conversion to seconds keeps the time.
The exception is time zero, which is missing for a snapshot and long past for a diff.
-/

namespace SwapFeed

theorem SnapshotRow.nextIds_of_kept {row : SnapshotRow} (positive : 0 < row.millis)
    (credible : row.millis ≤ latestEpochMillis) (kept : Field.KeptBySeconds row.millis)
    (now : UInt64) (ids : UpdateIds) :
    row.nextIds now ids = ids.advance now (UInt64.ofNat (row.millis.toNat * 1000)) := by
  rw [nextIds, timestamp, UpdateIds.advanceSeconds,
    Field.stampOfSeconds?_of_kept positive credible kept, Option.getD_some]

/-- No time counts as a missing one for a snapshot. -/
theorem SnapshotRow.nextIds_of_zero {row : SnapshotRow} (zero : row.millis = 0) (now : UInt64)
    (ids : UpdateIds) : row.nextIds now ids = ids.advanceNow now := by
  rw [nextIds, timestamp, zero, UpdateIds.advanceSeconds, Field.stampOfSeconds?_zero,
    Option.getD_none, UpdateIds.advanceNow]

theorem BookChange.nextIds_of_zero {change : BookChange} (zero : change.millis = 0) (now : UInt64)
    (ids : UpdateIds) : change.nextIds now ids = ⟨ids.last + 1⟩ := by
  have credible : ¬UpdateIds.latestMicros < 0 := by decide
  simp [nextIds, zero, UpdateIds.advance, credible]

/-- Both times are in range, so that the clock is consulted for neither id. -/
theorem SnapshotRow.nextIds_eq_nextIds {row : SnapshotRow} {change : BookChange}
    (same : change.millis = row.millis) (positive : 0 < row.millis)
    (credible : row.millis ≤ latestEpochMillis) (kept : Field.KeptBySeconds row.millis)
    (asked arrived : UInt64) (ids : UpdateIds) :
    change.nextIds arrived ids = row.nextIds asked ids := by
  rw [nextIds_of_kept positive credible kept, ← same]
  exact BookChange.nextIds_of_credible (same ▸ credible) arrived asked ids

namespace Source

theorem result_eq_ok_of_rowsOf? {source : Source} {answer : Answerer} {pair : String}
    {book : SnapshotRow} (brings : source.rowsOf? answer pair = some book) :
    (SnapshotRow.fetch source.context answer pair).result = .ok book := by
  rw [rowsOf?] at brings
  cases outcome : (SnapshotRow.fetch source.context answer pair).result with
  | error reason => simp [outcome, Except.toOption] at brings
  | ok row => simpa [outcome, Except.toOption] using brings

/-- A snapshot is fetched, or an update of the same exchange time is handled instead.  If the time
is positive, and early enough or kept by the conversion to seconds, both draw the same id and leave
the same sequence, at whatever clock readings.  Time zero counts as missing for a snapshot, which
gets the clock reading, and as a time long past for a diff. -/
theorem snapshot_and_diff_draw_same_id (source : Source) (answer : Answerer) (pair raw : String)
    (asked arrived : Int) {book : SnapshotRow} {change : BookChange}
    (brings : source.rowsOf? answer pair = some book)
    (carries : source.changeOf? raw = some change) (same : change.millis = book.millis) :
    let quoted := source.fetchSnapshot answer asked pair
    let heard := source.process arrived raw
    (0 < book.millis → book.millis * 1000 < 2 ^ 51 ∨ Field.KeptBySeconds book.millis →
      ∃ ids : UpdateIds,
        quoted.1.result = .ok (book.toSnapshot pair ids.last) ∧
        heard.feed.diffs.toList = source.feed.diffs.toList ++ [change.toDiff ids.last] ∧
        quoted.2.feed.ids = ids ∧ heard.feed.ids = ids) ∧
    (book.millis = 0 →
      quoted.1.result =
        .ok (book.toSnapshot pair (source.feed.ids.advanceNow (clockWord asked)).last) ∧
      heard.feed.diffs.toList =
        source.feed.diffs.toList ++ [change.toDiff (source.feed.ids.last + 1)]) := by
  intro quoted heard
  have fetched := result_eq_ok_of_rowsOf? brings
  have update : Delivery.ofText source.names source.table raw = .diff change :=
    Delivery.ofText_eq_diff_iff.mpr (changeOf?_eq_some_iff.mp carries)
  have snapshot : quoted.1.result =
      .ok (book.toSnapshot pair (book.nextIds (clockWord asked) source.feed.ids).last) := by
    simp only [quoted, fetchSnapshot, fetched]
  have afterSnapshot : quoted.2.feed.ids = book.nextIds (clockWord asked) source.feed.ids := by
    simp only [quoted, fetchSnapshot, fetched]
  have diff : heard.feed.diffs.toList = source.feed.diffs.toList ++
      [change.toDiff (change.nextIds (clockWord arrived) source.feed.ids).last] := by
    simp [heard, process, Feed.process, update, Feed.deliver]
  have afterDiff : heard.feed.ids = change.nextIds (clockWord arrived) source.feed.ids := by
    simp [heard, process, Feed.process, update, Feed.deliver]
  constructor
  · intro positive early
    obtain ⟨row, -, stands⟩ := SnapshotRow.result_fetch_eq_ok_iff.mp fetched
    have kept := early.elim (Field.keptBySeconds_of_early positive) id
    rw [SnapshotRow.nextIds_eq_nextIds same positive stands.credible.2 kept (clockWord asked)]
      at diff afterDiff
    exact ⟨_, snapshot, diff, afterSnapshot, afterDiff⟩
  · intro zero
    rw [SnapshotRow.nextIds_of_zero zero] at snapshot
    rw [BookChange.nextIds_of_zero (same.trans zero)] at diff
    exact ⟨snapshot, diff⟩

/-- A reply with a book of the year 2023. -/
def quoteOf2023 : Answerer :=
  fun _ => .ok (Wire.snapshot "1700000000123" "[[\"100\",\"1\"]]" "[]")

/-- An update of the same time. -/
def updateOf2023 : String :=
  Wire.update "BTC-USDT-SWAP" "1700000000123" "[]" "[]"

theorem snapshot_and_diff_draw_same_id_2023 :
    ∃ ids : UpdateIds,
      (bitcoinSource.fetchSnapshot quoteOf2023 5 "BTC-USDT").1.result =
        .ok (SnapshotRow.toSnapshot
          ⟨1700000000123, [⟨⟨0x4059000000000000⟩, ⟨0x3ff0000000000000⟩⟩], []⟩ "BTC-USDT"
          ids.last) ∧
      (bitcoinSource.process 7 updateOf2023).feed.diffs.toList =
        [BookChange.toDiff ⟨"BTC-USDT", 1700000000123, [], []⟩ ids.last] ∧
      (bitcoinSource.fetchSnapshot quoteOf2023 5 "BTC-USDT").2.feed.ids = ids ∧
      (bitcoinSource.process 7 updateOf2023).feed.ids = ids := by
  have brings : bitcoinSource.rowsOf? quoteOf2023 "BTC-USDT" =
      some ⟨1700000000123, [⟨⟨0x4059000000000000⟩, ⟨0x3ff0000000000000⟩⟩], []⟩ := by
    decide +kernel
  have carries : bitcoinSource.changeOf? updateOf2023 =
      some ⟨"BTC-USDT", 1700000000123, [], []⟩ := by
    decide +kernel
  obtain ⟨agree, -⟩ := snapshot_and_diff_draw_same_id bitcoinSource _ _ _ 5 7 brings carries rfl
  exact agree (by decide) (Or.inl (by decide))

/-- At time zero the snapshot gets the clock reading and the diff the successor of the last id.  At
a time of the year 2041 they are one microsecond apart. -/
theorem ids_differ_zero_2041 :
    SnapshotRow.nextIds ⟨0, [], []⟩ 5 {} = ⟨5⟩ ∧
    BookChange.nextIds ⟨"BTC-USDT", 0, [], []⟩ 5 {} = ⟨1⟩ ∧
    SnapshotRow.nextIds ⟨2251799813687, [], []⟩ 5 {} = ⟨2251799813687001⟩ ∧
    BookChange.nextIds ⟨"BTC-USDT", 2251799813687, [], []⟩ 5 {} = ⟨2251799813687000⟩ := by
  decide +kernel

end Source

end SwapFeed
