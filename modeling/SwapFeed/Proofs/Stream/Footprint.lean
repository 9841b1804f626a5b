import SwapFeed.Proofs.Desk.Basic
import SwapFeed.Proofs.Stream.Queues
import SwapFeed.Proofs.UpdateId

/-!
# What an update of a book is read from

Of an update the reader looks at the instrument that the argument names and, in the first record, at
the time and the first two columns of each row.  Two updates that leave the same footprint are read
alike, however different they are elsewhere: both add the same diff under the same id, or both are
refused for the same reason.
-/

namespace SwapFeed

open SwapFeed.Json

/-- What an update is read from: the instrument, and the time and rows of its first record. -/
structure BookFootprint where
  instrument : Json
  millis : Json
  bids : List (Json × Json)
  asks : List (Json × Json)

namespace BookFootprint

/-- A row starts with two columns, whatever follows them. -/
inductive StartsRow : Json × Json → Json → Prop where
  | row (price size : Json) (further : List Json) :
      StartsRow (price, size) (.array (price :: size :: further))

/-- The rows of a side start with columns, in order. -/
inductive StartsRows : List (Json × Json) → Json → Prop where
  | rows {columns : List (Json × Json)} {rows : List Json}
      (starts : List.Forall₂ StartsRow columns rows) : StartsRows columns (.array rows)

/-- An update leaves a footprint; all else in the message is open. -/
structure LeftBy (footprint : BookFootprint) (message : Json) : Prop where
  update : message.getText? "action" = some "update"
  instrument : message.Has "arg" fun argument =>
    argument.get? "instId" = some footprint.instrument
  record : ∃ record further, message.get? "data" = some (.array (record :: further)) ∧
    record.get? "ts" = some footprint.millis ∧
    record.Has "bids" (StartsRows footprint.bids) ∧
    record.Has "asks" (StartsRows footprint.asks)

/-- Two columns write a level. -/
def WritesColumns (columns : Json × Json) (level : Level) : Prop :=
  columns.1.WritesNumber level.price ∧ columns.2.WritesNumber level.size

/-- A footprint writes a change, with one level for each row in order. -/
structure Writes (footprint : BookFootprint) (table : SymbolTable) (change : BookChange) :
    Prop where
  pair : ∃ native, footprint.instrument = .text native ∧
    table.toCanonical native = .ok change.pair
  millis : footprint.millis.WritesEpochMillis change.millis
  bids : List.Forall₂ WritesColumns footprint.bids change.bids
  asks : List.Forall₂ WritesColumns footprint.asks change.asks

/-- The levels that columns are read as. -/
def levels (columns : List (Json × Json)) (field : String) : Except MessageError (List Level) :=
  columns.mapM fun column => Field.level (.array [column.1, column.2]) field

/-- The change that a footprint is read as. -/
def read (footprint : BookFootprint) (table : SymbolTable) : Except MessageError BookChange := do
  let native ← Field.text footprint.instrument "arg.instId"
  let millis ← Field.epochMillis footprint.millis "ts"
  let pair ← Field.pair table native
  let bids ← levels footprint.bids "bids"
  let asks ← levels footprint.asks "asks"
  return ⟨pair, millis, bids, asks⟩

variable {footprint : BookFootprint} {table : SymbolTable}

/-! ## Sides -/

section Sides

variable {columns : List (Json × Json)} {side : Json}

/-- A side is read as if its rows ended behind their second columns. -/
theorem StartsRows.levels_eq (starts : StartsRows columns side) (field : String) :
    Field.levels side field = levels columns field := by
  cases starts with
  | @rows rows starts =>
      rw [Field.levels, levels]
      induction starts with
      | nil => rfl
      | cons here _ step =>
          cases here with
          | row price size further =>
              rw [List.mapM_cons, List.mapM_cons, step]
              rfl

theorem writesColumns_iff {column : Json × Json} {level : Level} :
    (Json.array [column.1, column.2]).WritesLevel level ↔ WritesColumns column level := by
  constructor
  · intro writes
    cases writes with
    | row priced sized => exact ⟨priced, sized⟩
  · intro writes
    exact .row writes.1 writes.2

/-- There is one level for each row. -/
theorem levels_eq_ok_iff {found : List Level} {field : String} :
    levels columns field = .ok found ↔ List.Forall₂ WritesColumns columns found := by
  simp only [levels, mapM_eq_ok_iff, Field.level_eq_ok_iff, writesColumns_iff]

end Sides

/-! ## Messages -/

theorem read_eq_ok_iff {change : BookChange} :
    footprint.read table = .ok change ↔ footprint.Writes table change := by
  simp only [read, bind_eq_ok_iff, Field.text_eq_ok_iff, Field.epochMillis_eq_ok_iff,
    Field.pair_eq_ok_iff, levels_eq_ok_iff]
  constructor
  · intro found
    obtain ⟨native, text, millis, timed, pair, known, bids, bidRows, asks, askRows, built⟩ := found
    cases built
    exact ⟨⟨native, text, known⟩, timed, bidRows, askRows⟩
  · intro writes
    obtain ⟨⟨native, text, known⟩, timed, bidRows, askRows⟩ := writes
    exact ⟨native, text, change.millis, timed, change.pair, known, change.bids, bidRows,
      change.asks, askRows, rfl⟩

/-- An update is read as its footprint is, down to the reason why it is refused. -/
theorem ofMessage_eq {message : Json} (leaves : footprint.LeftBy message) :
    BookChange.ofMessage table message = (footprint.read table).map some := by
  obtain ⟨update, ⟨argument, argumentMember, named⟩, record, further, listed, timed,
    ⟨bids, bidsMember, bidRows⟩, asks, asksMember, askRows⟩ := leaves
  rw [BookChange.ofMessage, if_pos update]
  simp only [BookChange.ofUpdate, read, ok_bind, Field.required_eq_ok_iff.mpr argumentMember,
    Field.required_eq_ok_iff.mpr named, Field.required_eq_ok_iff.mpr listed,
    Field.required_eq_ok_iff.mpr timed, Field.required_eq_ok_iff.mpr bidsMember,
    Field.required_eq_ok_iff.mpr asksMember, bidRows.levels_eq, askRows.levels_eq]

theorem ofMessage_eq_some_iff {message : Json} (leaves : footprint.LeftBy message)
    {change : BookChange} :
    BookChange.ofMessage table message = .ok (some change) ↔ footprint.Writes table change := by
  rw [ofMessage_eq leaves, map_eq_ok_iff, ← read_eq_ok_iff]
  simp

/-- What a text of the books channel delivers depends on the footprint that its message leaves. -/
theorem ofText_eq {names : ChannelNames} {raw : String} {message : Json}
    (leaves : footprint.LeftBy message) (arrives : Arrives names raw .diff message) :
    Delivery.ofText names table raw =
      match footprint.read table with
      | .ok change => .diff change
      | .error reason => .dropped (some (Delivery.malformed .diff reason)) := by
  cases found : footprint.read table with
  | ok change =>
      apply arrives.ofText_of_ok
      rw [Delivery.ofMessage, ofMessage_eq leaves, found]
      rfl
  | error reason =>
      apply arrives.ofText_of_error
      rw [Delivery.ofMessage, ofMessage_eq leaves, found]
      rfl

end BookFootprint

namespace Source

/-- Two updates with the same footprint are read alike, as the change that the footprint writes.  As
texts of the books channel, at whatever clock readings, they leave the same source behind and the
same line in the log.  Either one diff is added, with one level for each row of the footprint and
the id that its time draws, or both are malformed and the source is as it was. -/
theorem diff_depends_on_footprint (source : Source) {footprint : BookFootprint}
    {first second : Json} (left : footprint.LeftBy first) (right : footprint.LeftBy second) :
    BookChange.ofMessage source.table first = BookChange.ofMessage source.table second ∧
    (∀ change, BookChange.ofMessage source.table first = .ok (some change) ↔
      footprint.Writes source.table change) ∧
    ∀ raw other, Arrives source.names raw .diff first → Arrives source.names other .diff second →
      Feed.logLine? source.names source.table raw =
          Feed.logLine? source.names source.table other ∧
        ∀ now later, source.process now raw = source.process later other ∧
          ((∃ (change : BookChange) (ids : UpdateIds), footprint.Writes source.table change ∧
              (∀ clock, change.nextIds clock source.feed.ids = ids) ∧
              source.process now raw = { source with
                feed := { source.feed with
                  ids := ids
                  diffs := source.feed.diffs.push (change.toDiff ids.last) } }) ∨
            (∃ reason, BookChange.ofMessage source.table first = .error reason ∧
              Delivery.ofText source.names source.table raw =
                .dropped (some (Delivery.malformed .diff reason))) ∧
            source.process now raw = source) := by
  refine ⟨by rw [BookFootprint.ofMessage_eq left, BookFootprint.ofMessage_eq right],
    fun _ => BookFootprint.ofMessage_eq_some_iff left, ?_⟩
  intro raw other arrives otherArrives
  have delivered : Delivery.ofText source.names source.table raw = _ :=
    BookFootprint.ofText_eq left arrives
  have same : Delivery.ofText source.names source.table other =
      Delivery.ofText source.names source.table raw :=
    (BookFootprint.ofText_eq right otherArrives).trans delivered.symm
  refine ⟨by rw [Feed.logLine?, Feed.logLine?, same], ?_⟩
  intro now later
  rw [process, process, Feed.process, Feed.process, same]
  cases found : footprint.read source.table with
  | ok change =>
      rw [found] at delivered
      have writes := BookFootprint.read_eq_ok_iff.mp found
      have clockless : ∀ clock, change.nextIds clock source.feed.ids =
          change.nextIds (clockWord now) source.feed.ids :=
        fun clock => BookChange.nextIds_of_credible writes.millis.inRange.2 clock _ _
      rw [delivered]
      simp only [Feed.deliver, clockless (clockWord later), true_and]
      exact .inl ⟨change, _, writes, clockless, rfl⟩
  | error reason =>
      rw [found] at delivered
      have refused : BookChange.ofMessage source.table first = .error reason := by
        rw [BookFootprint.ofMessage_eq left, found]
        rfl
      rw [delivered]
      exact ⟨rfl, .inr ⟨⟨reason, refused, rfl⟩, rfl⟩⟩

/-- An update with nothing in it that is not read. -/
def bareUpdate : Json :=
  .object [("action", .text "update"),
    ("arg", .object [("channel", .text "books"), ("instId", .text "BTC-USDT-SWAP")]),
    ("data", .array [.object [("ts", .text "1000"),
      ("bids", .array [.array [.text "100", .int 1]]), ("asks", .array [])]])]

/-- An update with the same footprint among other columns, records and keys. -/
def crowdedUpdate : Json :=
  .object [("seqId", .null),
    ("arg", .object [("instId", .text "BTC-USDT-SWAP"), ("channel", .text "books")]),
    ("data", .array [.object [("asks", .array []), ("checksum", .text "none"),
      ("bids", .array [.array [.text "100", .int 1, .text "many", .null]]), ("ts", .text "1000")],
      .null, .object [("ts", .text "never")]]),
    ("action", .text "update")]

/-- Both are read as the one row that they have in common. -/
theorem diff_depends_on_footprint_crowded :
    BookChange.ofMessage bitcoinSource.table bareUpdate =
        BookChange.ofMessage bitcoinSource.table crowdedUpdate ∧
      BookChange.ofMessage bitcoinSource.table bareUpdate = .ok (some ⟨"BTC-USDT", 1000,
        [⟨⟨0x4059000000000000⟩, ⟨0x3ff0000000000000⟩⟩], []⟩) := by
  have columns : BookFootprint.StartsRows [(.text "100", .int 1)]
      (.array [.array [.text "100", .int 1]]) := .rows (.cons (.row _ _ []) .nil)
  have moreColumns : BookFootprint.StartsRows [(.text "100", .int 1)]
      (.array [.array [.text "100", .int 1, .text "many", .null]]) :=
    .rows (.cons (.row _ _ [.text "many", .null]) .nil)
  have bare : BookFootprint.LeftBy
      ⟨.text "BTC-USDT-SWAP", .text "1000", [(.text "100", .int 1)], []⟩ bareUpdate :=
    ⟨rfl, ⟨_, rfl, rfl⟩, _, _, rfl, rfl, ⟨_, rfl, columns⟩, _, rfl, .rows .nil⟩
  have crowded : BookFootprint.LeftBy
      ⟨.text "BTC-USDT-SWAP", .text "1000", [(.text "100", .int 1)], []⟩ crowdedUpdate :=
    ⟨rfl, ⟨_, rfl, rfl⟩, _, _, rfl, rfl, ⟨_, rfl, moreColumns⟩, _, rfl, .rows .nil⟩
  exact ⟨(diff_depends_on_footprint bitcoinSource bare crowded).1, by decide +kernel⟩

end Source

end SwapFeed
