import SwapFeed.Proofs.Stream.Field
import SwapFeed.Stream.Diff
import SwapFeed.Stream.FundingDelta
import SwapFeed.Stream.Trade

/-!
# Well-formed messages

What a message of each channel says, as a relation between the JSON value and the events: one trade
per entry, one change in the first record, one funding update per entry.  A relation lists what each
field has to write and leaves open in which order fields are checked.  The readers of whole messages
succeed exactly on well-formed ones.
-/

namespace SwapFeed

open SwapFeed.Json

namespace Json

/-- A member that has to be there writes something. -/
def Has (parent : Json) (key : String) (writes : Json → Prop) : Prop :=
  ∃ value, parent.get? key = some value ∧ writes value

/-- A member that may be there writes something. -/
inductive MayHave {α : Type} (parent : Json) (key : String) (writes : Json → α → Prop) :
    Option α → Prop where
  | absent (missing : parent.get? key = none) : MayHave parent key writes none
  | present {value : Json} {found : α} (member : parent.get? key = some value)
      (written : writes value found) : MayHave parent key writes (some found)

/-- A member that is there writes what is found. -/
theorem MayHave.exists_of_member {α : Type} {parent value : Json} {key : String}
    {writes : Json → α → Prop} {found : Option α} (may : parent.MayHave key writes found)
    (member : parent.get? key = some value) :
    ∃ result, found = some result ∧ writes value result := by
  cases may with
  | absent missing => cases missing.symm.trans member
  | present memberToo written =>
      cases memberToo.symm.trans member
      exact ⟨_, rfl, written⟩

/-- A member names an instrument of a pair. -/
def NamesPair (parent : Json) (key : String) (table : SymbolTable) (pair : String) : Prop :=
  ∃ native, parent.getText? key = some native ∧ table.toCanonical native = .ok pair

end Json

/-! ## Trades -/

/-- The text that names a side. -/
def TradeSide.name : TradeSide → String
  | buy => "buy"
  | sell => "sell"

namespace Trade

/-- An entry writes a trade. -/
structure WrittenBy (table : SymbolTable) (entry : Json) (trade : Trade) : Prop where
  side : entry.getText? "side" = some trade.side.name
  pair : entry.NamesPair "instId" table trade.pair
  tradeId : entry.Has "tradeId" (WritesId · trade.tradeId)
  amount : entry.Has "sz" (WritesNumber · trade.amount)
  price : entry.Has "px" (WritesNumber · trade.price)
  timestamp : ∃ millis, entry.Has "ts" (WritesEpochMillis · millis) ∧
    trade.timestamp = Field.secondsOfMillis millis

theorem sideOf_eq_ok_iff {text : String} {side : TradeSide} :
    sideOf text = .ok side ↔ text = side.name := by
  rw [sideOf]
  constructor
  · intro named
    split at named
    · next buy =>
        cases named
        exact buy
    · split at named
      · next sell =>
          cases named
          exact sell
      · cases named
  · intro named
    subst named
    cases side with
    | buy => rfl
    | sell => rfl

theorem ofEntry_eq_ok_iff {table : SymbolTable} {entry : Json} {trade : Trade} :
    ofEntry table entry = .ok trade ↔ trade.WrittenBy table entry := by
  rw [ofEntry]
  simp only [bind_eq_ok_iff, Field.required_eq_ok_iff, Field.text_eq_ok_iff, Field.pair_eq_ok_iff,
    Field.identifier_eq_ok_iff, sideOf_eq_ok_iff, Field.double_eq_ok_iff,
    Field.epochMillis_eq_ok_iff]
  constructor
  · intro read
    rcases read with
      ⟨_, sideMember, _, rfl, _, nativeMember, native, rfl, pair, known, idValue, idMember,
        tradeId, id, side, rfl, sizeValue, sizeMember, amount, sized, priceValue, priceMember,
        price, priced, timeValue, timeMember, millis, timed, built⟩
    cases built
    constructor
    · exact getText?_eq_some_iff.mpr sideMember
    · exact ⟨native, getText?_eq_some_iff.mpr nativeMember, known⟩
    · exact ⟨idValue, idMember, id⟩
    · exact ⟨sizeValue, sizeMember, sized⟩
    · exact ⟨priceValue, priceMember, priced⟩
    · exact ⟨millis, ⟨timeValue, timeMember, timed⟩, rfl⟩
  · intro written
    rcases written with
      ⟨side, ⟨native, nativeMember, known⟩, ⟨idValue, idMember, id⟩,
        ⟨sizeValue, sizeMember, sized⟩, ⟨priceValue, priceMember, priced⟩,
        ⟨millis, ⟨timeValue, timeMember, timed⟩, timestamp⟩⟩
    refine ⟨_, getText?_eq_some_iff.mp side, _, rfl, _, getText?_eq_some_iff.mp nativeMember,
      native, rfl, trade.pair, known, idValue, idMember, trade.tradeId, id, trade.side, rfl,
      sizeValue, sizeMember, trade.amount, sized, priceValue, priceMember, trade.price, priced,
      timeValue, timeMember, millis, timed, ?_⟩
    rw [← timestamp]
    rfl

/-- A message reads as trades if its data are entries that write them, in order. -/
theorem ofMessage_eq_ok_iff {table : SymbolTable} {message : Json} {trades : List Trade} :
    ofMessage table message = .ok trades ↔
      ∃ entries, message.get? "data" = some (.array entries) ∧
        List.Forall₂ (fun entry trade => trade.WrittenBy table entry) entries trades := by
  rw [ofMessage, bind_eq_ok_iff]
  simp only [Field.required_eq_ok_iff]
  constructor
  · intro read
    rcases read with ⟨data, member, read⟩
    split at read
    · next entries =>
        rw [mapM_eq_ok_iff] at read
        simp only [ofEntry_eq_ok_iff] at read
        exact ⟨entries, member, read⟩
    · cases read
  · intro written
    rcases written with ⟨entries, member, written⟩
    refine ⟨.array entries, member, mapM_eq_ok_iff.mpr ?_⟩
    simp only [ofEntry_eq_ok_iff]
    exact written

end Trade

/-! ## Changes of a book -/

namespace BookChange

/-- The first record of an update's data writes a change, of the pair that its argument names. -/
structure WrittenBy (table : SymbolTable) (message : Json) (change : BookChange) : Prop where
  pair : message.Has "arg" fun argument => argument.NamesPair "instId" table change.pair
  record : ∃ record further, message.get? "data" = some (.array (record :: further)) ∧
    record.Has "ts" (WritesEpochMillis · change.millis) ∧
    record.Has "bids" (WritesLevels · change.bids) ∧
    record.Has "asks" (WritesLevels · change.asks)

theorem ofUpdate_eq_ok_iff {table : SymbolTable} {message : Json} {change : BookChange} :
    ofUpdate table message = .ok change ↔ change.WrittenBy table message := by
  rw [ofUpdate]
  simp only [bind_eq_ok_iff, Field.required_eq_ok_iff, Field.text_eq_ok_iff]
  constructor
  · intro read
    rcases read with
      ⟨argument, argumentMember, _, nativeMember, native, rfl, data, dataMember, read⟩
    split at read
    · next record further =>
        simp only [bind_eq_ok_iff, Field.required_eq_ok_iff, Field.epochMillis_eq_ok_iff,
          Field.pair_eq_ok_iff, Field.levels_eq_ok_iff] at read
        obtain ⟨timeValue, timeMember, millis, timed, pair, known, bidValue, bidMember, bids,
          bidsWritten, askValue, askMember, asks, asksWritten, built⟩ := read
        cases built
        constructor
        · exact ⟨argument, argumentMember, native, getText?_eq_some_iff.mpr nativeMember, known⟩
        · exact ⟨record, further, dataMember, ⟨timeValue, timeMember, timed⟩,
            ⟨bidValue, bidMember, bidsWritten⟩, ⟨askValue, askMember, asksWritten⟩⟩
    · cases read
  · intro written
    rcases written with
      ⟨⟨argument, argumentMember, native, nativeMember, known⟩, record, further, dataMember,
        ⟨timeValue, timeMember, timed⟩, ⟨bidValue, bidMember, bidsWritten⟩,
        ⟨askValue, askMember, asksWritten⟩⟩
    refine ⟨argument, argumentMember, _, getText?_eq_some_iff.mp nativeMember, native, rfl,
      _, dataMember, ?_⟩
    simp only [bind_eq_ok_iff, Field.required_eq_ok_iff, Field.epochMillis_eq_ok_iff,
      Field.pair_eq_ok_iff, Field.levels_eq_ok_iff]
    exact ⟨timeValue, timeMember, change.millis, timed, change.pair, known, bidValue, bidMember,
      change.bids, bidsWritten, askValue, askMember, change.asks, asksWritten, rfl⟩

/-- A message reads as a change if it is a well-formed update. -/
theorem ofMessage_eq_some_iff {table : SymbolTable} {message : Json} {change : BookChange} :
    ofMessage table message = .ok (some change) ↔
      message.getText? "action" = some "update" ∧ change.WrittenBy table message := by
  rw [ofMessage]
  split
  · next update =>
      rw [map_eq_ok_iff]
      constructor
      · intro read
        rcases read with ⟨found, read, same⟩
        cases same
        exact ⟨update, ofUpdate_eq_ok_iff.mp read⟩
      · intro written
        rcases written with ⟨-, written⟩
        exact ⟨change, ofUpdate_eq_ok_iff.mpr written, rfl⟩
  · next other =>
      constructor
      · intro read
        cases read
      · intro written
        rcases written with ⟨update, -⟩
        exact (other update).elim

end BookChange

/-! ## Funding updates -/

namespace FundingUpdate

/-- An instant is written like an id: as text, or as an integer that stands for its digits. -/
def WritesInstant (value : Json) (seconds : Int) : Prop :=
  ∃ text, value.WritesId text ∧ readInstant text = .ok seconds

/-- A rate is written as a whole number of millionths. -/
def WritesRate (value : Json) (rate : Double) : Prop :=
  ∃ count, value.WritesInteger count ∧
    Double.ofInt count * Double.ofRatio false 1 1000000 = rate

/-- The native id that a message is about stands behind its topic, or else in its argument. -/
inductive Concerns (message : Json) : String → Prop where
  | topic {topic : String} (named : message.getText? "topic" = some topic) :
      Concerns message (Topic.instrument topic)
  | argument {argument : Json} {native : String} (untitled : message.getText? "topic" = none)
      (member : message.get? "arg" = some argument)
      (named : argument.getText? "instId" = some native) : Concerns message native

/-- A delta is about a pair and has entries. -/
structure Announces (table : SymbolTable) (message : Json) (pair : String)
    (entries : List Json) : Prop where
  pair : ∃ native, Concerns message native ∧ native ≠ "" ∧ table.toCanonical native = .ok pair
  entries : message.Has "data" fun data => data.get? "update" = some (.array entries)

/-- An entry writes an update: each field that it has is well formed, and only those are set. -/
structure WrittenBy (pair : String) (entry : Json) (update : FundingUpdate) : Prop where
  pair : update.pair = pair
  indexPrice : entry.MayHave "index_price" WritesNumber update.indexPrice
  markPrice : entry.MayHave "mark_price" WritesNumber update.markPrice
  nextFunding : entry.MayHave "next_funding_time" WritesInstant update.nextFunding
  rate : entry.MayHave "predicted_funding_rate_e6" WritesRate update.rate

theorem optional_eq_ok_iff {α : Type} {entry : Json} {key : String}
    {read : Json → String → Except MessageError α} {writes : Json → α → Prop}
    (reads : ∀ value found, read value key = .ok found ↔ writes value found)
    {found : Option α} :
    optional entry key read = .ok found ↔ entry.MayHave key writes found := by
  rw [optional]
  cases member : entry.get? key with
  | none =>
      constructor
      · intro read
        cases read
        exact .absent member
      · intro may
        cases may with
        | absent => rfl
        | present present => cases member.symm.trans present
  | some value =>
      simp only [map_eq_ok_iff]
      constructor
      · intro accepted
        rcases accepted with ⟨result, accepted, rfl⟩
        exact .present member ((reads value result).mp accepted)
      · intro may
        cases may with
        | absent missing => cases member.symm.trans missing
        | present present written =>
            cases member.symm.trans present
            exact ⟨_, (reads value _).mpr written, rfl⟩

theorem instant_eq_ok_iff {value : Json} {field : String} {seconds : Int} :
    instant value field = .ok seconds ↔ WritesInstant value seconds := by
  have likeId : instant value field =
      (Field.identifier value field >>= fun text => (readInstant text).mapError .instant) := by
    cases value <;> rfl
  rw [likeId, bind_eq_ok_iff]
  simp only [Field.identifier_eq_ok_iff, mapError_eq_ok_iff]
  rfl

/-- A text is an instant as it stands. -/
theorem instant_text (text field : String) :
    instant (.text text) field = (readInstant text).mapError .instant := rfl

theorem millionths_eq_ok_iff {value : Json} {field : String} {rate : Double} :
    millionths value field = .ok rate ↔ WritesRate value rate := by
  rw [millionths, map_eq_ok_iff]
  simp only [Field.integer_eq_ok_iff]
  rfl

theorem nativeOf_eq_ok_iff {message : Json} {native : String} :
    nativeOf message = .ok native ↔ Concerns message native := by
  rw [nativeOf]
  cases titled : message.getText? "topic" with
  | some topic =>
      constructor
      · intro read
        cases read
        exact .topic titled
      · intro concerns
        cases concerns with
        | topic named =>
            cases titled.symm.trans named
            rfl
        | argument untitled => cases titled.symm.trans untitled
  | none =>
      simp only [bind_eq_ok_iff, Field.required_eq_ok_iff, Field.text_eq_ok_iff]
      constructor
      · intro read
        rcases read with ⟨argument, member, _, nativeMember, rfl⟩
        exact .argument titled member (getText?_eq_some_iff.mpr nativeMember)
      · intro concerns
        cases concerns with
        | topic named => cases titled.symm.trans named
        | argument _ member named =>
            exact ⟨_, member, _, getText?_eq_some_iff.mp named, rfl⟩

/-- A delta announces one pair and one list of entries. -/
theorem Announces.unique {table : SymbolTable} {message : Json} {pair other : String}
    {entries others : List Json} (announces : Announces table message pair entries)
    (again : Announces table message other others) : other = pair ∧ others = entries := by
  rcases announces with ⟨⟨native, concerns, -, known⟩, data, dataMember, entriesMember⟩
  obtain ⟨⟨otherNative, otherConcerns, -, otherKnown⟩, otherData, otherMember, othersMember⟩ :=
    again
  have sameNative := (nativeOf_eq_ok_iff.mpr concerns).symm.trans
    (nativeOf_eq_ok_iff.mpr otherConcerns)
  cases sameNative
  cases known.symm.trans otherKnown
  cases dataMember.symm.trans otherMember
  cases entriesMember.symm.trans othersMember
  exact ⟨rfl, rfl⟩

theorem ofEntry_eq_ok_iff {pair : String} {entry : Json} {update : FundingUpdate} :
    ofEntry pair entry = .ok update ↔ update.WrittenBy pair entry := by
  rw [ofEntry]
  simp only [bind_eq_ok_iff, optional_eq_ok_iff fun _ _ => Field.double_eq_ok_iff,
    optional_eq_ok_iff fun _ _ => instant_eq_ok_iff,
    optional_eq_ok_iff fun _ _ => millionths_eq_ok_iff]
  constructor
  · intro read
    rcases read with ⟨indexPrice, index, markPrice, mark, nextFunding, next, rate, rated, built⟩
    cases built
    exact ⟨rfl, index, mark, next, rated⟩
  · intro written
    rcases written with ⟨rfl, index, mark, next, rated⟩
    exact ⟨update.indexPrice, index, update.markPrice, mark, update.nextFunding, next,
      update.rate, rated, rfl⟩

/-- A delta reads as updates if it announces entries that write them, in order. -/
theorem ofDelta_eq_ok_iff {table : SymbolTable} {message : Json}
    {updates : List FundingUpdate} :
    ofDelta table message = .ok updates ↔
      ∃ pair entries, Announces table message pair entries ∧
        List.Forall₂ (fun entry update => update.WrittenBy pair entry) entries updates := by
  rw [ofDelta]
  simp only [bind_eq_ok_iff, nativeOf_eq_ok_iff]
  constructor
  · intro read
    rcases read with ⟨native, concerns, read⟩
    split at read
    · cases read
    · next named =>
        simp only [bind_eq_ok_iff, Field.pair_eq_ok_iff, Field.required_eq_ok_iff] at read
        rcases read with ⟨pair, known, data, dataMember, _, entriesMember, read⟩
        split at read
        · next entries =>
            simp only [mapM_eq_ok_iff, ofEntry_eq_ok_iff] at read
            exact ⟨pair, entries, ⟨⟨native, concerns, named, known⟩, data, dataMember,
              entriesMember⟩, read⟩
        · cases read
  · intro announced
    rcases announced with
      ⟨pair, entries, ⟨⟨native, concerns, named, known⟩, data, dataMember, entriesMember⟩,
        written⟩
    refine ⟨native, concerns, ?_⟩
    rw [if_neg named]
    simp only [bind_eq_ok_iff, Field.pair_eq_ok_iff, Field.required_eq_ok_iff]
    refine ⟨pair, known, data, dataMember, _, entriesMember, ?_⟩
    simp only [mapM_eq_ok_iff, ofEntry_eq_ok_iff]
    exact written

end FundingUpdate

end SwapFeed
