import SwapFeed.Proofs.Double.Range
import SwapFeed.Proofs.Json.Range
import SwapFeed.Proofs.Stream.Queues

/-!
# Numbers of the stream and the fields that they come from

Every price, size and amount of an event is written by one field of its message, and a rate by an
integer.  A number that is written as such is finite, because the text would not be JSON otherwise.
So the only numbers that are not finite come from fields that spell them as text.
-/

namespace SwapFeed

open SwapFeed.Json

def AllFinite (numbers : List Double) : Prop := ∀ number ∈ numbers, number.isFinite = true

instance (numbers : List Double) : Decidable (AllFinite numbers) :=
  inferInstanceAs (Decidable (∀ number ∈ numbers, _))

@[simp] theorem allFinite_nil : AllFinite [] := by simp [AllFinite]

@[simp] theorem allFinite_append {first second : List Double} :
    AllFinite (first ++ second) ↔ AllFinite first ∧ AllFinite second :=
  List.forall_mem_append

@[simp] theorem allFinite_flatMap {α : Type} {sources : List α} {numbers : α → List Double} :
    AllFinite (sources.flatMap numbers) ↔ ∀ source ∈ sources, AllFinite (numbers source) := by
  simp only [AllFinite, List.mem_flatMap]
  constructor
  · intro finite source member number here
    exact finite number ⟨source, member, here⟩
  · rintro finite number ⟨source, member, here⟩
    exact finite source member number here

/-! ## The numbers of events -/

def Level.numbers (level : Level) : List Double := [level.price, level.size]

def Trade.numbers (trade : Trade) : List Double := [trade.amount, trade.price]

def BookChange.numbers (change : BookChange) : List Double :=
  (change.bids ++ change.asks).flatMap (·.numbers)

def BookMessage.numbers (message : BookMessage) : List Double :=
  (message.bids ++ message.asks).flatMap (·.numbers)

def FundingUpdate.prices (update : FundingUpdate) : List Double :=
  update.indexPrice.toList ++ update.markPrice.toList

def FundingUpdate.numbers (update : FundingUpdate) : List Double :=
  update.prices ++ update.rate.toList

def Part.numbers (part : Part) : List Double :=
  part.trades.flatMap (·.numbers) ++ part.changes.flatMap (·.numbers) ++
    part.updates.flatMap (·.numbers)

/-- The numbers in all events that wait. -/
def Feed.numbers (feed : Feed) : List Double :=
  feed.trades.toList.flatMap (·.numbers) ++ feed.diffs.toList.flatMap (·.numbers) ++
    feed.funding.toList.flatMap (·.numbers)

/-! ## The fields of messages -/

namespace Json

/-- The member with a key, if there is one. -/
def member (parent : Json) (key : String) : List Json := (parent.get? key).toList

def items : Json → List Json
  | array items => items
  | _ => []

/-- The price and the size of a row. -/
def levelFields : Json → List Json
  | array (price :: size :: _) => [price, size]
  | _ => []

/-- The prices and sizes of both sides of a book. -/
def bookFields (record : Json) : List Json :=
  (record.member "bids" ++ record.member "asks").flatMap fun side =>
    side.items.flatMap levelFields

/-- The amount and the price of a trade. -/
def tradeFields (entry : Json) : List Json := entry.member "sz" ++ entry.member "px"

/-- The prices of a funding update. -/
def priceFields (entry : Json) : List Json :=
  entry.member "index_price" ++ entry.member "mark_price"

/-- The fields of a message from which prices, sizes and amounts are read. -/
def numberFields (names : ChannelNames) (message : Json) : List Json :=
  match names.classify message with
  | .trade => (message.member "data").flatMap fun data => data.items.flatMap tradeFields
  | .diff => (message.member "data").flatMap fun data => (data.items.take 1).flatMap bookFields
  | .funding =>
      (message.member "data").flatMap fun data =>
        (data.member "update").flatMap fun entries => entries.items.flatMap priceFields
  | .unrouted => []

/-- A value does not spell, as text, a number that is not finite. -/
def SpellsFinite (value : Json) : Prop :=
  ∀ text number, value = .text text → Double.numeral? text.toList = some number →
    number.isFinite = true

/-! ## Ranges of fields -/

namespace InRange

variable {parent value : Json}

theorem member (inRange : parent.InRange) {key : String} :
    ∀ value ∈ parent.member key, value.InRange := by
  intro value found
  exact inRange.of_get? (Option.mem_toList.mp found)

theorem items (inRange : parent.InRange) : ∀ item ∈ parent.items, item.InRange := by
  cases inRange with
  | array inRange => exact inRange
  | _ => simp [Json.items]

theorem levelFields (inRange : parent.InRange) :
    ∀ field ∈ parent.levelFields, field.InRange := by
  intro field found
  unfold Json.levelFields at found
  split at found
  · next price size further =>
      apply inRange.of_mem
      rcases List.mem_cons.mp found with rfl | later
      · exact List.mem_cons_self
      · cases List.mem_singleton.mp later
        exact List.mem_cons_of_mem _ List.mem_cons_self
  · cases found

theorem flatMap {sources : List Json} {fields : Json → List Json}
    (inRange : ∀ source ∈ sources, source.InRange)
    (step : ∀ source : Json, source.InRange → ∀ field ∈ fields source, field.InRange) :
    ∀ field ∈ sources.flatMap fields, field.InRange := by
  intro field found
  obtain ⟨source, there, here⟩ := List.mem_flatMap.mp found
  exact step source (inRange source there) field here

theorem bookFields (inRange : parent.InRange) : ∀ field ∈ parent.bookFields, field.InRange :=
  flatMap (List.forall_mem_append.mpr ⟨inRange.member, inRange.member⟩) fun _ side =>
    flatMap side.items fun _ row => row.levelFields

theorem numberFields {names : ChannelNames} (inRange : parent.InRange) :
    ∀ field ∈ parent.numberFields names, field.InRange := by
  rw [Json.numberFields]
  split
  · exact flatMap inRange.member fun _ data => flatMap data.items fun _ entry =>
      List.forall_mem_append.mpr ⟨entry.member, entry.member⟩
  · apply flatMap inRange.member
    intro data here
    apply flatMap fun record found => here.items record (List.mem_of_mem_take found)
    exact fun _ record => record.bookFields
  · exact flatMap inRange.member fun _ data => flatMap data.member fun _ entries =>
      flatMap entries.items fun _ entry =>
        List.forall_mem_append.mpr ⟨entry.member, entry.member⟩
  · simp

end InRange

/-! ## Fields that write numbers -/

/-- A number that a field writes is finite unless the field spells one that is not. -/
theorem WritesNumber.isFinite_iff {value : Json} {number : Double}
    (writes : value.WritesNumber number) (inRange : value.InRange) :
    number.isFinite = true ↔ value.SpellsFinite := by
  cases writes with
  | @text text number numeral =>
      constructor
      · rintro finite _ other ⟨⟩ again
        cases numeral.symm.trans again
        exact finite
      · exact fun spells => spells text number rfl numeral
  | int count =>
      refine ⟨fun _ => nofun, fun _ => Double.isFinite_ofInt ?_⟩
      cases inRange with
      | int fits =>
          simp only [fitsWord, decide_eq_true_eq] at fits
          have size : Nat.pow 2 64 = 18446744073709551616 := rfl
          omega
  | real number =>
      refine ⟨fun _ => nofun, fun _ => ?_⟩
      cases inRange with
      | real finite => exact finite

/-- Fields that write some numbers, one each. -/
theorem allFinite_iff {fields : List Json} {numbers : List Double}
    (written : List.Forall₂ WritesNumber fields numbers)
    (inRange : ∀ field ∈ fields, field.InRange) :
    AllFinite numbers ↔ ∀ field ∈ fields, field.SpellsFinite := by
  induction written with
  | nil => simp
  | cons writes _ step =>
      obtain ⟨here, later⟩ := List.forall_mem_cons.mp inRange
      rw [AllFinite, List.forall_mem_cons, List.forall_mem_cons, writes.isFinite_iff here]
      exact and_congr_right fun _ => step later

section Written

variable {parent value : Json} {key : String}

theorem Has.member {number : Double} (has : parent.Has key (WritesNumber · number)) :
    List.Forall₂ WritesNumber (parent.member key) [number] := by
  rcases has with ⟨value, found, writes⟩
  rw [Json.member, found]
  exact .cons writes .nil

theorem MayHave.member {found : Option Double} (may : parent.MayHave key WritesNumber found) :
    List.Forall₂ WritesNumber (parent.member key) found.toList := by
  cases may with
  | absent missing =>
      rw [Json.member, missing]
      exact .nil
  | present here writes =>
      rw [Json.member, here]
      exact .cons writes .nil

/-- A member that is set is there and writes what it is set to. -/
theorem MayHave.of_mem {α : Type} {writes : Json → α → Prop} {found : Option α} {result : α}
    (may : parent.MayHave key writes found) (set : result ∈ found) :
    parent.Has key (writes · result) := by
  cases may with
  | absent => cases set
  | present member written =>
      cases set
      exact ⟨_, member, written⟩

theorem WritesLevels.levelFields {levels : List Level} (writes : value.WritesLevels levels) :
    List.Forall₂ WritesNumber (value.items.flatMap Json.levelFields)
      (levels.flatMap (·.numbers)) := by
  cases writes with
  | rows written =>
      apply List.rel_flatMap written
      intro row level writes
      cases writes with
      | row priced sized => exact .cons priced (.cons sized .nil)

/-- The sides of a book. -/
theorem bookFields_write {record : Json} {bids asks : List Level}
    (bidsWritten : record.Has "bids" (WritesLevels · bids))
    (asksWritten : record.Has "asks" (WritesLevels · asks)) :
    List.Forall₂ WritesNumber record.bookFields ((bids ++ asks).flatMap (·.numbers)) := by
  rcases bidsWritten with ⟨bidSide, bidMember, bidsWritten⟩
  rcases asksWritten with ⟨askSide, askMember, asksWritten⟩
  rw [bookFields, Json.member, Json.member, bidMember, askMember, List.flatMap_append]
  simpa using List.rel_append bidsWritten.levelFields asksWritten.levelFields

end Written

theorem WritesInteger.natAbs_lt {value : Json} {count : Int} (writes : value.WritesInteger count) :
    count.natAbs < Nat.pow 2 64 := by
  have fits : Text.fitsInt64 count = true := by
    cases writes with
    | text _ fits => exact fits
    | int fits => exact fits
    | real _ _ fits => exact fits
  simp only [Text.fitsInt64, decide_eq_true_eq] at fits
  have size : Nat.pow 2 64 = 18446744073709551616 := rfl
  omega

end Json

/-! ## The numbers of a text -/

theorem Trade.WrittenBy.tradeFields {table : SymbolTable} {entry : Json} {trade : Trade}
    (written : trade.WrittenBy table entry) :
    List.Forall₂ WritesNumber entry.tradeFields trade.numbers :=
  List.rel_append written.amount.member written.price.member

namespace FundingUpdate

/-- A rate is written by an integer, so no text spells one that is not finite. -/
theorem WritesRate.isFinite {value : Json} {rate : Double} (writes : WritesRate value rate) :
    rate.isFinite = true := by
  rcases writes with ⟨count, writes, rfl⟩
  exact Double.isFinite_ofInt_mul writes.natAbs_lt (by decide +kernel) (by decide +kernel)

variable {pair : String} {entry : Json} {update : FundingUpdate}

theorem WrittenBy.priceFields (written : update.WrittenBy pair entry) :
    List.Forall₂ WritesNumber entry.priceFields update.prices :=
  List.rel_append written.indexPrice.member written.markPrice.member

theorem WrittenBy.allFinite_iff (written : update.WrittenBy pair entry) :
    AllFinite update.numbers ↔ AllFinite update.prices := by
  have rate : AllFinite update.rate.toList := by
    intro rate set
    obtain ⟨value, -, writes⟩ := written.rate.of_mem (Option.mem_toList.mp set)
    exact writes.isFinite
  rw [numbers, allFinite_append]
  exact and_iff_left rate

end FundingUpdate

/-- No field of a text from which a number is read spells one that is not finite. -/
def ChannelNames.SpellsFinite (names : ChannelNames) (raw : String) : Prop :=
  ∀ message, Json.parse .stream raw = some message →
    ∀ field ∈ message.numberFields names, field.SpellsFinite

namespace Part

variable {names : ChannelNames} {table : SymbolTable} {raw : String} {part : Part}

/-- A text is dropped, or its fields write the numbers of its events, one each.  Rates are not
among these numbers, and are finite. -/
theorem From.dropped_or_written (is : From names table raw part) :
    Dropped names table raw ∨
      ∃ message numbers, Json.parse .stream raw = some message ∧
        List.Forall₂ WritesNumber (message.numberFields names) numbers ∧
        (AllFinite part.numbers ↔ AllFinite numbers) := by
  cases is with
  | @trades message entries trades arrives listed written =>
      refine .inr ⟨message, trades.flatMap (·.numbers), arrives.parsed, ?_, by simp [numbers]⟩
      rw [Json.numberFields, arrives.classify_eq]
      simp only [Json.member, listed, Option.toList_some, List.flatMap_singleton, Json.items]
      exact List.rel_flatMap written fun _ _ written => written.tradeFields
  | @change message change arrives update written =>
      refine .inr ⟨message, change.numbers, arrives.parsed, ?_, by simp [numbers]⟩
      obtain ⟨record, further, data, -, bids, asks⟩ := written.record
      rw [Json.numberFields, arrives.classify_eq]
      simp only [Json.member, data, Option.toList_some, List.flatMap_singleton, Json.items,
        List.take_succ_cons, List.take_zero]
      exact Json.bookFields_write bids asks
  | @updates message pair entries updates arrives delta announces written =>
      refine .inr ⟨message, updates.flatMap (·.prices), arrives.parsed, ?_, ?_⟩
      · obtain ⟨data, dataMember, entriesMember⟩ := announces.entries
        rw [Json.numberFields, arrives.classify_eq]
        simp only [Json.member, dataMember, entriesMember, Option.toList_some,
          List.flatMap_singleton, Json.items]
        exact List.rel_flatMap written fun _ _ written => written.priceFields
      · have rates : ∀ update ∈ updates, (AllFinite update.numbers ↔ AllFinite update.prices) := by
          intro update member
          obtain ⟨entry, -, written⟩ := exists_of_forall₂ (List.Forall₂.flip written) member
          exact written.allFinite_iff
        simpa [numbers] using forall₂_congr rates
  | nothing dropped => exact .inl dropped

theorem From.numbers_eq_nil (is : From names table raw part) (dropped : Dropped names table raw) :
    part.numbers = [] := by
  rw [is.eq_ofDelivery]
  rcases dropped.delivers_nothing with ⟨log, nothing⟩ | nothing
  · rw [nothing]
    rfl
  · rw [nothing]
    rfl

/-- The numbers of a text are finite exactly if it is dropped or spells only finite numbers. -/
theorem From.allFinite_iff (is : From names table raw part) :
    AllFinite part.numbers ↔ Dropped names table raw ∨ names.SpellsFinite raw := by
  rcases is.dropped_or_written with dropped | ⟨message, numbers, parsed, written, same⟩
  · rw [is.numbers_eq_nil dropped]
    exact iff_of_true allFinite_nil (.inl dropped)
  · have inRange : ∀ field ∈ message.numberFields names, field.InRange :=
      (Json.inRange_of_parse Json.Dialect.stream_keepsRange parsed).numberFields
    rw [same, Json.allFinite_iff written inRange]
    constructor
    · intro spells
      right
      intro other again
      cases parsed.symm.trans again
      exact spells
    · intro droppedOrSpells
      rcases droppedOrSpells with dropped | spells
      · rw [is.numbers_eq_nil dropped] at same
        exact (Json.allFinite_iff written inRange).mp (same.mp allFinite_nil)
      · exact spells message parsed

end Part

/-! ## The numbers of a run -/

/-- Diffs have the numbers of the changes that they carry. -/
theorem BookMessage.numbers_of_carried {changes : List BookChange} {diffs : List BookMessage}
    (carried : List.Forall₂ (fun change diff => diff.Carries change) changes diffs) :
    changes.flatMap (·.numbers) = diffs.flatMap (·.numbers) := by
  induction carried with
  | nil => rfl
  | cons carries _ step =>
      rcases carries with ⟨updateId, rfl⟩
      rw [List.flatMap_cons, List.flatMap_cons, step]
      rfl

/-- The queues hold finite numbers exactly if they did before and gain only such. -/
theorem Feed.Gains.allFinite_iff {feed after : Feed} {parts : List Part}
    (gains : feed.Gains after parts) :
    AllFinite after.numbers ↔ AllFinite feed.numbers ∧ ∀ part ∈ parts, AllFinite part.numbers := by
  obtain ⟨diffs, queue, carried⟩ := gains.diffs
  simp only [Feed.numbers, Part.numbers, gains.trades, gains.funding, queue, List.flatMap_append,
    ← BookMessage.numbers_of_carried carried, allFinite_append, List.flatMap_assoc,
    allFinite_flatMap, forall_and]
  tauto

namespace Source

/-- After a run of texts, all numbers in the queues are finite exactly if those were that waited
before, and each text is dropped or spells only finite numbers. -/
theorem allFinite_processAll_iff (source : Source) (texts : List (Int × String)) :
    AllFinite (source.processAll texts).feed.numbers ↔
      AllFinite source.feed.numbers ∧
        ∀ text ∈ texts, Dropped source.names source.table text.2 ∨
          source.names.SpellsFinite text.2 := by
  obtain ⟨parts, are⟩ := source.exists_partsOf texts
  rw [(gains_processAll are).allFinite_iff]
  apply and_congr_right
  intro _
  rw [PartsOf] at are
  induction are with
  | nil => simp
  | cons is _ step => rw [List.forall_mem_cons, List.forall_mem_cons, is.allFinite_iff, step]

end Source

end SwapFeed
