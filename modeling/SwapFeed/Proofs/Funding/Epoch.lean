import SwapFeed.Proofs.Desk.Basic
import SwapFeed.Proofs.Rest.Funding
import SwapFeed.Proofs.Stream.Queues
import SwapFeed.Proofs.Text.Digits

/-!
# Funding times as counts

A funding time may be given as a count since the epoch, in seconds or in milliseconds, by its
digits or as an integer, in a delta of the stream or in a reply.  For instants between the years
1973 and 5138 no count of seconds can be taken for one of milliseconds, so all of these come to the
same second.
-/

namespace SwapFeed

open SwapFeed.Json SwapFeed.Text

/-- Instants whose seconds lie below, and whose milliseconds lie above, where counts change from the
one to the other. -/
def EpochRange (seconds : Int) : Prop := 10 ^ 8 ≤ seconds ∧ seconds < 10 ^ 11

/-- A count of seconds stands for an instant, and so does a count of milliseconds within its
second. -/
inductive EpochCount (seconds : Int) : Int → Prop where
  | seconds : EpochCount seconds seconds
  | millis {part : Int} (within : 0 ≤ part ∧ part < 1000) :
      EpochCount seconds (1000 * seconds + part)

/-- A value spells an instant by a count, in decimal digits or as an integer. -/
inductive Json.SpellsEpoch : Json → Int → Prop where
  | digits {text : String} {seconds : Int} (decimal : isDigits text.toList = true)
      (counts : EpochCount seconds (placeValue text.toList)) : SpellsEpoch (.text text) seconds
  | int {count seconds : Int} (counts : EpochCount seconds count) : SpellsEpoch (.int count) seconds

/-! ## Values -/

section Counts

variable {seconds count : Int}

namespace EpochCount

theorem epochSeconds_eq (counts : EpochCount seconds count) (range : EpochRange seconds) :
    epochSeconds count = seconds := by
  obtain ⟨early, late⟩ := range
  cases counts with
  | seconds =>
      rw [epochSeconds, epochMillisCutoff]
      exact if_neg (by omega)
  | millis within =>
      rw [epochSeconds, epochMillisCutoff, if_pos (by omega)]
      omega

theorem nonneg (counts : EpochCount seconds count) (range : EpochRange seconds) : 0 ≤ count := by
  obtain ⟨early, late⟩ := range
  cases counts with
  | seconds => omega
  | millis within => omega

theorem fitsInt64 (counts : EpochCount seconds count) (range : EpochRange seconds) :
    fitsInt64 count = true := by
  obtain ⟨early, late⟩ := range
  rw [Text.fitsInt64, decide_eq_true_eq]
  cases counts with
  | seconds => omega
  | millis within => omega

end EpochCount

/-- Digits are read as the instant whose count they write. -/
theorem readInstant_of_digits {text : String} (decimal : isDigits text.toList = true)
    (counts : EpochCount seconds (placeValue text.toList)) (range : EpochRange seconds) :
    readInstant text = .ok seconds := by
  simp only [readInstant, decimal, if_true, decimal_eq_placeValue, counts.fitsInt64 range,
    counts.epochSeconds_eq range]

namespace Json.SpellsEpoch

variable {value : Json}

/-- An integer is read by its digits. -/
theorem writesInstant (spells : value.SpellsEpoch seconds) (range : EpochRange seconds) :
    FundingUpdate.WritesInstant value seconds := by
  cases spells with
  | @digits text _ decimal counts =>
      exact ⟨text, .text text, readInstant_of_digits decimal counts range⟩
  | @int count _ counts =>
      obtain ⟨natural, rfl⟩ := Int.eq_ofNat_of_zero_le (counts.nonneg range)
      have notText : ∀ text, Json.int natural ≠ .text text := fun _ same => nomatch same
      refine ⟨toString natural, .number notText (.int (counts.fitsInt64 range)), ?_⟩
      apply readInstant_of_digits (isDigits_toString natural) _ range
      rwa [placeValue_toString]

theorem exists_writesInt64 (spells : value.SpellsEpoch seconds) (range : EpochRange seconds) :
    ∃ count, value.WritesInt64 count ∧ epochSeconds count = seconds := by
  cases spells with
  | @digits text _ decimal counts =>
      exact ⟨_, ⟨.text (integer?_of_isDigits decimal), counts.fitsInt64 range⟩,
        counts.epochSeconds_eq range⟩
  | int counts =>
      exact ⟨_, ⟨.int _, counts.fitsInt64 range⟩, counts.epochSeconds_eq range⟩

end Json.SpellsEpoch

end Counts

/-! ## Deltas and replies -/

/-- An entry spells the time of an update by a count, and writes its other fields. -/
structure FundingUpdate.DatedBy (pair : String) (entry : Json) (update : FundingUpdate) :
    Prop where
  pair : update.pair = pair
  indexPrice : entry.MayHave "index_price" WritesNumber update.indexPrice
  markPrice : entry.MayHave "mark_price" WritesNumber update.markPrice
  nextFunding : ∃ seconds, entry.Has "next_funding_time" (·.SpellsEpoch seconds) ∧
    EpochRange seconds ∧ update.nextFunding = some seconds
  rate : entry.MayHave "predicted_funding_rate_e6" WritesRate update.rate

theorem FundingUpdate.DatedBy.writtenBy {pair : String} {entry : Json} {update : FundingUpdate}
    (dated : update.DatedBy pair entry) : update.WrittenBy pair entry := by
  obtain ⟨pair, indexPrice, markPrice, ⟨seconds, ⟨value, member, spells⟩, range, next⟩, rate⟩ :=
    dated
  refine ⟨pair, indexPrice, markPrice, ?_, rate⟩
  rw [next]
  exact .present member (spells.writesInstant range)

/-- A reply spells the time of funding information by a count; with the other rows it writes the
other fields. -/
structure FundingInfo.DatedFrom (context : QueryContext) (answer : Answerer) (pair : String)
    (info : FundingInfo) : Prop where
  samePair : info.pair = pair
  index : ∃ row, answer.Delivers (context.indexRequest pair) row ∧
    row.Has "idxPx" (WritesNumber · info.indexPrice)
  mark : ∃ row, answer.Delivers (context.markRequest pair) row ∧
    row.Has "markPx" (WritesNumber · info.markPrice)
  funding : ∃ row, answer.Delivers (context.fundingRequest pair) row ∧
    row.Has "nextFundingTime" (·.SpellsEpoch info.nextFunding) ∧ EpochRange info.nextFunding ∧
    row.Has "nextFundingRate" (WritesNumber · info.rate)

theorem FundingInfo.DatedFrom.combinedFrom {context : QueryContext} {answer : Answerer}
    {pair : String} {info : FundingInfo} (dated : info.DatedFrom context answer pair) :
    info.CombinedFrom context answer pair := by
  obtain ⟨samePair, index, mark, row, delivers, ⟨value, member, spells⟩, range, rate⟩ := dated
  obtain ⟨count, writes, same⟩ := spells.exists_writesInt64 range
  exact ⟨samePair, index, mark, row, delivers, ⟨count, ⟨value, member, writes⟩, same.symm⟩, rate⟩

namespace Source

/-- However a time of the range is spelled as a count, both roads read it as its second.  A delta
adds an update with that second for each of its entries, and a query for funding information returns
it. -/
theorem epoch_spellings_agree (source : Source) :
    (∀ (value : Json) seconds, EpochRange seconds → value.SpellsEpoch seconds →
      (∀ field, FundingUpdate.instant value field = .ok seconds) ∧
        ∀ what, (Reply.integer what value).map epochSeconds = .ok seconds) ∧
    (∀ now raw message pair entries updates, Arrives source.names raw .funding message →
      message.getText? "type" = some "delta" →
      FundingUpdate.Announces source.table message pair entries →
      List.Forall₂ (fun entry (update : FundingUpdate) => update.DatedBy pair entry) entries
        updates →
      (source.process now raw).feed.funding.toList = source.feed.funding.toList ++ updates) ∧
    ∀ answer pair info, info.DatedFrom source.context answer pair →
      (source.fetchFunding answer pair).result = .ok info := by
  refine ⟨?_, ?_, ?_⟩
  · intro value seconds range spells
    constructor
    · intro field
      exact FundingUpdate.instant_eq_ok_iff.mpr (spells.writesInstant range)
    · intro what
      obtain ⟨count, writes, same⟩ := spells.exists_writesInt64 range
      exact map_eq_ok_iff.mpr ⟨count, Reply.integer_eq_ok_iff.mpr writes, same⟩
  · intro now raw message pair entries updates arrives delta announces dated
    have written := dated.imp fun _ _ dated => dated.writtenBy
    exact funding_process_of_written arrives delta announces written now
  · intro answer pair info dated
    exact FundingInfo.result_fetch_eq_ok_iff.mpr dated.combinedFrom

/-- The four spellings of an instant of the year 2024, with a second that has nearly passed. -/
def spellingsOf2024 : List Json :=
  [.text "1709280000", .text "1709280000999", .int 1709280000, .int 1709280000999]

/-- A delta with an entry for two of them. -/
def deltaOf2024 : String :=
  "\x7b\"topic\":\"instruments.BTC-USDT-SWAP\",\"type\":\"delta\",\"data\":\x7b\"update\":[" ++
    "\x7b\"next_funding_time\":\"1709280000999\"\x7d," ++
    "\x7b\"next_funding_time\":1709280000\x7d]\x7d\x7d"

theorem epoch_spellings_agree_2024 :
    (∀ value ∈ spellingsOf2024,
      FundingUpdate.instant value "next_funding_time" = .ok 1709280000 ∧
        (Reply.integer "nextFundingTime" value).map epochSeconds = .ok 1709280000) ∧
      (bitcoinSource.process 0 deltaOf2024).feed.funding.toList =
        List.replicate 2 { pair := "BTC-USDT", nextFunding := some 1709280000 } := by
  have range : EpochRange 1709280000 := ⟨by decide, by decide⟩
  have whole : EpochCount 1709280000 1709280000 := .seconds
  have within : EpochCount 1709280000 (1000 * 1709280000 + 999) := .millis (by decide)
  refine ⟨?_, by decide +kernel⟩
  intro value listed
  have spells : value.SpellsEpoch 1709280000 := by
    simp only [spellingsOf2024, List.mem_cons, List.not_mem_nil, or_false] at listed
    rcases listed with rfl | rfl | rfl | rfl
    · exact .digits (by decide) whole
    · exact .digits (by decide) within
    · exact .int whole
    · exact .int within
  obtain ⟨stream, reply⟩ := (epoch_spellings_agree bitcoinSource).1 value _ range spells
  exact ⟨stream _, reply _⟩

end Source

end SwapFeed
