import SwapFeed.Proofs.Book.Basis
import SwapFeed.Proofs.Desk.Basic
import SwapFeed.Proofs.Rest.Funding
import SwapFeed.Proofs.Rest.Snapshot
import SwapFeed.Proofs.Stream.Numbers

/-!
# Where numbers come from

A book holds no numbers but those of the messages that it applied, and these come from the stream
and from replies.  On either road a number is read off one field.  The main statement says that
exactly those fields let in a number that is not finite which spell one as text.
-/

namespace SwapFeed

open SwapFeed.Json

/-! ## Books -/

/-- Prices and sizes are finite. -/
def FiniteLevels (levels : List Level) : Prop := ∀ level ∈ levels, AllFinite level.numbers

theorem finiteLevels_iff {levels : List Level} :
    AllFinite (levels.flatMap (·.numbers)) ↔ FiniteLevels levels :=
  allFinite_flatMap

namespace Side

variable {better : PriceOrder} {side : Side}

theorem finite_put {price size : Double} (finite : FiniteLevels side)
    (priceFinite : price.isFinite = true) (sizeFinite : size.isFinite = true) :
    FiniteLevels (put better price size side) := by
  intro level member
  rcases mem_put member with known | ⟨rfl, newOrOld⟩
  · exact finite level known
  · have here : level.price.isFinite = true := by
      rcases newOrOld with rfl | ⟨old, known, samePrice⟩
      · exact priceFinite
      · exact samePrice ▸ finite old known old.price List.mem_cons_self
    simp [AllFinite, Level.numbers, here, sizeFinite]

theorem finite_write (finite : FiniteLevels side) {row : Level}
    (rowFinite : AllFinite row.numbers) : FiniteLevels (write better side row) := by
  rw [write]
  split
  · exact fun level member => finite level (List.mem_filter.mp member).1
  · simp only [AllFinite, Level.numbers, List.forall_mem_cons] at rowFinite
    exact finite_put finite rowFinite.1 rowFinite.2.1

theorem finite_writeAll (finite : FiniteLevels side) {rows : List Level}
    (rowsFinite : FiniteLevels rows) : FiniteLevels (writeAll better side rows) := by
  induction rows generalizing side with
  | nil => exact finite
  | cons row rest step =>
      obtain ⟨here, later⟩ := List.forall_mem_cons.mp rowsFinite
      exact step (finite_write finite here) later

end Side

namespace Book

/-- The numbers on both sides of a book. -/
def numbers (book : Book) : List Double := (book.bids ++ book.asks).flatMap (·.numbers)

theorem finite_apply {book : Book} {message : BookMessage} (finite : AllFinite book.numbers)
    (messageFinite : AllFinite message.numbers) : AllFinite (book.apply message).numbers := by
  rw [numbers, finiteLevels_iff, FiniteLevels, List.forall_mem_append] at finite
  rw [BookMessage.numbers, finiteLevels_iff, FiniteLevels, List.forall_mem_append] at messageFinite
  obtain ⟨bids, asks⟩ := messageFinite
  rw [numbers, finiteLevels_iff, FiniteLevels, List.forall_mem_append, apply]
  split
  · split
    · exact ⟨Side.finite_writeAll (by simp [FiniteLevels]) bids,
        Side.finite_writeAll (by simp [FiniteLevels]) asks⟩
    · exact ⟨Side.finite_writeAll finite.1 bids, Side.finite_writeAll finite.2 asks⟩
  · exact finite

/-- A book makes up no numbers. -/
theorem finite_applyAll {book : Book} {messages : List BookMessage}
    (finite : AllFinite book.numbers)
    (messagesFinite : ∀ message ∈ messages, AllFinite message.numbers) :
    AllFinite (book.applyAll messages).numbers := by
  induction messages generalizing book with
  | nil => exact finite
  | cons message rest step =>
      obtain ⟨here, later⟩ := List.forall_mem_cons.mp messagesFinite
      exact step (finite_apply finite here) later

end Book

/-! ## Queries -/

def FundingInfo.numbers (info : FundingInfo) : List Double :=
  [info.indexPrice, info.markPrice, info.rate]

/-- A request is answered with a body that carries a row. -/
def Answerer.Brings (answer : Answerer) (request : Request) (row : Json) : Prop :=
  ∃ body, answer request = .ok body ∧ Reply.Carries body row

section Queries

variable {answer : Answerer} {request : Request} {row : Json}

theorem Answerer.Brings.inRange (brings : answer.Brings request row) : row.InRange := by
  rcases brings with ⟨body, -, carries⟩
  exact carries.inRange

/-- A row that is read off a good reply is one that its body carries. -/
theorem Answerer.Delivers.brings (delivers : answer.Delivers request row) :
    answer.Brings request row := by
  rcases delivers with ⟨body, reply, answered, grants, -, further, data, -⟩
  obtain ⟨members, parsed, rfl⟩ := grants.parsed
  exact ⟨body, answered, _, further, parsed, data⟩

/-- A book comes from the row of its reply. -/
theorem Source.snapshot_written {source : Source} {now : Int} {pair : String}
    {message : BookMessage}
    (fetched : (source.fetchSnapshot answer now pair).1.result = .ok message) :
    ∃ row, answer.Brings (source.context.bookRequest pair) row ∧
      List.Forall₂ WritesNumber row.bookFields message.numbers := by
  simp only [Source.fetchSnapshot] at fetched
  split at fetched
  · cases fetched
  · next book read =>
      cases fetched
      obtain ⟨row, delivers, stands⟩ := SnapshotRow.result_fetch_eq_ok_iff.mp read
      exact ⟨row, delivers.brings, bookFields_write stands.bids stands.asks⟩

theorem FundingInfo.written_of_fetch {context : QueryContext} {pair : String} {info : FundingInfo}
    (fetched : (FundingInfo.fetch context answer pair).result = .ok info) :
    ∃ index mark funding, answer.Brings (context.indexRequest pair) index ∧
      answer.Brings (context.markRequest pair) mark ∧
      answer.Brings (context.fundingRequest pair) funding ∧
      List.Forall₂ WritesNumber
        (index.member "idxPx" ++ mark.member "markPx" ++ funding.member "nextFundingRate")
        info.numbers := by
  have combined := FundingInfo.result_fetch_eq_ok_iff.mp fetched
  obtain ⟨index, indexDelivers, first⟩ := combined.index
  obtain ⟨mark, markDelivers, second⟩ := combined.mark
  obtain ⟨funding, fundingDelivers, -, third⟩ := combined.funding
  exact ⟨index, mark, funding, indexDelivers.brings, markDelivers.brings, fundingDelivers.brings,
    List.rel_append (List.rel_append first.member second.member) third.member⟩

theorem LastPrice.written_of_fetch {context : QueryContext} {pair : String} {price : Double}
    (fetched : (LastPrice.fetch context answer pair).result = .ok price) :
    ∃ row, answer.Brings (context.tickerRequest pair) row ∧
      List.Forall₂ WritesNumber (row.member "last") [price] := by
  simp only [LastPrice.fetch, LastPrice.ofBody, bind_eq_ok_iff, bodyOf_eq_ok_iff,
    Reply.ofBody_eq_ok_iff, Reply.firstRow_eq_ok_iff, Reply.field_eq_ok_iff,
    Reply.double_eq_ok_iff] at fetched
  rcases fetched with ⟨body, answered, reply, grants, row, leads, value, member, writes⟩
  have delivers : answer.Delivers (context.tickerRequest pair) row :=
    ⟨body, reply, answered, grants, leads⟩
  have last : row.Has "last" (WritesNumber · price) := ⟨value, member, writes⟩
  exact ⟨row, delivers.brings, last.member⟩

/-- Each of several prices is that of a reply for its own pair. -/
theorem LastPrice.written_of_fetchAll {context : QueryContext} {pairs : List String}
    {prices : List (String × Double)}
    (fetched : (LastPrice.fetchAll context answer pairs).result = .ok prices) :
    ∀ entry ∈ prices, ∃ row, answer.Brings (context.tickerRequest entry.1) row ∧
      List.Forall₂ WritesNumber (row.member "last") [entry.2] := by
  induction pairs generalizing prices with
  | nil =>
      cases fetched
      simp
  | cons pair rest step =>
      simp only [LastPrice.fetchAll] at fetched
      split at fetched
      · cases fetched
      · next price read =>
          obtain ⟨others, fetchedLater, same⟩ := map_eq_ok_iff.mp fetched
          have later := step fetchedLater
          split at same
          · exact same ▸ later
          · subst same
            exact List.forall_mem_cons.mpr ⟨LastPrice.written_of_fetch read, later⟩

end Queries

/-! ## Finite numbers -/

namespace Source

/-- The numbers that enter are finite exactly if no field spells one that is not.  This holds of a
text of the stream that is not dropped, and of the replies behind a book, a pair's funding
information and a last traded price.  Books of finite messages are finite. -/
theorem finite_iff_spelled_finite (source : Source) :
    (∀ texts, AllFinite (source.processAll texts).feed.numbers ↔
      AllFinite source.feed.numbers ∧
        ∀ text ∈ texts, Dropped source.names source.table text.2 ∨
          source.names.SpellsFinite text.2) ∧
    (∀ (answer : Answerer) now pair message,
      (source.fetchSnapshot answer now pair).1.result = .ok message →
        ∃ row, answer.Brings (source.context.bookRequest pair) row ∧
          (AllFinite message.numbers ↔ ∀ field ∈ row.bookFields, field.SpellsFinite)) ∧
    (∀ (answer : Answerer) pair info, (source.fetchFunding answer pair).result = .ok info →
      ∃ index mark funding, answer.Brings (source.context.indexRequest pair) index ∧
        answer.Brings (source.context.markRequest pair) mark ∧
        answer.Brings (source.context.fundingRequest pair) funding ∧
        (AllFinite info.numbers ↔
          ∀ field ∈ index.member "idxPx" ++ mark.member "markPx" ++
            funding.member "nextFundingRate", field.SpellsFinite)) ∧
    (∀ (answer : Answerer) pairs prices, (source.fetchPrices answer pairs).result = .ok prices →
      ∀ entry ∈ prices, ∃ row, answer.Brings (source.context.tickerRequest entry.1) row ∧
        (AllFinite [entry.2] ↔ ∀ field ∈ row.member "last", field.SpellsFinite)) ∧
    ∀ pair messages, (∀ message ∈ messages, AllFinite message.numbers) →
      AllFinite (({ pair } : Book).applyAll messages).numbers := by
  refine ⟨source.allFinite_processAll_iff, ?_, ?_, ?_, ?_⟩
  · intro answer now pair message fetched
    obtain ⟨row, brings, written⟩ := snapshot_written fetched
    exact ⟨row, brings, allFinite_iff written brings.inRange.bookFields⟩
  · intro answer pair info fetched
    obtain ⟨index, mark, funding, indexBrought, markBrought, fundingBrought, written⟩ :=
      FundingInfo.written_of_fetch fetched
    refine ⟨index, mark, funding, indexBrought, markBrought, fundingBrought,
      allFinite_iff written ?_⟩
    rw [List.forall_mem_append, List.forall_mem_append]
    exact ⟨⟨indexBrought.inRange.member, markBrought.inRange.member⟩,
      fundingBrought.inRange.member⟩
  · intro answer pairs prices fetched entry member
    obtain ⟨row, brings, written⟩ := LastPrice.written_of_fetchAll fetched entry member
    exact ⟨row, brings, allFinite_iff written brings.inRange.member⟩
  · intro pair messages finite
    exact Book.finite_applyAll (by simp [Book.numbers]) finite

/-- A price that spells no number at all passes for one. -/
theorem not_allFinite_nanPrice :
    ¬AllFinite (bitcoinSource.processAll
      [(0, Wire.update "BTC-USDT-SWAP" "1000" "[[\"nan\",\"1\"]]" "[]")]).feed.numbers := by
  decide +kernel

end Source

end SwapFeed
