import SwapFeed.Proofs.Funding.Desk

/-!
# What a funding state shows

A funding state has four fields, and sparse updates set some of them.  Each field shows what the
latest news say that carry it: full information of the pair, or an entry of a delta about the pair
that has the key of the field.  A field that no news carry is zero.  The main statement says so for
all runs of a source with a funding state.
-/

namespace SwapFeed

open SwapFeed.Json

/-! ## Fields -/

/-- A field of funding information: under which key an entry carries it, how it is written there,
and what it is before anything is known. -/
structure FundingField (α : Type) where
  key : String
  writes : Json → α → Prop
  ofInfo : FundingInfo → α
  unset : α

namespace FundingField

def indexPrice : FundingField Double := ⟨"index_price", WritesNumber, (·.indexPrice), .zero⟩

def markPrice : FundingField Double := ⟨"mark_price", WritesNumber, (·.markPrice), .zero⟩

def nextFunding : FundingField Int :=
  ⟨"next_funding_time", FundingUpdate.WritesInstant, (·.nextFunding), 0⟩

def rate : FundingField Double :=
  ⟨"predicted_funding_rate_e6", FundingUpdate.WritesRate, (·.rate), .zero⟩

variable {α : Type} (field : FundingField α) (pair : String)

/-- News of a pair carry a field. -/
inductive Carries : FundingNews → Prop where
  | full {info : FundingInfo} (samePair : info.pair = pair) : Carries (.full info)
  | entry {entry value : Json} (member : entry.get? field.key = some value) :
      Carries (.entry pair entry)

/-- News of a pair carry a field and give it a value. -/
inductive Sets : FundingNews → α → Prop where
  | full {info : FundingInfo} (samePair : info.pair = pair) : Sets (.full info) (field.ofInfo info)
  | entry {entry value : Json} {found : α} (member : entry.get? field.key = some value)
      (written : field.writes value found) : Sets (.entry pair entry) found

/-- The value that the latest news give a field. -/
inductive Latest (reached : List FundingNews) : α → Prop where
  | set {before after : List FundingNews} {news : FundingNews} {value : α}
      (split : reached = before ++ news :: after) (sets : field.Sets pair news value)
      (last : ∀ later ∈ after, ¬field.Carries pair later) : Latest reached value
  | unset (silent : ∀ news ∈ reached, ¬field.Carries pair news) : Latest reached field.unset

/-- Updates carry over a field: they have it just if the entry that they come from has it, and a
state takes it from them just if they have it. -/
structure CarriedBy (ofUpdate : FundingUpdate → Option α) : Prop where
  written : ∀ {pair : String} {entry : Json} {update : FundingUpdate},
    update.WrittenBy pair entry → entry.MayHave field.key field.writes (ofUpdate update)
  patched : ∀ {state : FundingState} {update : FundingUpdate}, update.pair = state.info.pair →
    field.ofInfo (state.patch update).info = (ofUpdate update).getD (field.ofInfo state.info)

theorem indexPrice_carriedBy : indexPrice.CarriedBy (·.indexPrice) where
  written written := written.indexPrice
  patched samePair := by simp [indexPrice, FundingState.patch, samePair]

theorem markPrice_carriedBy : markPrice.CarriedBy (·.markPrice) where
  written written := written.markPrice
  patched samePair := by simp [markPrice, FundingState.patch, samePair]

theorem nextFunding_carriedBy : nextFunding.CarriedBy (·.nextFunding) where
  written written := written.nextFunding
  patched samePair := by simp [nextFunding, FundingState.patch, samePair]

theorem rate_carriedBy : rate.CarriedBy (·.rate) where
  written written := written.rate
  patched samePair := by simp [rate, FundingState.patch, samePair]

/-! ## One more piece of news -/

namespace Latest

variable {field pair} {reached : List FundingNews} {value : α}

/-- Before anything is known. -/
theorem nil : field.Latest pair [] field.unset :=
  .unset fun _ member => (List.not_mem_nil member).elim

/-- News that do not carry the field leave it alone. -/
theorem keep (latest : field.Latest pair reached value) {news : FundingNews}
    (silent : ¬field.Carries pair news) : field.Latest pair (reached ++ [news]) value := by
  cases latest with
  | @set before after setting _ split sets last =>
      have longer : reached ++ [news] = before ++ setting :: (after ++ [news]) := by
        rw [split, List.append_assoc, List.cons_append]
      exact .set longer sets
        (List.forall_mem_append.mpr ⟨last, List.forall_mem_singleton.mpr silent⟩)
  | unset silentBefore =>
      exact .unset (List.forall_mem_append.mpr
        ⟨silentBefore, List.forall_mem_singleton.mpr silent⟩)

/-- News that set the field are the latest. -/
theorem of_sets {news : FundingNews} (sets : field.Sets pair news value) :
    field.Latest pair (reached ++ [news]) value :=
  .set rfl sets fun _ member => (List.not_mem_nil member).elim

variable {state : FundingState} (samePair : state.info.pair = pair)
  (latest : field.Latest pair reached (field.ofInfo state.info))
include samePair latest

theorem seed (full : FundingInfo) :
    field.Latest pair (reached ++ [.full full]) (field.ofInfo (state.seed full).info) := by
  rw [FundingState.seed]
  split
  · next same => exact of_sets (.full (same.trans samePair))
  · next other =>
      refine latest.keep fun carries => ?_
      cases carries with
      | full same => exact other (same.trans samePair.symm)

theorem patch {ofUpdate : FundingUpdate → Option α} (carried : field.CarriedBy ofUpdate)
    {news : FundingNews} {update : FundingUpdate} (tells : news.Tells update) :
    field.Latest pair (reached ++ [news]) (field.ofInfo (state.patch update).info) := by
  cases tells with
  | @entry owner entry update written =>
      by_cases own : owner = pair
      · subst own
        have samePairs : update.pair = state.info.pair := written.pair.trans samePair.symm
        rw [carried.patched samePairs]
        cases setting : ofUpdate update with
        | none =>
            refine latest.keep fun carries => ?_
            have may := carried.written written
            rw [setting] at may
            cases may with
            | absent missing =>
                cases carries with
                | entry member => cases missing.symm.trans member
        | some value =>
            have may := carried.written written
            rw [setting] at may
            cases may with
            | present member written => exact of_sets (.entry member written)
      · have otherPair : update.pair ≠ state.info.pair := by
          rw [written.pair, samePair]
          exact own
        have unchanged : state.patch update = state := if_neg otherPair
        rw [unchanged]
        refine latest.keep fun carries => ?_
        cases carries with
        | entry => exact own rfl

end Latest

end FundingField

/-! ## States -/

namespace FundingState

/-- A state of a pair shows the latest news of each field, and is seeded just if full information of
the pair has reached it. -/
structure Shows (pair : String) (reached : List FundingNews) (state : FundingState) : Prop where
  samePair : state.info.pair = pair
  indexPrice : FundingField.indexPrice.Latest pair reached state.info.indexPrice
  markPrice : FundingField.markPrice.Latest pair reached state.info.markPrice
  nextFunding : FundingField.nextFunding.Latest pair reached state.info.nextFunding
  rate : FundingField.rate.Latest pair reached state.info.rate
  seeded : state.seeded = true ↔ ∃ full : FundingInfo, .full full ∈ reached ∧ full.pair = pair

variable {pair : String} {reached : List FundingNews} {state : FundingState}

theorem shows_ofPair (pair : String) : (ofPair pair).Shows pair [] where
  samePair := rfl
  indexPrice := .nil
  markPrice := .nil
  nextFunding := .nil
  rate := .nil
  seeded := by simp [ofPair]

theorem Shows.seed (shown : state.Shows pair reached) (full : FundingInfo) :
    (state.seed full).Shows pair (reached ++ [.full full]) where
  samePair := by rw [pair_seed, shown.samePair]
  indexPrice := FundingField.Latest.seed shown.samePair shown.indexPrice full
  markPrice := FundingField.Latest.seed shown.samePair shown.markPrice full
  nextFunding := FundingField.Latest.seed shown.samePair shown.nextFunding full
  rate := FundingField.Latest.seed shown.samePair shown.rate full
  seeded := by
    rw [FundingState.seed, shown.samePair]
    split
    · next same => exact iff_of_true rfl ⟨full, by simp, same⟩
    · next other =>
        rw [shown.seeded]
        constructor
        · rintro ⟨known, member, same⟩
          exact ⟨known, List.mem_append_left _ member, same⟩
        · rintro ⟨known, member, same⟩
          rcases List.mem_append.mp member with early | last
          · exact ⟨known, early, same⟩
          · cases List.mem_singleton.mp last
            exact (other same).elim

theorem Shows.patch (shown : state.Shows pair reached) {news : FundingNews}
    {update : FundingUpdate} (tells : news.Tells update) :
    (state.patch update).Shows pair (reached ++ [news]) where
  samePair := by rw [pair_patch, shown.samePair]
  indexPrice := .patch shown.samePair shown.indexPrice FundingField.indexPrice_carriedBy tells
  markPrice := .patch shown.samePair shown.markPrice FundingField.markPrice_carriedBy tells
  nextFunding := .patch shown.samePair shown.nextFunding FundingField.nextFunding_carriedBy tells
  rate := .patch shown.samePair shown.rate FundingField.rate_carriedBy tells
  seeded := by
    cases tells with
    | entry => simp [shown.seeded]

/-- Updates reach a state one after the other. -/
theorem Shows.patchAll (shown : state.Shows pair reached) {waiting : List FundingNews}
    {updates : List FundingUpdate} (tell : List.Forall₂ FundingNews.Tells waiting updates) :
    (updates.foldl FundingState.patch state).Shows pair (reached ++ waiting) := by
  induction tell generalizing state reached with
  | nil => simpa using shown
  | @cons news update _ _ tells _ step =>
      have after := step (shown.patch tells)
      rwa [List.append_assoc, List.singleton_append] at after

end FundingState

/-! ## Runs -/

namespace FundingDesk

/-- What holds of a desk after steps with a history: the updates that wait say what the entries
that wait say, and the state shows what has reached it. -/
structure Keeps (source : Source) (pair : String) (waiting reached : List FundingNews)
    (desk : FundingDesk) : Prop where
  serves : desk.source = { source with feed := desk.source.feed }
  queue : List.Forall₂ FundingNews.Tells waiting desk.waiting
  state : desk.state.Shows pair reached

variable {source : Source} {pair : String} {waiting reached : List FundingNews}
  {desk : FundingDesk}

theorem keeps_opening (source : Source) (pair : String) :
    (opening source pair).Keeps source pair [] [] where
  serves := rfl
  queue := .nil
  state := FundingState.shows_ofPair pair

namespace Keeps

theorem seed (keeps : desk.Keeps source pair waiting reached) (full : FundingInfo) :
    (desk.step (.seed full)).Keeps source pair waiting (reached ++ [.full full]) where
  serves := keeps.serves
  queue := keeps.queue
  state := keeps.state.seed full

theorem serves_receive (keeps : desk.Keeps source pair waiting reached) (now : Int)
    (raw : String) :
    (desk.source.process now raw) =
      { source with feed := (desk.source.process now raw).feed } := by
  have serves := keeps.serves
  simp only [Source.process]
  rw [serves]

theorem delta (keeps : desk.Keeps source pair waiting reached) (now : Int) {raw owner : String}
    {entries : List Json} (reports : source.Reports raw owner entries) :
    (desk.step (.receive now raw)).Keeps source pair
      (waiting ++ FundingNews.ofDelta owner entries) reached := by
  have own := (Source.reports_iff_of_eq keeps.serves).mpr reports
  obtain ⟨updates, queue, tell⟩ := Source.funding_process_of_reports own now
  refine ⟨keeps.serves_receive now raw, ?_, keeps.state⟩
  have added : (desk.step (.receive now raw)).waiting = desk.waiting ++ updates := queue
  rw [added]
  exact List.rel_append keeps.queue tell

theorem silent (keeps : desk.Keeps source pair waiting reached) (now : Int) {raw : String}
    (silent : ∀ owner entries, ¬source.Reports raw owner entries) :
    (desk.step (.receive now raw)).Keeps source pair waiting reached := by
  have own : ∀ owner entries, ¬desk.source.Reports raw owner entries := by
    intro owner entries reports
    exact silent owner entries ((Source.reports_iff_of_eq keeps.serves).mp reports)
  refine ⟨keeps.serves_receive now raw, ?_, keeps.state⟩
  have unchanged : (desk.step (.receive now raw)).waiting = desk.waiting :=
    Source.funding_process_of_silent own now
  rw [unchanged]
  exact keeps.queue

theorem idle (keeps : desk.Keeps source pair [] reached) :
    (desk.step .take).Keeps source pair [] reached := by
  have empty : desk.waiting = [] := List.forall₂_nil_left_iff.mp keeps.queue
  have unchanged : desk.step .take = desk := take_of_waiting_nil empty
  rwa [unchanged]

theorem take {oldest : FundingNews} (keeps : desk.Keeps source pair (oldest :: waiting) reached) :
    (desk.step .take).Keeps source pair waiting (reached ++ [oldest]) := by
  obtain ⟨update, others, tells, tell, queue⟩ := List.forall₂_cons_left_iff.mp keeps.queue
  obtain ⟨left, patched, same⟩ := take_of_waiting_cons queue
  constructor
  · have serves := keeps.serves
    rw [step, same, serves]
  · rw [step, left]
    exact tell
  · rw [step, patched]
    exact keeps.state.patch tells

theorem drain (keeps : desk.Keeps source pair waiting reached) :
    (desk.step .drain).Keeps source pair [] (reached ++ waiting) := by
  constructor
  · have serves := keeps.serves
    simp only [step, FundingDesk.drain, withWaiting]
    rw [serves]
  · rw [step, waiting_drain]
    exact .nil
  · rw [step, state_drain]
    exact keeps.state.patchAll keeps.queue

end Keeps

/-- By induction on the history. -/
theorem keeps_run {steps : List FundingStep}
    (history : FundingHistory source steps waiting reached) :
    ((opening source pair).run steps).Keeps source pair waiting reached := by
  induction history with
  | opening => exact keeps_opening source pair
  | seed full _ inductionStep =>
      rw [run_append_singleton]
      exact inductionStep.seed full
  | @delta _ _ _ now _ _ _ _ reports inductionStep =>
      rw [run_append_singleton]
      exact inductionStep.delta now reports
  | @silent _ _ _ now _ _ silent inductionStep =>
      rw [run_append_singleton]
      exact inductionStep.silent now silent
  | idle _ inductionStep =>
      rw [run_append_singleton]
      exact inductionStep.idle
  | take _ inductionStep =>
      rw [run_append_singleton]
      exact inductionStep.take
  | drain _ inductionStep =>
      rw [run_append_singleton]
      exact inductionStep.drain

end FundingDesk

end SwapFeed
