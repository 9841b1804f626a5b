import SwapFeed.Proofs.Funding.Desk
import SwapFeed.Proofs.Rest.Faults

/-!
# Funding information from three replies

A query for funding information makes three requests and reads one reply each.  A part has a fault
at the stage where it stops when it is looked at alone: its request, its body, its first row, or the
fields of that row.  The query itself goes stage by stage through all three parts, and the main
statement says that it gives the fields of all three together, or else the error of the part that
stops first in the order of stages.
-/

namespace SwapFeed

/-! ## The first gate that is closed -/

section First

variable {γ ε α β δ : Type}

/-- The error of the first closed gate; all gates in front of it are open. -/
def FirstClosed (closed : γ → ε → Prop) (gates : List γ) (error : ε) : Prop :=
  ∃ before gate after, gates = before ++ gate :: after ∧ closed gate error ∧
    ∀ earlier ∈ before, ∀ other, ¬closed earlier other

namespace FirstClosed

variable {closed : γ → ε → Prop} {gate : γ} {rest : List γ} {error : ε}

theorem cons_iff : FirstClosed closed (gate :: rest) error ↔
    closed gate error ∨ (∀ other, ¬closed gate other) ∧ FirstClosed closed rest error := by
  constructor
  · intro first
    rcases first with ⟨before, found, after, split, here, passed⟩
    cases before with
    | nil =>
        cases split
        exact .inl here
    | cons passedFirst others =>
        cases split
        obtain ⟨passedHere, passedLater⟩ := List.forall_mem_cons.mp passed
        exact .inr ⟨passedHere, others, found, after, rfl, here, passedLater⟩
  · intro first
    rcases first with here | ⟨passedHere, before, found, after, rfl, here, passed⟩
    · exact ⟨[], gate, rest, rfl, here, by simp⟩
    · exact ⟨gate :: before, found, after, rfl, here,
        List.forall_mem_cons.mpr ⟨passedHere, passed⟩⟩

theorem singleton_iff : FirstClosed closed [gate] error ↔ closed gate error := by
  rw [cons_iff]
  constructor
  · rintro (here | ⟨-, before, found, after, split, -⟩)
    · exact here
    · simp at split
  · exact .inl

theorem exists_mem {gates : List γ} (first : FirstClosed closed gates error) :
    ∃ gate ∈ gates, closed gate error := by
  rcases first with ⟨before, gate, after, rfl, here, -⟩
  exact ⟨gate, by simp, here⟩

/-- What comes behind a closed gate does not matter. -/
theorem append {front : List γ} (first : FirstClosed closed front error) (behind : List γ) :
    FirstClosed closed (front ++ behind) error := by
  rcases first with ⟨before, gate, after, rfl, here, passed⟩
  exact ⟨before, gate, after ++ behind, by simp, here, passed⟩

/-- If a gate is closed at all, one is the first. -/
theorem exists_of_mem {gates : List γ} (member : gate ∈ gates) (shut : closed gate error) :
    ∃ firstError, FirstClosed closed gates firstError := by
  induction gates with
  | nil => cases member
  | cons head others step =>
      by_cases here : ∃ headError, closed head headError
      · obtain ⟨headError, here⟩ := here
        exact ⟨headError, cons_iff.mpr (.inl here)⟩
      · rcases List.mem_cons.mp member with rfl | later
        · exact (here ⟨error, shut⟩).elim
        · obtain ⟨firstError, first⟩ := step later
          exact ⟨firstError, cons_iff.mpr (.inr ⟨fun other shut => here ⟨other, shut⟩, first⟩)⟩

/-- A check that fails just if its gate is closed, in front of checks for the other gates. -/
theorem bind_iff {check : Except ε α} {next : α → Except ε β}
    (here : ∀ error, check = .error error ↔ closed gate error)
    (later : ∀ value, check = .ok value →
      ∀ error, next value = .error error ↔ FirstClosed closed rest error) (error : ε) :
    (check >>= next) = .error error ↔ FirstClosed closed (gate :: rest) error := by
  rw [bind_eq_error_iff, cons_iff, here]
  refine or_congr_right ?_
  cases outcome : check with
  | error reason =>
      have shut : closed gate reason := (here reason).mp outcome
      refine iff_of_false ?_ fun passed => passed.1 reason shut
      rintro ⟨value, impossible, -⟩
      cases impossible
  | ok value =>
      constructor
      · rintro ⟨_, ⟨⟩, failed⟩
        refine ⟨fun other shut => ?_, (later value outcome error).mp failed⟩
        cases outcome.symm.trans ((here other).mpr shut)
      · rintro ⟨-, first⟩
        exact ⟨value, rfl, (later value outcome error).mpr first⟩

/-- The same for a check that finds a value and reads it. -/
theorem read_iff {find : Except ε α} {read : α → Except ε β} {next : β → Except ε δ}
    (here : ∀ error, (find >>= read) = .error error ↔ closed gate error)
    (later : ∀ value, (find >>= read) = .ok value →
      ∀ error, next value = .error error ↔ FirstClosed closed rest error) (error : ε) :
    (find >>= fun found => read found >>= next) = .error error ↔
      FirstClosed closed (gate :: rest) error := by
  rw [← bind_assoc]
  exact bind_iff here later error

end FirstClosed

end First

/-! ## Parts and stages -/

/-- How far a reply has to come. -/
inductive ReplyStage where
  | request
  | body
  | row
  | fields
  deriving DecidableEq, Repr

/-- The parts of funding information. -/
inductive FundingPart where
  | index
  | mark
  | funding
  deriving DecidableEq, Repr

namespace FundingPart

open Reply

def request (context : QueryContext) (pair : String) : FundingPart → Request
  | index => context.indexRequest pair
  | mark => context.markRequest pair
  | funding => context.fundingRequest pair

/-- The name under which errors speak of the query. -/
def subject (pair : String) : String := "funding info " ++ pair

/-- The name under which errors speak of the reply of a part. -/
def replySubject (pair : String) : FundingPart → String
  | index => subject pair ++ " (index)"
  | mark => subject pair ++ " (mark)"
  | funding => subject pair ++ " (funding)"

/-- What is wrong with the fields of a part's row.  The rate is looked at after the time. -/
inductive BadFields (pair : String) (row : Json) : FundingPart → QueryError → Prop where
  | index {error : QueryError}
      (bad : BadField (subject pair) row "idxPx" (BadNumber (subject pair ++ " idxPx")) error) :
      BadFields pair row .index error
  | mark {error : QueryError}
      (bad : BadField (subject pair) row "markPx" (BadNumber (subject pair ++ " markPx")) error) :
      BadFields pair row .mark error
  | time {error : QueryError}
      (bad : BadField (subject pair) row "nextFundingTime"
        (BadInteger (subject pair ++ " nextFundingTime")) error) :
      BadFields pair row .funding error
  | rate {next : Int} {error : QueryError} (timed : row.Has "nextFundingTime" (·.WritesInt64 next))
      (bad : BadField (subject pair) row "nextFundingRate"
        (BadNumber (subject pair ++ " nextFundingRate")) error) :
      BadFields pair row .funding error

section Faults

variable (context : QueryContext) (answer : Answerer) (pair : String)

/-- A part that is looked at alone stops at a stage with an error. -/
inductive Fault : ReplyStage × FundingPart → QueryError → Prop where
  | request {part : FundingPart} {reason : String}
      (failed : answer (part.request context pair) = .error reason) :
      Fault (.request, part) (.transport reason)
  | body {part : FundingPart} {body : String} {error : QueryError}
      (answered : answer (part.request context pair) = .ok body)
      (spoils : Spoils (part.replySubject pair) body error) : Fault (.body, part) error
  | row {part : FundingPart} {body : String} {reply : Json}
      (answered : answer (part.request context pair) = .ok body) (grants : Grants body reply)
      (rowless : ∀ row, ¬Leads reply row) :
      Fault (.row, part) (.noRow (part.replySubject pair))
  | fields {part : FundingPart} {row : Json} {error : QueryError}
      (delivers : answer.Delivers (part.request context pair) row)
      (bad : BadFields pair row part error) : Fault (.fields, part) error

/-- The parts at a stage, in the order in which they are looked at. -/
def atStage (stage : ReplyStage) : List (ReplyStage × FundingPart) :=
  [(stage, .index), (stage, .mark), (stage, .funding)]

/-- All parts at one stage come before any part at the next. -/
def order : List (ReplyStage × FundingPart) :=
  [.request, .body, .row, .fields].flatMap atStage

theorem mem_atStage (stage : ReplyStage) (part : FundingPart) : (stage, part) ∈ atStage stage := by
  cases part <;> simp [atStage]

theorem stage_of_mem_atStage {stage : ReplyStage} {gate : ReplyStage × FundingPart}
    (member : gate ∈ atStage stage) : gate.1 = stage := by
  simp only [atStage, List.mem_cons, List.not_mem_nil, or_false] at member
  rcases member with rfl | rfl | rfl <;> rfl

theorem mem_order (stage : ReplyStage) (part : FundingPart) : (stage, part) ∈ order := by
  refine List.mem_flatMap.mpr ⟨stage, ?_, mem_atStage stage part⟩
  cases stage <;> simp

variable {context answer pair} (part : FundingPart) {body : String} {reply row : Json}
  {error : QueryError}

theorem bodyOf_fault :
    bodyOf (answer (part.request context pair)) = .error error ↔
      Fault context answer pair (.request, part) error := by
  rw [bodyOf_eq_error_iff]
  constructor
  · rintro ⟨reason, failed, rfl⟩
    exact .request failed
  · intro fault
    cases fault with
    | request failed => exact ⟨_, failed, rfl⟩

theorem ofBody_fault (answered : bodyOf (answer (part.request context pair)) = .ok body) :
    ofBody (part.replySubject pair) body = .error error ↔
      Fault context answer pair (.body, part) error := by
  rw [ofBody_eq_error_iff]
  rw [bodyOf_eq_ok_iff] at answered
  constructor
  · exact .body answered
  · intro fault
    cases fault with
    | body again spoils =>
        cases answered.symm.trans again
        exact spoils

theorem firstRow_fault (answered : bodyOf (answer (part.request context pair)) = .ok body)
    (opened : ofBody (part.replySubject pair) body = .ok reply) :
    firstRow (part.replySubject pair) reply = .error error ↔
      Fault context answer pair (.row, part) error := by
  rw [firstRow_eq_error_iff]
  rw [bodyOf_eq_ok_iff] at answered
  rw [ofBody_eq_ok_iff] at opened
  constructor
  · rintro ⟨rfl, rowless⟩
    exact .row answered opened rowless
  · intro fault
    cases fault with
    | row again grants rowless =>
        cases answered.symm.trans again
        cases opened.unique grants
        exact ⟨rfl, rowless⟩

theorem badFields_fault (answered : bodyOf (answer (part.request context pair)) = .ok body)
    (opened : ofBody (part.replySubject pair) body = .ok reply)
    (found : firstRow (part.replySubject pair) reply = .ok row) :
    BadFields pair row part error ↔ Fault context answer pair (.fields, part) error := by
  rw [bodyOf_eq_ok_iff] at answered
  rw [ofBody_eq_ok_iff] at opened
  rw [firstRow_eq_ok_iff] at found
  constructor
  · exact .fields ⟨body, reply, answered, opened, found⟩
  · intro fault
    cases fault with
    | fields delivers bad =>
        rcases delivers with ⟨_, _, again, grants, leads⟩
        cases answered.symm.trans again
        cases opened.unique grants
        cases found.unique leads
        exact bad

end Faults

end FundingPart

namespace FundingInfo

open Reply FundingPart SwapFeed.Json

variable {context : QueryContext} {answer : Answerer} {pair : String}

/-- Funding information has the fields of three rows, one of each part. -/
structure CombinedFrom (context : QueryContext) (answer : Answerer) (pair : String)
    (info : FundingInfo) : Prop where
  samePair : info.pair = pair
  index : ∃ row, answer.Delivers (context.indexRequest pair) row ∧
    row.Has "idxPx" (WritesNumber · info.indexPrice)
  mark : ∃ row, answer.Delivers (context.markRequest pair) row ∧
    row.Has "markPx" (WritesNumber · info.markPrice)
  funding : ∃ row, answer.Delivers (context.fundingRequest pair) row ∧
    (∃ next, row.Has "nextFundingTime" (·.WritesInt64 next) ∧
      info.nextFunding = epochSeconds next) ∧
    row.Has "nextFundingRate" (WritesNumber · info.rate)

theorem result_fetch_eq_ok_iff {info : FundingInfo} :
    (fetch context answer pair).result = .ok info ↔ info.CombinedFrom context answer pair := by
  simp only [fetch, ofBodies, bind_eq_ok_iff, bodyOf_eq_ok_iff, ofBody_eq_ok_iff,
    firstRow_eq_ok_iff, field_eq_ok_iff, double_eq_ok_iff, integer_eq_ok_iff]
  constructor
  · intro fetched
    rcases fetched with ⟨indexBody, indexAnswered, markBody, markAnswered, fundingBody,
      fundingAnswered, indexReply, indexGrants, markReply, markGrants, fundingReply,
      fundingGrants, index, indexLeads, mark, markLeads, funding, fundingLeads, indexValue,
      indexMember, indexPrice, indexWrites, markValue, markMember, markPrice, markWrites,
      nextValue, nextMember, next, nextWrites, rateValue, rateMember, rate, rateWrites, built⟩
    cases built
    constructor
    · rfl
    · exact ⟨index, ⟨indexBody, indexReply, indexAnswered, indexGrants, indexLeads⟩,
        indexValue, indexMember, indexWrites⟩
    · exact ⟨mark, ⟨markBody, markReply, markAnswered, markGrants, markLeads⟩,
        markValue, markMember, markWrites⟩
    · exact ⟨funding, ⟨fundingBody, fundingReply, fundingAnswered, fundingGrants, fundingLeads⟩,
        ⟨next, ⟨nextValue, nextMember, nextWrites⟩, rfl⟩, rateValue, rateMember, rateWrites⟩
  · intro combined
    obtain ⟨samePair, ⟨index, indexDelivers, indexValue, indexMember, indexWrites⟩,
      ⟨mark, markDelivers, markValue, markMember, markWrites⟩,
      ⟨funding, fundingDelivers, ⟨next, ⟨nextValue, nextMember, nextWrites⟩, sameNext⟩,
        rateValue, rateMember, rateWrites⟩⟩ := combined
    rcases indexDelivers with ⟨indexBody, indexReply, indexAnswered, indexGrants, indexLeads⟩
    rcases markDelivers with ⟨markBody, markReply, markAnswered, markGrants, markLeads⟩
    rcases fundingDelivers with
      ⟨fundingBody, fundingReply, fundingAnswered, fundingGrants, fundingLeads⟩
    refine ⟨indexBody, indexAnswered, markBody, markAnswered, fundingBody, fundingAnswered,
      indexReply, indexGrants, markReply, markGrants, fundingReply, fundingGrants, index,
      indexLeads, mark, markLeads, funding, fundingLeads, indexValue, indexMember, _, indexWrites,
      markValue, markMember, _, markWrites, nextValue, nextMember, next, nextWrites, rateValue,
      rateMember, _, rateWrites, ?_⟩
    rw [← samePair, ← sameNext]
    rfl

theorem index_fields_eq_error_iff {row : Json} {error : QueryError} :
    (field (subject pair) row "idxPx" >>= double (subject pair ++ " idxPx")) = .error error ↔
      BadFields pair row .index error := by
  rw [read_eq_error_iff fun _ => double_eq_error_iff]
  exact ⟨.index, fun | .index bad => bad⟩

theorem mark_fields_eq_error_iff {row : Json} {error : QueryError} :
    (field (subject pair) row "markPx" >>= double (subject pair ++ " markPx")) = .error error ↔
      BadFields pair row .mark error := by
  rw [read_eq_error_iff fun _ => double_eq_error_iff]
  exact ⟨.mark, fun | .mark bad => bad⟩

/-- The rate is read once the time is. -/
theorem funding_fields_eq_error_iff {α : Type} {row : Json} {error : QueryError}
    {build : Int → Double → α} :
    (do
      let next ← integer (subject pair ++ " nextFundingTime")
        (← field (subject pair) row "nextFundingTime")
      let rate ← double (subject pair ++ " nextFundingRate")
        (← field (subject pair) row "nextFundingRate")
      return build next rate) = Except.error error ↔ BadFields pair row .funding error := by
  have timed_iff : ∀ next, (field (subject pair) row "nextFundingTime" >>=
      integer (subject pair ++ " nextFundingTime")) = .ok next ↔
        row.Has "nextFundingTime" (·.WritesInt64 next) :=
    fun _ => read_eq_ok_iff fun _ => integer_eq_ok_iff
  have rate_iff : ∀ next, (do
      let rate ← double (subject pair ++ " nextFundingRate")
        (← field (subject pair) row "nextFundingRate")
      return build next rate) = Except.error error ↔
        BadField (subject pair) row "nextFundingRate"
          (BadNumber (subject pair ++ " nextFundingRate")) error := by
    intro next
    rw [← bind_assoc, bind_eq_error_iff, read_eq_error_iff fun _ => double_eq_error_iff]
    constructor
    · rintro (bad | ⟨rate, -, ⟨⟩⟩)
      exact bad
    · exact .inl
  rw [← bind_assoc, bind_eq_error_iff, read_eq_error_iff fun _ => integer_eq_error_iff]
  simp only [timed_iff, rate_iff]
  constructor
  · rintro (bad | ⟨next, timed, bad⟩)
    · exact .time bad
    · exact .rate timed bad
  · intro faulty
    cases faulty with
    | time bad => exact .inl bad
    | rate timed bad => exact .inr ⟨_, timed, bad⟩

/-- The query goes through the gates in order: each step is the check of one gate. -/
theorem result_fetch_eq_error_iff (error : QueryError) :
    (fetch context answer pair).result = .error error ↔
      FirstClosed (Fault context answer pair) order error := by
  revert error
  refine FirstClosed.bind_iff (fun _ => bodyOf_fault .index) fun _ indexAnswered => ?_
  refine FirstClosed.bind_iff (fun _ => bodyOf_fault .mark) fun _ markAnswered => ?_
  refine FirstClosed.bind_iff (fun _ => bodyOf_fault .funding) fun _ fundingAnswered => ?_
  refine FirstClosed.bind_iff (fun _ => ofBody_fault .index indexAnswered)
    fun _ indexOpened => ?_
  refine FirstClosed.bind_iff (fun _ => ofBody_fault .mark markAnswered) fun _ markOpened => ?_
  refine FirstClosed.bind_iff (fun _ => ofBody_fault .funding fundingAnswered)
    fun _ fundingOpened => ?_
  refine FirstClosed.bind_iff (fun _ => firstRow_fault .index indexAnswered indexOpened)
    fun _ indexFound => ?_
  refine FirstClosed.bind_iff (fun _ => firstRow_fault .mark markAnswered markOpened)
    fun _ markFound => ?_
  refine FirstClosed.bind_iff (fun _ => firstRow_fault .funding fundingAnswered fundingOpened)
    fun _ fundingFound => ?_
  refine FirstClosed.read_iff (fun _ => index_fields_eq_error_iff.trans
    (badFields_fault .index indexAnswered indexOpened indexFound)) fun _ _ => ?_
  refine FirstClosed.read_iff (fun _ => mark_fields_eq_error_iff.trans
    (badFields_fault .mark markAnswered markOpened markFound)) fun _ _ error => ?_
  exact (funding_fields_eq_error_iff.trans (badFields_fault .funding fundingAnswered
    fundingOpened fundingFound)).trans FirstClosed.singleton_iff.symm

end FundingInfo

/-! ## The query of a source -/

namespace Source

open FundingPart

/-- A query for funding information makes its three requests whatever becomes of them.  It gives
one set of fields from each part exactly if no part has a fault; else it gives the error of the first
fault in the order of stages, so that a request that fails counts before everything that is wrong
with a body.  Neither the update ids nor the queues of the source change. -/
theorem funding_combined_or_first_fault (source : Source) (answer : Answerer) (pair : String) :
    let fetched := source.fetchFunding answer pair
    let request : FundingPart → Request := FundingPart.request source.context pair
    let fault : ReplyStage × FundingPart → QueryError → Prop := Fault source.context answer pair
    (fetched.requests = [request .index, request .mark, request .funding] ∧
      (fetched.requests.map fun request => (request.url, request.authenticated)) =
        [(source.settings.restUrl ++ "/market/index-tickers", false),
          (source.settings.restUrl ++ "/public/mark-price", true),
          (source.settings.restUrl ++ "/public/funding-rate", false)] ∧
      ∀ request ∈ fetched.requests, request.method = .get ∧
        Request.textParam "instId" (source.table.toNative pair) ∈ request.params) ∧
    (∀ info, fetched.result = .ok info ↔ info.CombinedFrom source.context answer pair) ∧
    ((∃ info, fetched.result = .ok info) ↔ ∀ stage part error, ¬fault (stage, part) error) ∧
    (∀ error, fetched.result = .error error ↔ FirstClosed fault order error) ∧
    (∀ part reason, answer (request part) = .error reason →
      ∃ other first, answer (request other) = .error first ∧
        fetched.result = .error (.transport first)) ∧
    ∀ desk : FundingDesk, desk.source = source → (desk.ask answer pair).source = source := by
  intro fetched request fault
  have failed : ∀ error, fetched.result = .error error ↔ FirstClosed fault order error :=
    FundingInfo.result_fetch_eq_error_iff
  refine ⟨⟨rfl, rfl, ?_⟩, fun _ => FundingInfo.result_fetch_eq_ok_iff, ?_, failed, ?_, ?_⟩
  · intro made member
    simp only [fetched, fetchFunding, FundingInfo.fetch, List.mem_cons, List.not_mem_nil,
      or_false] at member
    rcases member with rfl | rfl | rfl
    · exact ⟨rfl, List.mem_cons_self⟩
    · exact ⟨rfl, List.mem_cons_self⟩
    · exact ⟨rfl, List.mem_cons_self⟩
  · constructor
    · rintro ⟨info, returned⟩ stage part error shut
      obtain ⟨first, closed⟩ := FirstClosed.exists_of_mem (mem_order stage part) shut
      cases returned.symm.trans ((failed first).mpr closed)
    · intro flawless
      cases outcome : fetched.result with
      | ok info => exact ⟨info, rfl⟩
      | error error =>
          obtain ⟨⟨stage, part⟩, -, shut⟩ := ((failed error).mp outcome).exists_mem
          exact (flawless stage part error shut).elim
  · intro part reason unanswered
    have shut : fault (.request, part) (.transport reason) := .request unanswered
    obtain ⟨error, first⟩ := FirstClosed.exists_of_mem (mem_atStage .request part) shut
    have counts : fetched.result = .error error := (failed error).mpr (first.append _)
    obtain ⟨⟨stage, other⟩, found, shutFirst⟩ := first.exists_mem
    cases stage_of_mem_atStage found
    cases shutFirst with
    | request unansweredFirst => exact ⟨other, _, unansweredFirst, counts⟩
  · rintro desk rfl
    exact desk.source_ask answer pair

end Source

end SwapFeed
