import SwapFeed.Proofs.Desk.Basic
import SwapFeed.Proofs.Rest.Faults

/-!
# Kinds of failed queries

A caller who decides whether to try again tells two kinds of failure apart: the round trip failed or
the exchange refused the request, or the body is unusable.  Of the bodies of a query each is opened
only if those in front of it were granted, and no data are read before the last of them is open.  The
main statement says that a query keeps to the two kinds exactly if no body that is opened refuses the
request with an explanation that is no text.
-/

namespace SwapFeed

inductive FailureKind where
  | transport
  | malformed
  /-- Neither of the two, so that those who handle them never see it. -/
  | stray
  deriving DecidableEq, Repr

namespace QueryError

def kind : QueryError → FailureKind
  | transport _ => .transport
  | refused _ _ _ => .transport
  | unreadableRefusal => .stray
  | _ => .malformed

/-- The message of an error contains a text. -/
def Quotes (error : QueryError) (text : String) : Prop :=
  ∃ before after, error.message = before ++ text ++ after

theorem quotes_refused (what code message : String) :
    (refused what code message).Quotes code :=
  ⟨what ++ ": OKX error ", if message = "" then "" else " (" ++ message ++ ")", rfl⟩

end QueryError

namespace Reply

/-! ## Bodies that are opened in order -/

/-- A body is opened if all bodies in front of it are granted. -/
def Consults (bodies : List String) (body : String) : Prop :=
  ∃ before after, bodies = before ++ body :: after ∧
    ∀ earlier ∈ before, ∃ reply, Grants earlier reply

/-- A body is an object whose code refuses the request. -/
def Refused (body : String) (code : Json) : Prop :=
  ∃ members, Json.parse .reply body = some (.object members) ∧ Refuses (.object members) code

/-- A body refuses the request and explains it by something that is no text. -/
def Garbled (body : String) : Prop :=
  ∃ members code explanation, Json.parse .reply body = some (.object members) ∧
    Refuses (.object members) code ∧
    (Json.object members).get? "msg" = some explanation ∧
    ∀ message, explanation ≠ .text message

variable {what body : String} {rest : List String} {reply : Json}

theorem Garbled.refused (garbled : Garbled body) : ∃ code, Refused body code := by
  rcases garbled with ⟨members, code, -, parsed, refuses, -⟩
  exact ⟨code, members, parsed, refuses⟩

theorem Grants.not_refused (grants : Grants body reply) (code : Json) : ¬Refused body code := by
  intro refused
  rcases refused with ⟨members, parsed, refuses⟩
  rcases grants.parsed with ⟨others, again, rfl⟩
  cases parsed.symm.trans again
  exact grants.unrefused code refuses

theorem consults_head (body : String) (rest : List String) : Consults (body :: rest) body :=
  ⟨[], rest, rfl, by simp⟩

/-- Behind a body that is granted the others are opened. -/
theorem Grants.consults_cons_iff (grants : Grants body reply) {other : String} :
    Consults (body :: rest) other ↔ other = body ∨ Consults rest other := by
  constructor
  · intro consults
    rcases consults with ⟨before, after, split, granted⟩
    cases before with
    | nil =>
        cases split
        exact .inl rfl
    | cons first others =>
        cases split
        exact .inr ⟨others, after, rfl, fun earlier member =>
          granted earlier (List.mem_cons_of_mem _ member)⟩
  · intro here
    rcases here with rfl | ⟨before, after, rfl, granted⟩
    · exact consults_head _ _
    · exact ⟨body :: before, after, rfl, List.forall_mem_cons.mpr ⟨⟨reply, grants⟩, granted⟩⟩

/-- Behind a body that is not granted no other is opened. -/
theorem consults_cons_iff_of_not_grants (refused : ∀ reply, ¬Grants body reply) {other : String} :
    Consults (body :: rest) other ↔ other = body := by
  constructor
  · intro consults
    rcases consults with ⟨before, after, split, granted⟩
    cases before with
    | nil =>
        cases split
        rfl
    | cons first others =>
        cases split
        obtain ⟨reply, grants⟩ := granted body List.mem_cons_self
        exact (refused reply grants).elim
  · rintro rfl
    exact consults_head _ _

theorem Spoils.not_grants {error : QueryError} (spoils : Spoils what body error) (reply : Json) :
    ¬Grants body reply := by
  intro grants
  cases spoils.ofBody_eq.symm.trans (ofBody_eq_ok_iff.mpr grants)

end Reply

/-! ## Readers that only find a body malformed -/

section Malformed

variable {α β : Type}

/-- If there is an error, it says that the body is unusable. -/
def OnlyMalformed (outcome : Except QueryError α) : Prop :=
  ∀ error, outcome = .error error → error.kind = .malformed

namespace OnlyMalformed

theorem ok (value : α) : OnlyMalformed (.ok value) := nofun

theorem error {reason : QueryError} (malformed : reason.kind = .malformed) :
    OnlyMalformed (.error reason : Except QueryError α) := by
  rintro _ ⟨⟩
  exact malformed

theorem bind {first : Except QueryError α} {next : α → Except QueryError β}
    (here : OnlyMalformed first) (later : ∀ value, OnlyMalformed (next value)) :
    OnlyMalformed (first >>= next) := by
  intro reason failed
  rcases bind_eq_error_iff.mp failed with stopped | ⟨value, -, stopped⟩
  · exact here reason stopped
  · exact later value reason stopped

theorem mapM {read : α → Except QueryError β} (each : ∀ entry, OnlyMalformed (read entry))
    (entries : List α) : OnlyMalformed (entries.mapM read) := by
  induction entries with
  | nil => exact ok []
  | cons entry rest step =>
      rw [List.mapM_cons]
      exact (each entry).bind fun first => step.bind fun others => ok (first :: others)

end OnlyMalformed

namespace Reply

open OnlyMalformed

theorem firstRow_malformed (what : String) (reply : Json) :
    OnlyMalformed (firstRow what reply) := by
  intro error failed
  obtain ⟨rfl, -⟩ := firstRow_eq_error_iff.mp failed
  rfl

theorem field_malformed (what : String) (row : Json) (key : String) :
    OnlyMalformed (field what row key) := by
  intro error failed
  obtain ⟨rfl, -⟩ := field_eq_error_iff.mp failed
  rfl

theorem double_malformed (what : String) (value : Json) : OnlyMalformed (double what value) := by
  intro error failed
  cases double_eq_error_iff.mp failed with
  | unwritten => rfl

theorem integer_malformed (what : String) (value : Json) :
    OnlyMalformed (integer what value) := by
  intro error failed
  cases integer_eq_error_iff.mp failed with
  | unspelled => rfl
  | tooLarge => rfl

theorem level_malformed (what key : String) (row : Json) :
    OnlyMalformed (Reply.level what key row) := by
  unfold Reply.level
  split
  · next price size further =>
      exact (double_malformed _ size).bind fun _ =>
        (double_malformed _ price).bind fun _ => ok _
  · exact error rfl

theorem levels_malformed (what : String) (row : Json) (key : String) :
    OnlyMalformed (levels what row key) := by
  refine (field_malformed what row key).bind fun side => ?_
  split
  · exact OnlyMalformed.mapM (level_malformed what key) _
  · exact error rfl

end Reply

end Malformed

/-! ## Queries that keep to the kinds -/

section Classified

variable {α β : Type}

/-- A query keeps to two kinds of failure.  It fails for transport just if a body that is opened
refuses the request, and says with which code. -/
structure Classified (bodies : List String) (outcome : Except QueryError α) : Prop where
  closed : ∀ error, outcome = .error error → error.kind = .transport ∨ error.kind = .malformed
  transport_iff : (∃ error, outcome = .error error ∧ error.kind = .transport) ↔
    ∃ body code, Reply.Consults bodies body ∧ Reply.Refused body code
  named : ∀ error, outcome = .error error → error.kind = .transport →
    ∃ body code, Reply.Consults bodies body ∧ Reply.Refused body code ∧
      error.Quotes (Reply.codeText code)

namespace Classified

open Reply

variable {what body : String} {rest : List String} {reply : Json}

theorem map_iff {bodies : List String} {outcome : Except QueryError α} (image : α → β) :
    Classified bodies (outcome.map image) ↔ Classified bodies outcome := by
  have same : ∀ error, outcome.map image = .error error ↔ outcome = .error error := by
    intro error
    cases outcome <;> simp [Except.map]
  constructor
  · intro classified
    obtain ⟨closed, transport, named⟩ := classified
    simp only [same] at closed transport named
    exact ⟨closed, transport, named⟩
  · intro classified
    obtain ⟨closed, transport, named⟩ := classified
    constructor
    · simpa only [same] using closed
    · simpa only [same] using transport
    · simpa only [same] using named

/-- Once all bodies are open nothing can go wrong but that they are malformed. -/
theorem nil_iff {outcome : Except QueryError α} (only : OnlyMalformed outcome) :
    Classified [] outcome ↔ ∀ body, Consults [] body → ¬Garbled body := by
  have nothing : ∀ body, ¬Consults [] body := by
    intro body consults
    rcases consults with ⟨before, after, split, -⟩
    simp at split
  refine iff_of_true ?_ fun body consults => (nothing body consults).elim
  constructor
  · exact fun error failed => .inr (only error failed)
  · constructor
    · rintro ⟨error, failed, transport⟩
      cases transport.symm.trans (only error failed)
    · rintro ⟨body, code, consults, -⟩
      exact (nothing body consults).elim
  · intro error failed transport
    cases transport.symm.trans (only error failed)

/-- A body that is granted has no part in the failure. -/
theorem cons_iff_of_grants {outcome : Except QueryError α} (grants : Grants body reply) :
    Classified (body :: rest) outcome ↔ Classified rest outcome := by
  have behind : ∀ other code, Consults (body :: rest) other ∧ Refused other code ↔
      Consults rest other ∧ Refused other code := by
    intro other code
    rw [grants.consults_cons_iff]
    constructor
    · rintro ⟨rfl | consults, refused⟩
      · exact (grants.not_refused code refused).elim
      · exact ⟨consults, refused⟩
    · rintro ⟨consults, refused⟩
      exact ⟨.inr consults, refused⟩
  constructor
  · intro classified
    obtain ⟨closed, transport, named⟩ := classified
    simp only [behind, ← and_assoc] at transport named
    exact ⟨closed, transport, by simpa only [and_assoc] using named⟩
  · intro classified
    obtain ⟨closed, transport, named⟩ := classified
    refine ⟨closed, by simpa only [behind] using transport, ?_⟩
    simpa only [← and_assoc, behind] using named

/-- A body that is not granted decides alone. -/
theorem iff_not_garbled_of_spoils {error : QueryError} (spoils : Spoils what body error) :
    Classified (body :: rest) (.error error : Except QueryError α) ↔ ¬Garbled body := by
  have alone : ∀ {other}, Consults (body :: rest) other ↔ other = body :=
    consults_cons_iff_of_not_grants spoils.not_grants
  have of_refused : ∀ {members code message}, Json.parse .reply body = some (.object members) →
      Refuses (.object members) code →
      Classified (body :: rest)
        (.error (.refused what (codeText code) message) : Except QueryError α) := by
    intro members code message parsed refuses
    have refused : Refused body code := ⟨members, parsed, refuses⟩
    constructor
    · rintro _ ⟨⟩
      exact .inl rfl
    · exact iff_of_true ⟨_, rfl, rfl⟩ ⟨body, code, consults_head body rest, refused⟩
    · rintro _ ⟨⟩ -
      exact ⟨body, code, consults_head body rest, refused, QueryError.quotes_refused _ _ _⟩
  cases spoils with
  | notObject shapeless =>
      have unrefused : ∀ code, ¬Refused body code :=
        fun code ⟨members, parsed, _⟩ => shapeless members parsed
      refine iff_of_true ?_ fun garbled => ?_
      · constructor
        · rintro _ ⟨⟩
          exact .inr rfl
        · constructor
          · rintro ⟨_, ⟨⟩, ⟨⟩⟩
          · rintro ⟨other, code, consults, refused⟩
            cases alone.mp consults
            exact (unrefused code refused).elim
        · rintro _ ⟨⟩ ⟨⟩
      · obtain ⟨code, refused⟩ := garbled.refused
        exact unrefused code refused
  | refused parsed refuses silent =>
      refine iff_of_true (of_refused parsed refuses) fun garbled => ?_
      rcases garbled with ⟨members, -, explanation, again, -, told, -⟩
      cases parsed.symm.trans again
      cases silent.symm.trans told
  | explained parsed refuses told =>
      refine iff_of_true (of_refused parsed refuses) fun garbled => ?_
      rcases garbled with ⟨members, -, explanation, again, -, toldToo, notText⟩
      cases parsed.symm.trans again
      cases told.symm.trans toldToo
      exact notText _ rfl
  | garbled parsed refuses told notText =>
      refine iff_of_false (fun classified => ?_) fun clear => ?_
      · rcases classified.closed _ rfl with kind | kind
        · cases kind
        · cases kind
      · exact clear ⟨_, _, _, parsed, refuses, told, notText⟩

/-- One more body is opened in front of others. -/
theorem cons_iff {next : Json → Except QueryError α}
    (later : ∀ reply, Classified rest (next reply) ↔
      ∀ other, Consults rest other → ¬Garbled other) :
    Classified (body :: rest) (ofBody what body >>= next) ↔
      ∀ other, Consults (body :: rest) other → ¬Garbled other := by
  rcases exists_grants_or_spoils what body with ⟨reply, grants⟩ | ⟨error, spoils⟩
  · rw [ofBody_eq_ok_iff.mpr grants]
    have clear : ¬Garbled body := by
      intro garbled
      obtain ⟨code, refused⟩ := garbled.refused
      exact grants.not_refused code refused
    refine (cons_iff_of_grants grants).trans ((later reply).trans ?_)
    simp only [grants.consults_cons_iff, forall_eq_or_imp, clear, not_false_eq_true, true_and]
  · rw [spoils.ofBody_eq]
    refine (iff_not_garbled_of_spoils spoils).trans ?_
    simp only [consults_cons_iff_of_not_grants spoils.not_grants, forall_eq]

end Classified

end Classified

/-! ## The queries of a source -/

namespace Source

open Reply

/-- A request is answered with a body, whatever it says. -/
def answering (bodies : Request → String) : Answerer := fun request => .ok (bodies request)

theorem result_fetchSnapshot (source : Source) (answer : Answerer) (now : Int) (pair : String) :
    (source.fetchSnapshot answer now pair).1.result =
      (SnapshotRow.fetch source.context answer pair).result.map fun row =>
        row.toSnapshot pair (row.nextIds (clockWord now) source.feed.ids).last := by
  rw [fetchSnapshot]
  cases fetched : (SnapshotRow.fetch source.context answer pair).result <;> simp [Except.map]

/-- However requests are answered, the queries for a book, for funding information and for a last
traded price keep to the two kinds of failure, exactly if no body that they open refuses the request
with an explanation that is no text. -/
theorem classified_iff_not_garbled (source : Source) (bodies : Request → String) (pair : String) :
    let book := [bodies (source.context.bookRequest pair)]
    let funding := [bodies (source.context.indexRequest pair),
      bodies (source.context.markRequest pair), bodies (source.context.fundingRequest pair)]
    let price := [bodies (source.context.tickerRequest pair)]
    (∀ now,
      Classified book (source.fetchSnapshot (answering bodies) now pair).1.result ↔
        ∀ body, Consults book body → ¬Garbled body) ∧
    (Classified funding (source.fetchFunding (answering bodies) pair).result ↔
      ∀ body, Consults funding body → ¬Garbled body) ∧
    (Classified price (LastPrice.fetch source.context (answering bodies) pair).result ↔
      ∀ body, Consults price body → ¬Garbled body) := by
  refine ⟨fun now => ?_, ?_, ?_⟩
  · rw [result_fetchSnapshot]
    refine (Classified.map_iff _).trans (Classified.cons_iff fun reply => Classified.nil_iff ?_)
    refine (firstRow_malformed _ reply).bind fun row => ?_
    refine (field_malformed _ row "ts").bind fun value => ?_
    refine (integer_malformed _ value).bind fun millis => ?_
    split
    · exact .error rfl
    · exact (levels_malformed _ row "bids").bind fun _ =>
        (levels_malformed _ row "asks").bind fun _ => .ok _
  · refine Classified.cons_iff fun index => Classified.cons_iff fun mark =>
      Classified.cons_iff fun funding => Classified.nil_iff ?_
    refine (firstRow_malformed _ index).bind fun index => ?_
    refine (firstRow_malformed _ mark).bind fun mark => ?_
    refine (firstRow_malformed _ funding).bind fun funding => ?_
    refine (field_malformed _ index "idxPx").bind fun value => ?_
    refine (double_malformed _ value).bind fun indexPrice => ?_
    refine (field_malformed _ mark "markPx").bind fun value => ?_
    refine (double_malformed _ value).bind fun markPrice => ?_
    refine (field_malformed _ funding "nextFundingTime").bind fun value => ?_
    refine (integer_malformed _ value).bind fun next => ?_
    exact (field_malformed _ funding "nextFundingRate").bind fun value =>
      (double_malformed _ value).bind fun rate => .ok _
  · refine Classified.cons_iff fun reply => Classified.nil_iff ?_
    exact (firstRow_malformed _ reply).bind fun row =>
      (field_malformed _ row "last").bind fun value => double_malformed _ value

/-- A refusal that is explained by a number. -/
def garbledBody : String := "\x7b\"code\":\"1\",\"msg\":5\x7d"

/-- It gets past both kinds. -/
theorem not_classified_garbledBody :
    ¬Classified [garbledBody]
      (bitcoinSource.fetchSnapshot (answering fun _ => garbledBody) 0 "BTC-USDT").1.result := by
  intro classified
  have failed :
      (bitcoinSource.fetchSnapshot (answering fun _ => garbledBody) 0 "BTC-USDT").1.result =
        .error .unreadableRefusal := by decide +kernel
  rcases classified.closed _ failed with kind | kind
  · cases kind
  · cases kind

end Source

end SwapFeed
