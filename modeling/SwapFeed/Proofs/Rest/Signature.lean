import SwapFeed.Proofs.Rest.Body
import SwapFeed.Proofs.Rest.Query
import SwapFeed.Proofs.Text.Digits

/-!
# What a signature covers

A signed request gives its stamp and its signature in headers.  The signature covers the stamp, the
method, the target of the url that the request goes to and the octets that it posts, as long as that
url has a path or has no query.  Where a query stands right behind the authority, what is signed in
the place of the target is something else.  A `POST` whose parameters have no body is not sent.
-/

namespace SwapFeed

open SwapFeed.Text

/-! ## Absolute urls -/

namespace AbsoluteUrl

/-- A query with its question mark; nothing if there is none. -/
def marked : Option (List Char) → List Char
  | none => []
  | some query => '?' :: query

/-- A url as it is written from its parts. -/
def written (scheme authority path : List Char) (query : Option (List Char)) : List Char :=
  scheme ++ ':' :: ['/', '/'] ++ (authority ++ (path ++ marked query))

/-- A query, if there is one, that goes on with some more text. -/
def extended (query : Option (List Char)) (added : List Char) : List Char :=
  match query with
  | none => added
  | some query => query ++ '?' :: added

theorem written_extended (scheme authority path : List Char) (query : Option (List Char))
    (added : List Char) :
    written scheme authority path (some (extended query added)) =
      written scheme authority path query ++ '?' :: added := by
  cases query <;> simp [written, marked, extended]

end AbsoluteUrl

/-- An absolute url with an authority, in parts: a path is empty or starts with a slash, and a query
may be missing.  Absolute urls have no fragment, and U+0000 is no part of any url. -/
structure AbsoluteUrl where
  scheme : List Char
  authority : List Char
  path : List Char
  query : Option (List Char)
  schemeEnds : ':' ∉ scheme
  authorityEnds : '/' ∉ authority ∧ '?' ∉ authority
  pathStarts : path = [] ∨ ∃ rest, path = '/' :: rest
  pathEnds : '?' ∉ path
  noFragment : '#' ∉ AbsoluteUrl.written scheme authority path query
  noNul : '\x00' ∉ AbsoluteUrl.written scheme authority path query

namespace AbsoluteUrl

def text (url : AbsoluteUrl) : String :=
  String.ofList (written url.scheme url.authority url.path url.query)

theorem nul_not_mem_text (url : AbsoluteUrl) : '\x00' ∉ url.text.toList := by
  rw [text, String.toList_ofList]
  exact url.noNul

/-- What is asked for at the authority: the path, a slash if it is empty, and the query. -/
def target (url : AbsoluteUrl) : String :=
  String.ofList ((if url.path = [] then ['/'] else url.path) ++ marked url.query)

/-- The url with some more text in its query. -/
def extend (url : AbsoluteUrl) (added : List Char) (noFragment : '#' ∉ added)
    (noNul : '\x00' ∉ added) : AbsoluteUrl :=
  { url with
    query := some (extended url.query added)
    noFragment := by simp [written_extended, url.noFragment, noFragment]
    noNul := by simp [written_extended, url.noNul, noNul] }

theorem text_extend (url : AbsoluteUrl) {added : List Char} (noFragment : '#' ∉ added)
    (noNul : '\x00' ∉ added) :
    (url.extend added noFragment noNul).text = url.text ++ String.ofList ('?' :: added) := by
  rw [text, text, ← String.ofList_append]
  exact congrArg String.ofList (written_extended ..)

end AbsoluteUrl

namespace RestClient

variable {client : RestClient} {now : Int} {request : Request} {reply : TransferReply}

/-! ## The text that is signed for a target -/

theorem fromSlash_append {before : List Char} (absent : '/' ∉ before) (rest : List Char) :
    fromSlash (before ++ '/' :: rest) = '/' :: rest := by
  rw [fromSlash, splitFirst?_append absent]

theorem fromSlash_of_not_mem {chars : List Char} (absent : '/' ∉ chars) :
    fromSlash chars = ['/'] := by
  rw [fromSlash, splitFirst?_eq_none absent]

theorem target_text (url : AbsoluteUrl) :
    target url.text =
      String.ofList (fromSlash (url.authority ++ (url.path ++ AbsoluteUrl.marked url.query))) := by
  rw [target, AbsoluteUrl.text, AbsoluteUrl.written, String.toList_ofList,
    splitInfix?_append _ url.schemeEnds]

/-- What is signed starts at the first slash, so it is the target unless a query takes the place of
the path. -/
theorem target_text_eq_iff (url : AbsoluteUrl) :
    target url.text = url.target ↔ url.path ≠ [] ∨ url.query = none := by
  rw [target_text, AbsoluteUrl.target, String.ofList_inj]
  have slashless := url.authorityEnds.1
  rcases url.pathStarts with bare | ⟨rest, path⟩
  · cases same : url.query with
    | none => simp [bare, AbsoluteUrl.marked, fromSlash_of_not_mem slashless]
    | some query =>
        simp only [bare, AbsoluteUrl.marked, List.nil_append, if_pos, ne_eq, not_true_eq_false,
          reduceCtorEq, or_self, iff_false]
        intro covers
        rw [fromSlash] at covers
        split at covers
        · next before behind split =>
            have whole := append_of_splitFirst? split
            rw [(List.cons.inj covers).2, List.append_cons before] at whole
            have endsInSlash : url.authority = before ++ ['/'] := List.append_cancel_right whole
            simp [endsInSlash] at slashless
        · simp at covers
  · have nonempty : url.path ≠ [] := by simp [path]
    rw [if_neg nonempty, path, List.cons_append, fromSlash_append slashless]
    simp

/-- The url that a request is sent to is an absolute url if its own url is one. -/
theorem exists_fullUrl_eq (url : AbsoluteUrl) (own : request.url = url.text) :
    ∃ handed : AbsoluteUrl, fullUrl request = handed.text ∧ handed.path = url.path ∧
      (handed.query = none ↔
        url.query = none ∧ (request.method = .post ∨ request.params = [])) := by
  rw [fullUrl, own]
  cases request.method with
  | post => exact ⟨url, rfl, rfl, by simp⟩
  | get =>
      cases same : request.params with
      | nil => exact ⟨url, by simp [Query.render, Query.joined], rfl, by simp⟩
      | cons entry rest =>
          have noFragment : '#' ∉ Query.parameter entry ++ Query.joined '&' rest := fun member =>
            absurd (Query.isInner_of_mem_query member) (by simp [Query.IsInner, Query.isPlain])
          have noNul : '\x00' ∉ Query.parameter entry ++ Query.joined '&' rest := fun member =>
            absurd (Query.isInner_of_mem_query member) (by simp [Query.IsInner, Query.isPlain])
          refine ⟨url.extend _ noFragment noNul, ?_, rfl, by simp [AbsoluteUrl.extend]⟩
          rw [AbsoluteUrl.text_extend, Query.render, Query.joined, List.cons_append]

end RestClient

/-! ## Texts without U+0000 -/

theorem nul_not_mem_encode (octets : Octets) : '\x00' ∉ (Base64.encode octets).toList := by
  have symbols : ∀ value, Base64.symbol value ≠ '\x00' := by
    intro value
    by_cases small : value < 63
    · revert small value
      decide
    · grind [Base64.symbol]
  rw [Base64.encode, String.toList_ofList]
  fun_induction Base64.encodeChars octets <;> simp_all [Base64.group, Ne.symm]

theorem nul_not_mem_zeroPadded (width value : Nat) : '\x00' ∉ (zeroPadded width value).toList := by
  intro member
  rw [zeroPadded, String.toList_append, String.toList_ofList] at member
  exact absurd (isDigit_of_mem_replicate_append member) (by decide)

theorem nul_not_mem_repr (value : Int) : '\x00' ∉ value.repr.toList := by
  have digits : ∀ count : Nat, '\x00' ∉ (toString count).toList := fun count member =>
    absurd ((isDigits_iff_all.mp (isDigits_toString count)).2 _ member) (by decide)
  cases value with
  | ofNat count => exact digits count
  | negSucc count =>
      have signed : (Int.negSucc count).repr = "-" ++ toString (count + 1) := rfl
      rw [signed, String.toList_append, List.mem_append, not_or]
      exact ⟨by decide, digits (count + 1)⟩

theorem nul_not_mem_stampOfMicros (micros : Int) : '\x00' ∉ (stampOfMicros micros).toList := by
  simp [stampOfMicros, DateTime.render, nul_not_mem_zeroPadded, nul_not_mem_repr]

/-! ## Headers -/

namespace Transfer

/-- A header as a line of text. -/
def header (name value : String) : String := name ++ ": " ++ value

/-- The value of a header with a name: what stands behind the first colon and a space. -/
def headerValue? (name header : String) : Option String :=
  match splitFirst? ':' header.toList with
  | some (found, ' ' :: value) =>
      if found = name.toList then some (String.ofList value) else none
  | _ => none

/-- The values of all headers with a name. -/
def valuesOf (sent : Transfer) (name : String) : List String :=
  sent.headers.filterMap (headerValue? name)

theorem headerValue?_header {found : String} (absent : ':' ∉ found.toList) (name value : String) :
    headerValue? name (header found value) = if found = name then some value else none := by
  have chars : (header found value).toList = found.toList ++ ':' :: ' ' :: value.toList := by
    simp [header]
  simp only [headerValue?, chars, splitFirst?_append absent, String.toList_inj,
    String.ofList_toList]

/-- The headers of a transfer sign it for a target, under a secret: the signature is that of the
stamp in the headers, the method, the target and the posted octets, and is given just once. -/
def SignedFor (sent : Transfer) (secret : String) (method : Method) (target : String) : Prop :=
  ∃ stamp, sent.valuesOf "OK-ACCESS-TIMESTAMP" = [stamp] ∧
    sent.valuesOf "OK-ACCESS-SIGN" =
      [RestClient.sign (Octets.ofText secret)
        (Octets.ofText (stamp ++ method.name ++ target) ++ sent.post.getD [])]

end Transfer

namespace RestClient

variable {client : RestClient} {now : Int} {request : Request} {reply : TransferReply}
  {body : String}

/-- A request has to be signed, and no part of the credentials is missing. -/
def Signs (client : RestClient) (request : Request) : Prop :=
  request.authenticated = true ∧ client.credentials.key ≠ "" ∧ client.credentials.secret ≠ "" ∧
    client.credentials.passphrase ≠ ""

instance : Decidable (client.Signs request) := inferInstanceAs (Decidable (_ ∧ _ ∧ _ ∧ _))

theorem signs_eq_true_iff : client.signs request = true ↔ client.Signs request := by
  simp [signs, Signs, Credentials.incomplete, and_assoc]

/-- A request that no body can be written for: a `POST` whose latest parameter of some name is no
text. -/
def Unwritable (request : Request) : Prop :=
  request.method = .post ∧ Body.Unwritable request.params

theorem body?_eq_none_iff : body? request = none ↔ Unwritable request := by
  rw [body?, Unwritable]
  cases request.method with
  | get => simp
  | post => simp [Body.render?_eq_none_iff]

/-- A request that has no body changes nothing and sends nothing. -/
theorem execute_of_unwritable (ready : reply ≠ .unavailable) (unwritable : Unwritable request) :
    client.execute now request reply =
      ({ result := .error .unwritable, sent := none, log := [] }, client) := by
  simp only [execute_of_ready ready, body?_eq_none_iff.mpr unwritable]

/-- A body holds no U+0000, so it is posted to its end. -/
theorem post_transfer (written : body? request = some body) :
    (client.transfer now request body).post.getD [] = Octets.ofText body := by
  rw [body?] at written
  rw [transfer]
  cases method : request.method with
  | get =>
      rw [method] at written
      cases written
      rfl
  | post =>
      rw [method] at written
      rw [Option.getD_some, beforeNul_of_not_mem (Body.nul_not_mem_render? written)]

theorem map_beforeNul_plainHeaders : plainHeaders.map beforeNul = plainHeaders := by
  decide +kernel

theorem headers_transfer_of_not_signs (plain : client.signs request = false) :
    (client.transfer now request body).headers = plainHeaders := by
  simp [transfer, plain, map_beforeNul_plainHeaders]

/-- Only what the credentials bring into a header can be cut short. -/
theorem headers_transfer_of_signs (signs : client.signs request = true) :
    (client.transfer now request body).headers = plainHeaders ++
      [Transfer.header "OK-ACCESS-KEY" (beforeNul client.credentials.key),
        Transfer.header "OK-ACCESS-SIGN" (sign (Octets.ofText client.credentials.secret)
          (Octets.ofText
            (stampOfMicros now ++ request.method.name ++ target (fullUrl request) ++ body))),
        Transfer.header "OK-ACCESS-TIMESTAMP" (stampOfMicros now),
        Transfer.header "OK-ACCESS-PASSPHRASE" (beforeNul client.credentials.passphrase)] := by
  have stamp := beforeNul_of_not_mem (nul_not_mem_stampOfMicros now)
  have signature := fun octets => beforeNul_of_not_mem (nul_not_mem_encode octets)
  simp only [transfer, if_pos signs, List.map_append, map_beforeNul_plainHeaders, signedHeaders,
    List.map_cons, List.map_nil, sign]
  rw [beforeNul_append (by decide), beforeNul_append (by decide), beforeNul_append (by decide),
    beforeNul_append (by decide), stamp, signature]
  simp only [Transfer.header, String.reduceAppend]

theorem stamps_transfer (signs : client.signs request = true) :
    (client.transfer now request body).valuesOf "OK-ACCESS-TIMESTAMP" = [stampOfMicros now] := by
  have plain : plainHeaders.filterMap (Transfer.headerValue? "OK-ACCESS-TIMESTAMP") = [] := by
    decide +kernel
  rw [Transfer.valuesOf, headers_transfer_of_signs signs, List.filterMap_append, plain]
  simp [Transfer.headerValue?_header]

theorem signatures_transfer (signs : client.signs request = true) :
    (client.transfer now request body).valuesOf "OK-ACCESS-SIGN" =
      [sign (Octets.ofText client.credentials.secret)
        (Octets.ofText
          (stampOfMicros now ++ request.method.name ++ target (fullUrl request) ++ body))] := by
  have plain : plainHeaders.filterMap (Transfer.headerValue? "OK-ACCESS-SIGN") = [] := by
    decide +kernel
  rw [Transfer.valuesOf, headers_transfer_of_signs signs, List.filterMap_append, plain]
  simp [Transfer.headerValue?_header]

theorem signedFor_transfer (written : body? request = some body)
    (signs : client.signs request = true) :
    (client.transfer now request body).SignedFor client.credentials.secret request.method
      (target (fullUrl request)) := by
  refine ⟨stampOfMicros now, stamps_transfer signs, ?_⟩
  rw [post_transfer written, signatures_transfer signs, Octets.ofText_append]

/-- A `POST` that has no body ends with an error before anything is sent.  Any other request that is
not signed has none of the headers that credentials fill.  One that is signed goes, if its url is
absolute, to an absolute url.  Its signature covers what stands there from the first slash on, and
that is the target of the url exactly if it has a path or has no query. -/
theorem signature_covers_target_iff (client : RestClient) (now : Int) (request : Request)
    (ready : reply ≠ .unavailable) :
    (Unwritable request → client.execute now request reply =
      ({ result := .error .unwritable, sent := none, log := [] }, client)) ∧
    (¬Unwritable request → ∃ sent, (client.execute now request reply).1.sent = some sent ∧
      (¬client.Signs request → ∀ header ∈ sent.headers, ¬"OK-ACCESS".toList <+: header.toList) ∧
      (client.Signs request → ∀ url : AbsoluteUrl, request.url = url.text →
        ∃ handed : AbsoluteUrl, sent.url = handed.text ∧ handed.path = url.path ∧
          (handed.query = none ↔
            url.query = none ∧ (request.method = .post ∨ request.params = [])) ∧
          sent.SignedFor client.credentials.secret request.method (target sent.url) ∧
          (target sent.url = handed.target ↔ handed.path ≠ [] ∨ handed.query = none))) := by
  refine ⟨execute_of_unwritable ready, fun writable => ?_⟩
  obtain ⟨body, written⟩ :=
    Option.ne_none_iff_exists'.mp (body?_eq_none_iff.not.mpr writable)
  refine ⟨_, sent_execute ready written, ?_, ?_⟩
  · intro plain
    rw [← signs_eq_true_iff, Bool.not_eq_true] at plain
    rw [headers_transfer_of_not_signs plain]
    decide +kernel
  · intro signs url own
    obtain ⟨handed, full, path, query⟩ := exists_fullUrl_eq url own
    have sent : (client.transfer now request body).url = handed.text := by
      rw [transfer, full]
      exact beforeNul_of_not_mem handed.nul_not_mem_text
    refine ⟨handed, sent, path, query, ?_, ?_⟩
    · rw [sent, ← full]
      exact signedFor_transfer written (signs_eq_true_iff.mpr signs)
    · rw [sent]
      exact target_text_eq_iff handed

/-- A client that holds credentials. -/
def signingClient : RestClient := { credentials := ⟨"key", "secret", "pass"⟩ }

/-- A url with a path and a query. -/
def pathUrl : AbsoluteUrl where
  scheme := ['h', 't', 't', 'p']
  authority := ['h']
  path := ['/', 'a']
  query := some ['x', '=', '1']
  schemeEnds := by decide
  authorityEnds := by decide
  pathStarts := .inr ⟨_, rfl⟩
  pathEnds := by decide
  noFragment := by decide
  noNul := by decide

/-- A signed request to that url, with a parameter of its own. -/
def pathRequest : Request :=
  { url := "http://h/a?x=1", params := [Request.textParam "k" "v"], authenticated := true }

/-- A signed request that posts an octet of no text there. -/
def rawRequest : Request :=
  { url := "http://h/a?x=1", method := .post, params := [([0xff], [])], authenticated := true }

/-- The signature covers the path and both queries, and the octet is not sent. -/
theorem signature_covers_target_path :
    (∃ sent, (signingClient.execute 0 pathRequest (.answered 200 [])).1.sent = some sent ∧
      sent.url = "http://h/a?x=1?k=v" ∧ sent.SignedFor "secret" .get "/a?x=1?k=v") ∧
    (signingClient.execute 0 rawRequest (.answered 200 [])).1.sent = none := by
  have ready : TransferReply.answered 200 [] ≠ .unavailable := nofun
  have writable : ¬Unwritable pathRequest := fun ⟨post, _⟩ => nomatch post
  have unwritable : Unwritable rawRequest := body?_eq_none_iff.mp (by decide +kernel)
  obtain ⟨sent, same, -, covers⟩ :=
    (signature_covers_target_iff signingClient 0 pathRequest ready).2 writable
  cases (sent_execute ready rfl).symm.trans same
  have own : pathRequest.url = pathUrl.text := by decide +kernel
  obtain ⟨handed, -, -, -, signed, -⟩ := covers (by decide) pathUrl own
  have url : (signingClient.transfer 0 pathRequest "").url = "http://h/a?x=1?k=v" := by
    decide +kernel
  have target : target "http://h/a?x=1?k=v" = "/a?x=1?k=v" := by decide +kernel
  rw [url, target] at signed
  have stopped := (signature_covers_target_iff signingClient 0 rawRequest ready).1 unwritable
  exact ⟨⟨_, same, url, signed⟩, by rw [stopped]⟩

/-- A url with neither path nor query. -/
def bareUrl : AbsoluteUrl where
  scheme := ['h', 't', 't', 'p', 's']
  authority := ['w', 'w', 'w', '.', 'o', 'k', 'x', '.', 'c', 'o', 'm']
  path := []
  query := none
  schemeEnds := by decide
  authorityEnds := by decide
  pathStarts := .inl rfl
  pathEnds := by decide
  noFragment := by decide
  noNul := by decide

/-- A signed request to that url, with a parameter. -/
def bareRequest : Request :=
  { url := "https://www.okx.com", params := [Request.textParam "k" "v"], authenticated := true }

/-- The signature of a request with a query and no path is not that of the target it goes to. -/
theorem not_signedFor_target_bareQuery :
    signingClient.Signs bareRequest ∧ bareRequest.url = bareUrl.text ∧
      ∃ sent, (signingClient.execute 1700000000000000 bareRequest (.answered 200 [])).1.sent =
          some sent ∧
        sent.url = (bareUrl.extend ['k', '=', 'v'] (by decide) (by decide)).text ∧
        ¬sent.SignedFor "secret" .get
          (bareUrl.extend ['k', '=', 'v'] (by decide) (by decide)).target := by
  refine ⟨by decide, by decide +kernel, _, sent_execute nofun rfl, by decide +kernel, ?_⟩
  rintro ⟨stamp, stamped, signed⟩
  rw [stamps_transfer (by decide)] at stamped
  cases stamped
  rw [signatures_transfer (by decide)] at signed
  revert signed
  decide +kernel

end RestClient

end SwapFeed
