import SwapFeed.Proofs.Text.Split
import SwapFeed.Rest.Client

/-!
# Queries read back

A query is read by cutting it at ampersands, each piece at its first equals sign, and by decoding
what stands between.  Whatever octets the parameters of a request hold, separators and percent signs
included, the url of its transfer carries a query that is read as exactly these parameters.
-/

namespace SwapFeed

open SwapFeed.Text

namespace Query

/-! ## A reader -/

/-- The octets that a part of a query stands for.  A percent sign with two hexadecimal digits is one
octet, and any other character stands for its own encoding. -/
def decode? : List Char → Option Octets
  | [] => some []
  | '%' :: high :: low :: rest =>
      if Double.isHexDigit high && Double.isHexDigit low then
        (decode? rest).map (UInt8.ofNat (Double.hexadecimal [high, low]) :: ·)
      else none
  | '%' :: _ => none
  | char :: rest => (decode? rest).map (String.utf8EncodeChar char ++ ·)

/-- The parameter that a piece of a query stands for; a piece without equals sign is none. -/
def parameter? (piece : List Char) : Option (Octets × Octets) := do
  let (name, value) ← splitFirst? '=' piece
  return (← decode? name, ← decode? value)

/-- The parameters that a query stands for, in order. -/
def read? (query : String) : Option (List (Octets × Octets)) :=
  (splitAll '&' query.toList).mapM parameter?

/-! ## Octets -/

/-- A character that is no separator: one that stands for itself, or a percent sign. -/
def IsInner (char : Char) : Prop := isPlain char = true ∨ char = '%'

theorem forall_octet {property : UInt8 → Prop} (every : ∀ value < 256, property (.ofNat value))
    (octet : UInt8) : property octet := by
  rw [← UInt8.ofNat_toNat (x := octet)]
  exact every octet.toNat octet.toNat_lt

theorem utf8EncodeChar_of_isPlain (octet : UInt8) :
    isPlain (Char.ofNat octet.toNat) = true →
      String.utf8EncodeChar (Char.ofNat octet.toNat) = [octet] := by
  revert octet
  refine forall_octet ?_
  decide +kernel

theorem hexDigits_spec (octet : UInt8) :
    Double.isHexDigit (hexDigit (octet.toNat / 16)) = true ∧
      Double.isHexDigit (hexDigit octet.toNat) = true ∧
      UInt8.ofNat (Double.hexadecimal [hexDigit (octet.toNat / 16), hexDigit octet.toNat]) =
        octet ∧
      isPlain (hexDigit (octet.toNat / 16)) = true ∧ isPlain (hexDigit octet.toNat) = true := by
  revert octet
  refine forall_octet ?_
  decide +kernel

theorem decode?_escapeOctet_append (octet : UInt8) (rest : List Char) :
    decode? (escapeOctet octet ++ rest) = (decode? rest).map (octet :: ·) := by
  rw [escapeOctet]
  split
  · next plain =>
      have notPercent : Char.ofNat octet.toNat ≠ '%' := by
        intro percent
        rw [percent] at plain
        cases plain
      rw [List.singleton_append, decode?, utf8EncodeChar_of_isPlain octet plain]
      · rfl
      all_goals simp [notPercent]
  · obtain ⟨high, low, value, -⟩ := hexDigits_spec octet
    simp [decode?, high, low, value]

/-- What is escaped stands for itself again. -/
theorem decode?_escape (octets : Octets) : decode? (escape octets) = some octets := by
  rw [escape]
  induction octets with
  | nil => rfl
  | cons octet rest step =>
      rw [List.flatMap_cons, decode?_escapeOctet_append, step, Option.map_some]

theorem isInner_of_mem_escape {octets : Octets} {char : Char} (member : char ∈ escape octets) :
    IsInner char := by
  obtain ⟨octet, -, member⟩ := List.mem_flatMap.mp member
  rw [escapeOctet] at member
  split at member
  · next plain =>
      rw [List.mem_singleton.mp member]
      exact .inl plain
  · obtain ⟨-, -, -, high, low⟩ := hexDigits_spec octet
    simp only [List.mem_cons, List.not_mem_nil, or_false] at member
    rcases member with rfl | rfl | rfl
    · exact .inr rfl
    · exact .inl high
    · exact .inl low

/-! ## Parameters -/

variable {entry : Octets × Octets}

theorem parameter?_parameter (entry : Octets × Octets) :
    parameter? (parameter entry) = some entry := by
  have absent : '=' ∉ escape entry.1 := fun member =>
    absurd (isInner_of_mem_escape member) (by simp [IsInner, isPlain])
  simp [parameter?, parameter, splitFirst?_append absent, decode?_escape]

theorem isInner_of_mem_parameter {char : Char} (member : char ∈ parameter entry) :
    IsInner char ∨ char = '=' := by
  rcases List.mem_append.mp member with name | mark
  · exact .inl (isInner_of_mem_escape name)
  · rcases List.mem_cons.mp mark with rfl | value
    · exact .inr rfl
    · exact .inl (isInner_of_mem_escape value)

theorem ampersand_not_mem_parameter : '&' ∉ parameter entry := fun member =>
  absurd (isInner_of_mem_parameter member) (by simp [IsInner, isPlain])

/-- Joined parameters come apart again, in order. -/
theorem mapM_splitAll_joined (entry : Octets × Octets) (rest : List (Octets × Octets)) :
    (splitAll '&' (parameter entry ++ joined '&' rest)).mapM parameter? = some (entry :: rest) := by
  induction rest generalizing entry with
  | nil =>
      rw [joined, List.append_nil, splitAll_of_not_mem ampersand_not_mem_parameter]
      simp [parameter?_parameter]
  | cons next rest step =>
      rw [joined, List.cons_append, splitAll_append ampersand_not_mem_parameter]
      simp [parameter?_parameter, step]

theorem isInner_of_mem_joined {char separator : Char} {parameters : List (Octets × Octets)}
    (member : char ∈ joined separator parameters) :
    char = separator ∨ IsInner char ∨ char = '=' ∨ char = '&' := by
  induction parameters generalizing separator with
  | nil => cases member
  | cons entry rest step =>
      simp only [joined, List.cons_append, List.mem_cons, List.mem_append] at member
      rcases member with separates | here | later
      · exact .inl separates
      · exact .inr ((isInner_of_mem_parameter here).imp_right .inl)
      · rcases step later with between | inner
        · exact .inr (.inr (.inr between))
        · exact .inr inner

theorem isInner_of_mem_query {char : Char} {rest : List (Octets × Octets)}
    (member : char ∈ parameter entry ++ joined '&' rest) :
    IsInner char ∨ char = '=' ∨ char = '&' := by
  rcases List.mem_append.mp member with here | later
  · exact (isInner_of_mem_parameter here).imp_right .inl
  · rcases isInner_of_mem_joined later with between | inner
    · exact .inr (.inr between)
    · exact inner

/-- A url goes on as a list of parameters asks: not at all for an empty list, or else with a
question mark and a query that is read as the list. -/
inductive Carries (url : String) : List (Octets × Octets) → String → Prop where
  | nothing : Carries url [] url
  | query {query : String} {entry : Octets × Octets} {rest : List (Octets × Octets)}
      (read : read? query = some (entry :: rest))
      (inner : ∀ char ∈ query.toList, IsInner char ∨ char = '=' ∨ char = '&') :
      Carries url (entry :: rest) (url ++ "?" ++ query)

/-- The text that parameters add to a url is read as these parameters. -/
theorem carries_render (url : String) (parameters : List (Octets × Octets)) :
    Carries url parameters (url ++ render parameters) := by
  cases parameters with
  | nil =>
      have same : url ++ render [] = url := by simp [render, joined]
      rw [same]
      exact .nothing
  | cons entry rest =>
      have split : render (entry :: rest) =
          "?" ++ String.ofList (parameter entry ++ joined '&' rest) := by
        rw [render, joined, List.cons_append, String.ofList_cons]
        rfl
      rw [split, ← String.append_assoc]
      refine .query ?_ ?_
      · rw [read?, String.toList_ofList]
        exact mapM_splitAll_joined entry rest
      · intro char member
        rw [String.toList_ofList] at member
        exact isInner_of_mem_query member

theorem nul_not_mem_render (parameters : List (Octets × Octets)) :
    '\x00' ∉ (render parameters).toList := by
  intro member
  rw [render, String.toList_ofList] at member
  rcases isInner_of_mem_joined member with separates | inner
  · cases separates
  · simp [IsInner, isPlain] at inner

end Query

namespace RestClient

variable {client : RestClient} {now : Int} {request : Request} {reply : TransferReply}

/-- If a transfer can be set up, all depends on whether the request has a body. -/
theorem execute_of_ready (ready : reply ≠ .unavailable) :
    client.execute now request reply =
      match body? request with
      | none => ({ result := .error .unwritable, sent := none, log := [] }, client)
      | some body => client.send now request body reply := by
  cases reply with
  | unavailable => exact (ready rfl).elim
  | failed reason => rfl
  | answered status chunks => rfl

/-- Whatever the answer is, a request with a body is sent as the transfer made of it. -/
theorem sent_execute {body : String} (ready : reply ≠ .unavailable)
    (written : body? request = some body) :
    (client.execute now request reply).1.sent = some (client.transfer now request body) := by
  simp only [execute_of_ready ready, written, send]
  split <;> rfl

/-- The url that a `GET` is sent to is its own url, and behind it a query that is read as exactly
its parameters, in order and with those given twice, whatever octets they hold. -/
theorem url_carries_parameters (client : RestClient) (now : Int) (get : request.method = .get)
    (noNul : '\x00' ∉ request.url.toList) (ready : reply ≠ .unavailable) :
    ∃ sent, (client.execute now request reply).1.sent = some sent ∧
      Query.Carries request.url request.params sent.url := by
  have written : body? request = some "" := by rw [body?, get]
  refine ⟨_, sent_execute ready written, ?_⟩
  have whole : '\x00' ∉ (request.url ++ Query.render request.params).toList := by
    rw [String.toList_append, List.mem_append, not_or]
    exact ⟨noNul, Query.nul_not_mem_render request.params⟩
  have url : (client.transfer now request "").url = request.url ++ Query.render request.params := by
    rw [transfer, fullUrl, get, beforeNul_of_not_mem whole]
  rw [url]
  exact Query.carries_render request.url request.params

/-- A request with separators, percent signs and NUL in its parameters; one of them is empty, and
one name is given twice. -/
def separatorRequest : Request where
  url := "https://rest.test/p"
  params :=
    [(Octets.ofText "a&b=", [0x00, 0xff]), ([], []), (Octets.ofText "a&b=", Octets.ofText "%#?/+")]

/-- Its url carries them, with every separator among them escaped. -/
theorem url_carries_parameters_separators :
    ∃ sent, (execute {} 0 separatorRequest (.answered 200 [])).1.sent = some sent ∧
      sent.url = "https://rest.test/p?a%26b%3D=%00%FF&=&a%26b%3D=%25%23%3F%2F%2B" ∧
      Query.Carries "https://rest.test/p" separatorRequest.params sent.url := by
  have ready : TransferReply.answered 200 [] ≠ .unavailable := nofun
  have noNul : '\x00' ∉ separatorRequest.url.toList := by decide +kernel
  obtain ⟨sent, same, carries⟩ := url_carries_parameters {} 0 rfl noNul ready
  cases (sent_execute ready rfl).symm.trans same
  exact ⟨_, same, by decide +kernel, carries⟩

end RestClient

end SwapFeed
