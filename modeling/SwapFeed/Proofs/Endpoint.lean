import SwapFeed.Endpoint
import SwapFeed.Proofs.Text.Split

/-!
# Endpoints and their urls

A url gives an endpoint in parts.  Its port may be left out if it is the one that the scheme
implies and the host has no colon, and its target if it is a lone slash.  The reader accepts the
urls that give a well-formed endpoint and no others, so the full form of an endpoint is read back as
it is.
-/

namespace SwapFeed.Endpoint

open SwapFeed.Text

/-- The parts that a websocket url can have. -/
structure WellFormed (endpoint : Endpoint) : Prop where
  scheme : endpoint.scheme = "wss" ∨ endpoint.scheme = "ws"
  host : endpoint.host ≠ "" ∧ '/' ∉ endpoint.host.toList
  port : endpoint.port ≠ "" ∧ '/' ∉ endpoint.port.toList ∧ ':' ∉ endpoint.port.toList
  target : endpoint.target.toList.head? = some '/'

instance (endpoint : Endpoint) : Decidable endpoint.WellFormed :=
  decidable_of_iff ((endpoint.scheme = "wss" ∨ endpoint.scheme = "ws") ∧
      (endpoint.host ≠ "" ∧ '/' ∉ endpoint.host.toList) ∧
      (endpoint.port ≠ "" ∧ '/' ∉ endpoint.port.toList ∧ ':' ∉ endpoint.port.toList) ∧
      endpoint.target.toList.head? = some '/')
    ⟨fun ⟨scheme, host, port, target⟩ => ⟨scheme, host, port, target⟩,
      fun ⟨scheme, host, port, target⟩ => ⟨scheme, host, port, target⟩⟩

/-- The port that is meant where none is given. -/
def impliedPort (scheme : String) : String := if scheme = "wss" then "443" else "80"

/-- The text between the scheme and the target. -/
inductive WritesAuthority (endpoint : Endpoint) : String → Prop where
  | full : WritesAuthority endpoint (endpoint.host ++ ":" ++ endpoint.port)
  | portless (plain : ':' ∉ endpoint.host.toList)
      (implied : endpoint.port = impliedPort endpoint.scheme) :
      WritesAuthority endpoint endpoint.host

/-- The text behind the authority. -/
inductive WritesTarget (endpoint : Endpoint) : String → Prop where
  | full : WritesTarget endpoint endpoint.target
  | bare (root : endpoint.target = "/") : WritesTarget endpoint ""

/-- A url gives an endpoint. -/
def WrittenIn (endpoint : Endpoint) (url : String) : Prop :=
  ∃ authority target, endpoint.WritesAuthority authority ∧ endpoint.WritesTarget target ∧
    url = endpoint.scheme ++ "://" ++ authority ++ target

/-! ## Authority and target -/

section Parts

variable {scheme authority target host port rest : List Char}

theorem authorityAndTarget_eq_iff :
    authorityAndTarget rest = (authority, target) ↔
      '/' ∉ authority ∧ target.head? = some '/' ∧
        (rest = authority ++ target ∨ target = ['/'] ∧ rest = authority) := by
  rw [authorityAndTarget]
  constructor
  · intro split
    split at split
    · next before behind found =>
        cases split
        obtain ⟨rfl, absent⟩ := splitFirst?_eq_some_iff.mp found
        exact ⟨absent, rfl, .inl rfl⟩
    · next none =>
        cases split
        exact ⟨splitFirst?_eq_none_iff.mp none, rfl, .inr ⟨rfl, rfl⟩⟩
  · rintro ⟨absent, starts, rfl | ⟨rfl, rfl⟩⟩
    · obtain ⟨later, rfl⟩ := List.head?_eq_some_iff.mp starts
      rw [splitFirst?_append absent]
    · rw [splitFirst?_eq_none absent]

theorem isColon_eq_false_iff {chars : List Char} :
    (∀ char ∈ chars, decide (char = ':') = false) ↔ ':' ∉ chars := by
  simp [List.forall_mem_ne']

theorem hostAndPort_eq_iff :
    hostAndPort scheme authority = (host, port) ↔
      (authority = host ++ ':' :: port ∧ ':' ∉ port) ∨
        (authority = host ∧ ':' ∉ host ∧ port = defaultPort scheme) := by
  rw [hostAndPort]
  constructor
  · intro split
    cases found : splitLast? (· = ':') authority with
    | some parts =>
        rw [found] at split
        cases split
        obtain ⟨mark, rfl, holds, absent⟩ := splitLast?_eq_some_iff.mp found
        rw [of_decide_eq_true holds]
        exact .inl ⟨rfl, isColon_eq_false_iff.mp absent⟩
    | none =>
        rw [found] at split
        cases split
        exact .inr ⟨rfl, isColon_eq_false_iff.mp (splitLast?_eq_none_iff.mp found), rfl⟩
  · rintro (⟨rfl, absent⟩ | ⟨rfl, absent, rfl⟩)
    · rw [splitLast?_append host (by simp) (isColon_eq_false_iff.mpr absent)]
      rfl
    · rw [splitLast?_eq_none (isColon_eq_false_iff.mpr absent)]
      rfl

end Parts

/-! ## Urls -/

variable {url : String} {endpoint : Endpoint}

theorem toList_eq_iff_wss {scheme : String} :
    scheme.toList = ['w', 's', 's'] ↔ scheme = "wss" := by
  rw [← String.toList_inj]
  rfl

theorem toList_eq_iff_ws {scheme : String} : scheme.toList = ['w', 's'] ↔ scheme = "ws" := by
  rw [← String.toList_inj]
  rfl

theorem toList_impliedPort (scheme : String) :
    (impliedPort scheme).toList = defaultPort scheme.toList := by
  rw [impliedPort, defaultPort, apply_ite String.toList]
  simp only [toList_eq_iff_wss]
  rfl

/-- The reader cuts a url at its marks, and refuses a scheme of another kind and empty parts. -/
theorem parse_eq_ok_iff_cut :
    parse url = .ok endpoint ↔
      ∃ authority rest, url.toList = endpoint.scheme.toList ++ schemeMark ++ rest ∧
        (endpoint.scheme = "wss" ∨ endpoint.scheme = "ws") ∧
        authorityAndTarget rest = (authority, endpoint.target.toList) ∧
        hostAndPort endpoint.scheme.toList authority =
          (endpoint.host.toList, endpoint.port.toList) ∧
        endpoint.host ≠ "" ∧ endpoint.port ≠ "" := by
  constructor
  · intro read
    rw [parse] at read
    split at read
    next => cases read
    next scheme rest found =>
      split at read
      next supported =>
        split at read
        next authority target cut =>
        split at read
        next host port split =>
        split at read
        next => cases read
        next nonempty =>
          cases read
          rw [Bool.not_eq_true, Bool.or_eq_false_iff, List.isEmpty_eq_false_iff,
            List.isEmpty_eq_false_iff] at nonempty
          refine ⟨authority, rest, ?_, ?_, ?_, ?_, ?_, ?_⟩
          · simpa using append_of_splitInfix? found
          · rcases supported with rfl | rfl
            · exact .inl rfl
            · exact .inr rfl
          · simpa using cut
          · simpa using split
          · simpa using nonempty.1
          · simpa using nonempty.2
      next => cases read
  · rintro ⟨authority, rest, written, supported, cut, split, host, port⟩
    have plain : ':' ∉ endpoint.scheme.toList := by
      rcases supported with same | same
      · rw [same]
        decide
      · rw [same]
        decide
    rw [← toList_eq_iff_wss, ← toList_eq_iff_ws] at supported
    have found : splitInfix? schemeMark url.toList = some (endpoint.scheme.toList, rest) := by
      rw [written]
      exact splitInfix?_append ['/', '/'] plain rest
    simp [parse, found, supported, cut, split, host, port]

theorem writesAuthority_iff {authority : String} :
    endpoint.WritesAuthority authority ↔
      authority.toList = endpoint.host.toList ++ ':' :: endpoint.port.toList ∨
        authority.toList = endpoint.host.toList ∧ ':' ∉ endpoint.host.toList ∧
          endpoint.port.toList = defaultPort endpoint.scheme.toList := by
  constructor
  · intro writes
    cases writes with
    | full => exact .inl (by simp)
    | portless plain implied => exact .inr ⟨rfl, plain, by rw [implied, toList_impliedPort]⟩
  · rintro (full | ⟨bare, plain, implied⟩)
    · have same : authority = endpoint.host ++ ":" ++ endpoint.port := by
        rw [← String.toList_inj, full]
        simp
      exact same ▸ .full
    · rw [← toList_impliedPort, String.toList_inj] at implied
      rw [String.toList_inj] at bare
      exact bare ▸ .portless plain implied

theorem writesTarget_iff {target : String} :
    endpoint.WritesTarget target ↔
      target.toList = endpoint.target.toList ∨
        endpoint.target.toList = ['/'] ∧ target.toList = [] := by
  constructor
  · intro writes
    cases writes with
    | full => exact .inl rfl
    | bare root => exact .inr ⟨by rw [root]; rfl, rfl⟩
  · rintro (full | ⟨root, bare⟩)
    · exact String.toList_inj.mp full ▸ .full
    · rw [String.toList_eq_nil_iff] at bare
      exact bare ▸ .bare (String.toList_inj.mp root)

theorem defaultPort_plain (scheme : List Char) :
    '/' ∉ defaultPort scheme ∧ ':' ∉ defaultPort scheme := by
  rw [defaultPort]
  split <;> decide

/-- The reader accepts a url exactly if it gives a well-formed endpoint, and returns that one. -/
theorem parse_eq_ok_iff :
    parse url = .ok endpoint ↔ endpoint.WellFormed ∧ endpoint.WrittenIn url := by
  rw [parse_eq_ok_iff_cut]
  constructor
  · rintro ⟨authority, rest, written, scheme, cut, split, host, port⟩
    obtain ⟨slashless, starts, behind⟩ := authorityAndTarget_eq_iff.mp cut
    have parts := hostAndPort_eq_iff.mp split
    have writes : endpoint.WritesAuthority (String.ofList authority) := by
      rw [writesAuthority_iff, String.toList_ofList]
      exact parts.imp And.left id
    refine ⟨⟨scheme, ⟨host, ?_⟩, ⟨port, ?_⟩, starts⟩, ?_⟩
    · rcases parts with ⟨rfl, -⟩ | ⟨rfl, -⟩
      · exact fun member => slashless (List.mem_append_left _ member)
      · exact slashless
    · rcases parts with ⟨rfl, colonless⟩ | ⟨-, -, implied⟩
      · exact ⟨fun member => slashless (by simp [member]), colonless⟩
      · rw [implied]
        exact defaultPort_plain _
    · rcases behind with rfl | ⟨root, rfl⟩
      · refine ⟨_, _, writes, .full, ?_⟩
        rw [← String.toList_inj, written]
        simp [schemeMark]
      · refine ⟨_, _, writes, .bare (String.toList_inj.mp root), ?_⟩
        rw [← String.toList_inj, written]
        simp [schemeMark]
  · rintro ⟨wellFormed, authority, target, writesAuthority, writesTarget, rfl⟩
    rw [writesAuthority_iff] at writesAuthority
    rw [writesTarget_iff] at writesTarget
    have colonless := wellFormed.port.2.2
    refine ⟨authority.toList, authority.toList ++ target.toList, by simp [schemeMark],
      wellFormed.scheme, ?_, ?_, wellFormed.host.1, wellFormed.port.1⟩
    · rw [authorityAndTarget_eq_iff]
      refine ⟨?_, wellFormed.target, ?_⟩
      · rcases writesAuthority with full | ⟨portless, -, -⟩
        · rw [full]
          simp [wellFormed.host.2, wellFormed.port.2.1]
        · rw [portless]
          exact wellFormed.host.2
      · rcases writesTarget with full | ⟨root, bare⟩
        · exact .inl (by rw [full])
        · exact .inr ⟨root, by rw [bare, List.append_nil]⟩
    · rw [hostAndPort_eq_iff]
      exact writesAuthority.imp (⟨·, colonless⟩) id

theorem WellFormed.withImpliedPort (wellFormed : endpoint.WellFormed) :
    WellFormed { endpoint with port := impliedPort endpoint.scheme } := by
  have nonempty : impliedPort endpoint.scheme ≠ "" := by
    rw [impliedPort]
    split <;> decide
  have plain := defaultPort_plain endpoint.scheme.toList
  rw [← toList_impliedPort] at plain
  exact ⟨wellFormed.scheme, wellFormed.host, ⟨nonempty, plain⟩, wellFormed.target⟩

theorem WellFormed.parse_render (wellFormed : endpoint.WellFormed) :
    parse endpoint.render = .ok endpoint := by
  refine parse_eq_ok_iff.mpr ⟨wellFormed, _, _, .full, .full, ?_⟩
  rw [render]
  simp [String.append_assoc]

/-- Reading and writing an endpoint undo each other.  A url that is read gives a well-formed
endpoint, whose full form is read back as the same one, and the full form of every well-formed
endpoint is read back as it is.  A host without a colon may do without its port, and then has the
port that its scheme implies.  No other urls are read. -/
theorem full_form_read_back :
    (∀ url, (∃ error, parse url = .error error) ∨
      ∃ endpoint, parse url = .ok endpoint ∧ endpoint.WellFormed ∧
        parse endpoint.render = .ok endpoint) ∧
    (∀ endpoint : Endpoint, endpoint.WellFormed → parse endpoint.render = .ok endpoint) ∧
    (∀ (endpoint : Endpoint) (target : String), endpoint.WellFormed →
      ':' ∉ endpoint.host.toList → endpoint.WritesTarget target →
      parse (endpoint.scheme ++ "://" ++ endpoint.host ++ target) =
        .ok { endpoint with port := impliedPort endpoint.scheme }) ∧
    (∀ (url : String) (endpoint : Endpoint),
      parse url = .ok endpoint ↔ endpoint.WellFormed ∧ endpoint.WrittenIn url) := by
  refine ⟨?_, fun endpoint wellFormed => wellFormed.parse_render, ?_,
    fun url endpoint => parse_eq_ok_iff⟩
  · intro url
    cases read : parse url with
    | error error => exact .inl ⟨error, rfl⟩
    | ok endpoint =>
        have wellFormed := (parse_eq_ok_iff.mp read).1
        exact .inr ⟨endpoint, rfl, wellFormed, wellFormed.parse_render⟩
  · intro endpoint target wellFormed plain writes
    have portless := wellFormed.withImpliedPort
    refine parse_eq_ok_iff.mpr ⟨portless, _, target, .portless plain rfl, ?_, rfl⟩
    cases writes with
    | full => exact .full
    | bare root => exact .bare root

/-- The last colon of an authority stands in front of the port, and all slashes behind the first one
belong to the target.  Port and target may be missing together. -/
theorem full_form_read_back_colons :
    parse "wss://a:b:8443//x:y" = .ok ⟨"wss", "a:b", "8443", "//x:y"⟩ ∧
      parse "ws://localhost" = .ok ⟨"ws", "localhost", "80", "/"⟩ := by
  have colons : WellFormed ⟨"wss", "a:b", "8443", "//x:y"⟩ := by decide +kernel
  have plain : WellFormed ⟨"ws", "localhost", "8080", "/"⟩ := by decide +kernel
  obtain ⟨-, full, portless, -⟩ := full_form_read_back
  exact ⟨full _ colons, portless _ "" plain (by decide +kernel) (.bare rfl)⟩

end SwapFeed.Endpoint
