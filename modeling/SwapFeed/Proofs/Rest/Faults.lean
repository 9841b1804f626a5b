import SwapFeed.Proofs.Rest.Reply
import SwapFeed.Proofs.Stream.WellFormed
import SwapFeed.Rest.Queries

/-!
# What is wrong with a reply

A reply goes through three readers: its body is opened, its first row is found, and fields are read
off that row.  For each of them one relation says what it accepts and another what it finds fault
with, and every reader agrees with its two relations.
-/

namespace SwapFeed

/-! ## Integers -/

/-- An integer of any size stands as such or as text. -/
inductive Json.SpellsInteger : Json → Int → Prop where
  | text {text : String} {count : Int} (numeral : Text.integer? text.toList = some count) :
      SpellsInteger (.text text) count
  | int (count : Int) : SpellsInteger (.int count) count

theorem Json.SpellsInteger.unique {value : Json} {count other : Int}
    (spells : value.SpellsInteger count) (again : value.SpellsInteger other) : other = count := by
  cases spells with
  | text numeral =>
      cases again with
      | text otherNumeral => exact Option.some.inj (otherNumeral.symm.trans numeral)
  | int => cases again; rfl

/-- An integer that fits 64 bits stands as such or as text. -/
def Json.WritesInt64 (value : Json) (count : Int) : Prop :=
  value.SpellsInteger count ∧ Text.fitsInt64 count = true

namespace Reply

open SwapFeed.Json SwapFeed.Text

variable {what : String} {value row reply : Json} {error : QueryError}

/-! ## Bodies -/

/-- A code means success: it is the text `0` or any value that is written `0`. -/
def MeansSuccess (code : Json) : Prop := code = .text success ∨ code.render = success

theorem codeText_eq_success_iff {code : Json} : codeText code = success ↔ MeansSuccess code := by
  cases code with
  | text content =>
      have quoted : (Json.text content).render ≠ success := by
        intro same
        have first := congrArg (·.toList.head?) same
        simp [render, quote, success] at first
      simp [codeText, MeansSuccess, quoted]
  | _ => simp [codeText, MeansSuccess]

/-- The exchange refuses a request with a code. -/
structure Refuses (reply code : Json) : Prop where
  member : reply.get? "code" = some code
  noSuccess : ¬MeansSuccess code

/-- A body writes an object without a code that refuses the request. -/
structure Grants (body : String) (reply : Json) : Prop where
  parsed : ∃ members, Json.parse .reply body = some (.object members) ∧ reply = .object members
  unrefused : ∀ code, ¬Refuses reply code

theorem Grants.unique {body : String} {other : Json} (grants : Grants body reply)
    (again : Grants body other) : other = reply := by
  obtain ⟨members, parsed, rfl⟩ := grants.parsed
  obtain ⟨others, parsedToo, rfl⟩ := again.parsed
  cases parsed.symm.trans parsedToo
  rfl

/-- What is wrong with a body. -/
inductive Spoils (what body : String) : QueryError → Prop where
  | notObject (shapeless : ∀ members, Json.parse .reply body ≠ some (.object members)) :
      Spoils what body (.notObject what)
  | refused {members : List (String × Json)} {code : Json}
      (parsed : Json.parse .reply body = some (.object members))
      (refuses : Refuses (.object members) code)
      (silent : (Json.object members).get? "msg" = none) :
      Spoils what body (.refused what (codeText code) "")
  | explained {members : List (String × Json)} {code : Json} {message : String}
      (parsed : Json.parse .reply body = some (.object members))
      (refuses : Refuses (.object members) code)
      (told : (Json.object members).get? "msg" = some (.text message)) :
      Spoils what body (.refused what (codeText code) message)
  /-- The explanation of a refusal is no text. -/
  | garbled {members : List (String × Json)} {code explanation : Json}
      (parsed : Json.parse .reply body = some (.object members))
      (refuses : Refuses (.object members) code)
      (told : (Json.object members).get? "msg" = some explanation)
      (notText : ∀ message, explanation ≠ .text message) :
      Spoils what body .unreadableRefusal

theorem checkCode_eq_ok_iff {granted : Unit} :
    checkCode what reply = .ok granted ↔ ∀ code, ¬Refuses reply code := by
  rw [checkCode]
  cases found : reply.get? "code" with
  | none =>
      refine iff_of_true rfl fun code refuses => ?_
      cases found.symm.trans refuses.member
  | some code =>
      by_cases zero : codeText code = success
      · refine iff_of_true (if_pos zero) fun other refuses => ?_
        cases found.symm.trans refuses.member
        exact refuses.noSuccess (codeText_eq_success_iff.mp zero)
      · have refuses : Refuses reply code :=
          ⟨found, fun means => zero (codeText_eq_success_iff.mpr means)⟩
        refine iff_of_false ?_ fun unrefused => unrefused code refuses
        simp only [if_neg zero]
        cases reply.get? "msg" with
        | none => nofun
        | some explanation => cases explanation <;> nofun

theorem ofBody_of_parsed {body : String} {members : List (String × Json)}
    (parsed : Json.parse .reply body = some (.object members)) :
    ofBody what body = (checkCode what (.object members)).map fun _ => .object members := by
  simp only [ofBody, parsed]
  cases checkCode what (.object members) <;> rfl

theorem ofBody_of_shapeless {body : String}
    (shapeless : ∀ members, Json.parse .reply body ≠ some (.object members)) :
    ofBody what body = .error (.notObject what) := by
  rw [ofBody]
  split
  · next members parsed => exact (shapeless members parsed).elim
  · rfl

theorem ofBody_eq_ok_iff {body : String} : ofBody what body = .ok reply ↔ Grants body reply := by
  constructor
  · intro opened
    by_cases parsed : ∃ members, Json.parse .reply body = some (.object members)
    · rcases parsed with ⟨members, parsed⟩
      rw [ofBody_of_parsed parsed, map_eq_ok_iff] at opened
      rcases opened with ⟨granted, checked, rfl⟩
      exact ⟨⟨members, parsed, rfl⟩, checkCode_eq_ok_iff.mp checked⟩
    · rw [ofBody_of_shapeless fun members found => parsed ⟨members, found⟩] at opened
      cases opened
  · intro grants
    rcases grants with ⟨⟨members, parsed, rfl⟩, unrefused⟩
    rw [ofBody_of_parsed parsed, map_eq_ok_iff]
    exact ⟨(), checkCode_eq_ok_iff.mpr unrefused, rfl⟩

theorem Spoils.ofBody_eq {body : String} (spoils : Spoils what body error) :
    ofBody what body = .error error := by
  have notZero : ∀ {reply code}, Refuses reply code → codeText code ≠ success :=
    fun refuses zero => refuses.noSuccess (codeText_eq_success_iff.mp zero)
  cases spoils with
  | notObject shapeless => exact ofBody_of_shapeless shapeless
  | refused parsed refuses silent =>
      rw [ofBody_of_parsed parsed, checkCode]
      simp only [refuses.member, if_neg (notZero refuses), silent]
      rfl
  | explained parsed refuses told =>
      rw [ofBody_of_parsed parsed, checkCode]
      simp only [refuses.member, if_neg (notZero refuses), told]
      rfl
  | @garbled members code explanation parsed refuses told notText =>
      rw [ofBody_of_parsed parsed, checkCode]
      simp only [refuses.member, if_neg (notZero refuses), told]
      cases explanation with
      | text message => exact (notText message rfl).elim
      | _ => rfl

/-- Every body is granted or spoilt. -/
theorem exists_grants_or_spoils (what body : String) :
    (∃ reply, Grants body reply) ∨ ∃ error, Spoils what body error := by
  by_cases parsed : ∃ members, Json.parse .reply body = some (.object members)
  · rcases parsed with ⟨members, parsed⟩
    by_cases refused : ∃ code, Refuses (.object members) code
    · right
      rcases refused with ⟨code, refuses⟩
      cases told : (Json.object members).get? "msg" with
      | none => exact ⟨_, .refused parsed refuses told⟩
      | some explanation =>
          cases explanation with
          | text message => exact ⟨_, .explained parsed refuses told⟩
          | _ => exact ⟨_, .garbled parsed refuses told (by simp)⟩
    · left
      exact ⟨.object members, ⟨members, parsed, rfl⟩, fun code refuses => refused ⟨code, refuses⟩⟩
  · right
    exact ⟨_, .notObject fun members found => parsed ⟨members, found⟩⟩

theorem ofBody_eq_error_iff {body : String} :
    ofBody what body = .error error ↔ Spoils what body error := by
  constructor
  · intro failed
    rcases exists_grants_or_spoils what body with ⟨reply, grants⟩ | ⟨other, spoils⟩
    · cases failed.symm.trans (ofBody_eq_ok_iff.mpr grants)
    · cases failed.symm.trans spoils.ofBody_eq
      exact spoils
  · exact Spoils.ofBody_eq

/-! ## Rows -/

/-- The data of a reply start with a row, and the row is an object. -/
def Leads (reply row : Json) : Prop :=
  ∃ members further, reply.get? "data" = some (.array (row :: further)) ∧ row = .object members

theorem Leads.unique {other : Json} (leads : Leads reply row) (again : Leads reply other) :
    other = row := by
  rcases leads with ⟨members, further, data, rfl⟩
  rcases again with ⟨others, rest, dataToo, rfl⟩
  cases data.symm.trans dataToo
  rfl

theorem firstRow_eq_ok_iff : firstRow what reply = .ok row ↔ Leads reply row := by
  constructor
  · intro found
    rw [firstRow] at found
    split at found
    · next members further data =>
        cases found
        exact ⟨members, further, data, rfl⟩
    · cases found
  · intro leads
    rcases leads with ⟨members, further, data, rfl⟩
    simp only [firstRow, data]

theorem firstRow_eq_error_iff :
    firstRow what reply = .error error ↔ error = .noRow what ∧ ∀ row, ¬Leads reply row := by
  constructor
  · intro failed
    have rowless : ∀ row, ¬Leads reply row := by
      intro row leads
      cases failed.symm.trans (firstRow_eq_ok_iff.mpr leads)
    refine ⟨?_, rowless⟩
    rw [firstRow] at failed
    split at failed
    · cases failed
    · cases failed
      rfl
  · intro rowless
    rcases rowless with ⟨rfl, rowless⟩
    rw [firstRow]
    split
    · next members further data => exact (rowless _ ⟨members, further, data, rfl⟩).elim
    · rfl

/-! ## Fields -/

/-- A value writes no number. -/
inductive BadNumber (what : String) (value : Json) : QueryError → Prop where
  | unwritten (none : ∀ number, ¬value.WritesNumber number) :
      BadNumber what value (.notNumeric what value.render)

/-- A value spells no integer, or one that does not fit 64 bits. -/
inductive BadInteger (what : String) (value : Json) : QueryError → Prop where
  | unspelled (none : ∀ count, ¬value.SpellsInteger count) :
      BadInteger what value (.notInteger what value.render)
  | tooLarge {count : Int} (spells : value.SpellsInteger count)
      (overflows : fitsInt64 count = false) : BadInteger what value (.outOfRange what value.render)

theorem double_eq_error_iff : double what value = .error error ↔ BadNumber what value error := by
  constructor
  · intro failed
    have unwritten : ∀ number, ¬value.WritesNumber number := by
      intro number writes
      cases failed.symm.trans (double_eq_ok_iff.mpr writes)
    rw [double_eq_mapError what what] at failed
    cases read : Field.double value what with
    | ok number =>
        rw [read] at failed
        cases failed
    | error reason =>
        rw [read] at failed
        cases failed
        exact .unwritten unwritten
  · intro bad
    cases bad with
    | unwritten none =>
        rw [double_eq_mapError what what]
        cases read : Field.double value what with
        | ok number => exact (none number (Field.double_eq_ok_iff.mp read)).elim
        | error reason => rfl

theorem integer_of_spells {count : Int} (spells : value.SpellsInteger count) :
    integer what value =
      if fitsInt64 count then .ok count else .error (.outOfRange what value.render) := by
  cases spells with
  | text numeral => simp only [integer, numeral]
  | int => rfl

theorem integer_of_unspelled (unspelled : ∀ count, ¬value.SpellsInteger count) :
    integer what value = .error (.notInteger what value.render) := by
  cases value with
  | text content =>
      simp only [integer]
      split
      · next count numeral => exact (unspelled count (.text numeral)).elim
      · rfl
  | int count => exact (unspelled count (.int count)).elim
  | _ => rfl

theorem integer_eq_ok_iff {count : Int} :
    integer what value = .ok count ↔ value.WritesInt64 count := by
  by_cases spelled : ∃ other, value.SpellsInteger other
  · rcases spelled with ⟨other, spells⟩
    rw [integer_of_spells spells]
    constructor
    · intro read
      split at read
      · next fits =>
          cases read
          exact ⟨spells, fits⟩
      · cases read
    · intro written
      rcases written with ⟨again, fits⟩
      cases spells.unique again
      exact if_pos fits
  · rw [integer_of_unspelled fun other spells => spelled ⟨other, spells⟩]
    exact iff_of_false nofun fun written => spelled ⟨count, written.1⟩

theorem integer_eq_error_iff : integer what value = .error error ↔ BadInteger what value error := by
  by_cases spelled : ∃ count, value.SpellsInteger count
  · rcases spelled with ⟨count, spells⟩
    rw [integer_of_spells spells]
    constructor
    · intro failed
      split at failed
      · cases failed
      · next overflows =>
          cases failed
          exact .tooLarge spells (Bool.eq_false_iff.mpr overflows)
    · intro bad
      cases bad with
      | unspelled none => exact (none count spells).elim
      | tooLarge again overflows =>
          cases spells.unique again
          simp [overflows]
  · have unspelled : ∀ count, ¬value.SpellsInteger count :=
      fun count spells => spelled ⟨count, spells⟩
    rw [integer_of_unspelled unspelled]
    constructor
    · intro failed
      cases failed
      exact .unspelled unspelled
    · intro bad
      cases bad with
      | unspelled => rfl
      | tooLarge spells => exact (unspelled _ spells).elim

/-- A field of a row is missing, or there is something wrong with its value. -/
inductive BadField (what : String) (row : Json) (key : String)
    (bad : Json → QueryError → Prop) : QueryError → Prop where
  | missing (absent : row.get? key = none) : BadField what row key bad (.missing what key)
  | misread {value : Json} {error : QueryError} (member : row.get? key = some value)
      (faulty : bad value error) : BadField what row key bad error

theorem field_eq_error_iff {key : String} :
    field what row key = .error error ↔ error = .missing what key ∧ row.get? key = none := by
  rw [field]
  cases row.get? key with
  | none => simp [eq_comm]
  | some value => simp

section Read

variable {α : Type} {key : String} {read : Json → Except QueryError α}

theorem read_eq_ok_iff {writes : Json → α → Prop} {result : α}
    (reads : ∀ value, read value = .ok result ↔ writes value result) :
    (field what row key >>= read) = .ok result ↔ row.Has key (writes · result) := by
  simp only [bind_eq_ok_iff, field_eq_ok_iff, reads]
  rfl

theorem read_eq_error_iff {bad : Json → QueryError → Prop}
    (fails : ∀ value, read value = .error error ↔ bad value error) :
    (field what row key >>= read) = .error error ↔ BadField what row key bad error := by
  simp only [bind_eq_error_iff, field_eq_ok_iff, field_eq_error_iff, fails]
  constructor
  · intro failed
    rcases failed with ⟨rfl, absent⟩ | ⟨value, member, faulty⟩
    · exact .missing absent
    · exact .misread member faulty
  · intro bad
    cases bad with
    | missing absent => exact .inl ⟨rfl, absent⟩
    | misread member faulty => exact .inr ⟨_, member, faulty⟩

end Read

end Reply

/-! ## Answers -/

/-- A request is answered with a body that is granted and leads with a row. -/
def Answerer.Delivers (answer : Answerer) (request : Request) (row : Json) : Prop :=
  ∃ body reply, answer request = .ok body ∧ Reply.Grants body reply ∧ Reply.Leads reply row

theorem bodyOf_eq_ok_iff {answer : Except String String} {body : String} :
    bodyOf answer = .ok body ↔ answer = .ok body :=
  mapError_eq_ok_iff

theorem bodyOf_eq_error_iff {answer : Except String String} {error : QueryError} :
    bodyOf answer = .error error ↔ ∃ reason, answer = .error reason ∧ error = .transport reason := by
  cases answer with
  | error reason => simp [bodyOf, Except.mapError, eq_comm]
  | ok body => simp [bodyOf, Except.mapError]

end SwapFeed
