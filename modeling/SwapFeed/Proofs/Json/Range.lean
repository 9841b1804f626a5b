import SwapFeed.Json.Reader
import SwapFeed.Proofs.Json.Members

/-!
# Numbers in a JSON value

A text that is JSON writes no number that is out of range: its integers have 64 bits, and its other
numbers are finite.  Both dialects make sure of that where a number is read, so it holds of every
value that a text writes, by induction on the reader.
-/

namespace SwapFeed.Json

/-- All integers of a value have 64 bits, and its other numbers are finite. -/
inductive InRange : Json → Prop
  | null : InRange .null
  | bool (value : Bool) : InRange (.bool value)
  | int {value : Int} (fits : fitsWord value = true) : InRange (.int value)
  | real {value : Double} (finite : value.isFinite = true) : InRange (.real value)
  | text (value : String) : InRange (.text value)
  | array {items : List Json} (inRange : ∀ item ∈ items, InRange item) : InRange (.array items)
  | object {members : List (String × Json)} (inRange : ∀ member ∈ members, InRange member.2) :
      InRange (.object members)

namespace InRange

theorem of_memberOf {members : List (String × Json)} {key : String} {value : Json}
    (inRange : ∀ member ∈ members, InRange member.2) (found : memberOf key members = some value) :
    InRange value := by
  induction members with
  | nil => cases found
  | cons member rest step =>
      obtain ⟨here, later⟩ := List.forall_mem_cons.mp inRange
      rw [memberOf] at found
      split at found
      · cases found
        exact here
      · exact step later found

theorem of_get? {parent value : Json} (inRange : parent.InRange) {key : String}
    (found : parent.get? key = some value) : value.InRange := by
  cases inRange with
  | @object members inRange =>
      cases member : memberOf key members with
      | none => simp [get?, lookup, member, Except.toOption] at found
      | some other =>
          simp only [get?, lookup, member, Except.toOption, Option.some.injEq] at found
          exact of_memberOf inRange (found ▸ member)
  | _ => cases found

theorem of_mem {items : List Json} {item : Json} (inRange : (Json.array items).InRange)
    (member : item ∈ items) : item.InRange := by
  cases inRange with
  | array inRange => exact inRange item member

end InRange

/-! ## Dialects -/

/-- A dialect that reads no number out of range, and makes up no members. -/
structure Dialect.KeepsRange (dialect : Dialect) : Prop where
  integer : ∀ negative digits value, dialect.integer negative digits = some value → value.InRange
  members : ∀ members, (∀ member ∈ members, InRange member.2) →
    ∀ member ∈ dialect.members members, InRange member.2

theorem Dialect.stream_keepsRange : Dialect.stream.KeepsRange where
  integer := by
    intro negative digits value read
    simp only [Dialect.stream] at read
    split at read
    · next fits =>
        cases read
        exact .int fits
    · cases read
  members := fun _ inRange => inRange

theorem Dialect.reply_keepsRange : Dialect.reply.KeepsRange where
  integer := by
    intro negative digits value read
    simp only [Dialect.reply] at read
    split at read
    · next fits =>
        cases read
        exact .int fits
    · split at read
      · next finite =>
          cases read
          exact .real finite
      · cases read
  members := fun _ inRange member kept => inRange member (mem_lastWritten_iff.mp kept).mem

/-! ## The reader -/

section Reader

variable {dialect : Dialect}

theorem inRange_of_readNumber? (keeps : dialect.KeepsRange) {chars rest : List Char} {value : Json}
    (read : readNumber? dialect chars = some (value, rest)) : value.InRange := by
  simp only [readNumber?, Option.bind_eq_bind, Option.bind_eq_some_iff] at read
  rcases read with ⟨whole, -, fraction, -, exponent, -, read⟩
  split at read
  · obtain ⟨number, literal, same⟩ := Option.bind_eq_some_iff.mp read
    cases same
    exact keeps.integer _ _ _ literal
  · split at read
    · next finite =>
        cases read
        exact .real finite
    · cases read

/-- With so much fuel, whatever is read is in range. -/
structure ReadsInRange (dialect : Dialect) (fuel : Nat) : Prop where
  value : ∀ {depth chars value rest},
    readValue? dialect fuel depth chars = some (value, rest) → value.InRange
  items : ∀ {depth chars items rest},
    readItems? dialect fuel depth chars = some (items, rest) → ∀ item ∈ items, item.InRange
  members : ∀ {depth chars members rest},
    readMembers? dialect fuel depth chars = some (members, rest) →
      ∀ member ∈ members, InRange member.2

section Step

variable {fuel : Nat} {depth : Option Nat} {chars rest : List Char}

theorem inRange_of_readValue? (keeps : dialect.KeepsRange) (step : ReadsInRange dialect fuel)
    {value : Json} (read : readValue? dialect (fuel + 1) depth chars = some (value, rest)) :
    value.InRange := by
  rw [readValue?] at read
  split at read
  · split at read
    · cases read
      exact .object (by simp)
    · split at read
      · cases read
      · obtain ⟨found, inside, same⟩ := Option.map_eq_some_iff.mp read
        cases same
        exact .object (keeps.members _ (step.members inside))
  · split at read
    · cases read
      exact .array (by simp)
    · split at read
      · cases read
      · obtain ⟨found, inside, same⟩ := Option.map_eq_some_iff.mp read
        cases same
        exact .array (step.items inside)
  · obtain ⟨found, -, same⟩ := Option.map_eq_some_iff.mp read
    cases same
    exact .text _
  · obtain ⟨found, -, same⟩ := Option.map_eq_some_iff.mp read
    cases same
    exact .bool true
  · obtain ⟨found, -, same⟩ := Option.map_eq_some_iff.mp read
    cases same
    exact .bool false
  · obtain ⟨found, -, same⟩ := Option.map_eq_some_iff.mp read
    cases same
    exact .null
  · exact inRange_of_readNumber? keeps read

theorem inRange_of_readItems? (step : ReadsInRange dialect fuel) {items : List Json}
    (read : readItems? dialect (fuel + 1) depth chars = some (items, rest)) :
    ∀ item ∈ items, item.InRange := by
  rw [readItems?] at read
  split at read
  · cases read
  · next item later first =>
      split at read
      · cases read
        exact List.forall_mem_singleton.mpr (step.value first)
      · obtain ⟨found, others, same⟩ := Option.map_eq_some_iff.mp read
        cases same
        exact List.forall_mem_cons.mpr ⟨step.value first, step.items others⟩
      · cases read

theorem inRange_of_readMembers? (step : ReadsInRange dialect fuel)
    {members : List (String × Json)}
    (read : readMembers? dialect (fuel + 1) depth chars = some (members, rest)) :
    ∀ member ∈ members, InRange member.2 := by
  rw [readMembers?] at read
  split at read
  · split at read
    · cases read
    · split at read
      · split at read
        · cases read
        · next value later first =>
            split at read
            · cases read
              exact List.forall_mem_singleton.mpr (step.value first)
            · obtain ⟨found, others, same⟩ := Option.map_eq_some_iff.mp read
              cases same
              exact List.forall_mem_cons.mpr ⟨step.value first, step.members others⟩
            · cases read
      · cases read
  · cases read

end Step

theorem readsInRange (keeps : dialect.KeepsRange) (fuel : Nat) : ReadsInRange dialect fuel := by
  induction fuel with
  | zero => constructor <;> intros <;> simp_all [readValue?, readItems?, readMembers?]
  | succ fuel step =>
      constructor
      · exact inRange_of_readValue? keeps step
      · exact inRange_of_readItems? step
      · exact inRange_of_readMembers? step

/-- A value that a text writes is in range. -/
theorem inRange_of_parse (keeps : dialect.KeepsRange) {text : String} {value : Json}
    (parsed : parse dialect text = some value) : value.InRange := by
  rw [parse, parseChars] at parsed
  split at parsed
  · next found rest read =>
      split at parsed
      · cases parsed
        exact (readsInRange keeps _).value read
      · cases parsed
  · cases parsed

end Reader

end SwapFeed.Json
