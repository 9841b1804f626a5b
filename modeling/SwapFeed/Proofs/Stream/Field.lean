import Mathlib.Data.List.Forall2
import SwapFeed.Stream.Field

/-!
# What the fields of a message write

A value writes a number, an integer, an id, a timestamp or the rows of a side.  The relations say so
without an order of checks and without errors.  Each reader of a field succeeds exactly on the
values that are related to its result, whatever the name of the field.
-/

namespace SwapFeed

/-! ## Readers in sequence -/

section Sequence

variable {ε δ α β : Type}

theorem ok_bind (value : α) (next : α → Except ε β) : (Except.ok value >>= next) = next value := rfl

theorem bind_eq_ok_iff {first : Except ε α} {next : α → Except ε β} {result : β} :
    (first >>= next) = .ok result ↔ ∃ value, first = .ok value ∧ next value = .ok result := by
  cases first with
  | error reason => simp [bind, Except.bind]
  | ok value => simp [bind, Except.bind]

/-- Of two steps the first that fails counts. -/
theorem bind_eq_error_iff {first : Except ε α} {next : α → Except ε β} {reason : ε} :
    (first >>= next) = .error reason ↔
      first = .error reason ∨ ∃ value, first = .ok value ∧ next value = .error reason := by
  cases first with
  | error cause => simp [bind, Except.bind]
  | ok value => simp [bind, Except.bind]

theorem map_eq_ok_iff {first : Except ε α} {image : α → β} {result : β} :
    first.map image = .ok result ↔ ∃ value, first = .ok value ∧ image value = result := by
  cases first with
  | error reason => simp [Except.map]
  | ok value => simp [Except.map]

theorem mapError_eq_ok_iff {first : Except ε α} {reason : ε → δ} {result : α} :
    first.mapError reason = .ok result ↔ first = .ok result := by
  cases first with
  | error cause => simp [Except.mapError]
  | ok value => simp [Except.mapError]

/-- Reading all entries succeeds exactly if each entry can be read, and keeps their order. -/
theorem mapM_eq_ok_iff {read : α → Except ε β} {entries : List α} {results : List β} :
    entries.mapM read = .ok results ↔
      List.Forall₂ (fun entry result => read entry = .ok result) entries results := by
  induction entries generalizing results with
  | nil =>
      rw [List.mapM_nil, List.forall₂_nil_left_iff]
      constructor
      · intro equal
        cases equal
        rfl
      · intro empty
        rw [empty]
        rfl
  | cons entry rest step =>
      rw [List.mapM_cons, List.forall₂_cons_left_iff, bind_eq_ok_iff]
      constructor
      · intro read
        rcases read with ⟨result, here, later⟩
        obtain ⟨others, there, equal⟩ := bind_eq_ok_iff.mp later
        cases equal
        exact ⟨result, others, here, step.mp there, rfl⟩
      · intro related
        rcases related with ⟨result, others, here, there, rfl⟩
        exact ⟨result, here, bind_eq_ok_iff.mpr ⟨others, step.mpr there, rfl⟩⟩

/-- What is related entry by entry is related for each entry. -/
theorem exists_of_forall₂ {related : α → β → Prop} {entries : List α} {results : List β}
    (all : List.Forall₂ related entries results) {entry : α} (member : entry ∈ entries) :
    ∃ result ∈ results, related entry result := by
  induction all with
  | nil => cases member
  | cons here _ step =>
      rcases List.mem_cons.mp member with rfl | later
      · exact ⟨_, List.mem_cons_self, here⟩
      · obtain ⟨result, there, found⟩ := step later
        exact ⟨result, List.mem_cons_of_mem _ there, found⟩

/-- Either all entries have results, or one of them has none. -/
theorem exists_forall₂_or_exists_bad (related : α → β → Prop) (entries : List α) :
    (∃ results, List.Forall₂ related entries results) ∨
      ∃ entry ∈ entries, ∀ result, ¬related entry result := by
  induction entries with
  | nil => exact .inl ⟨[], .nil⟩
  | cons entry rest step =>
      by_cases here : ∃ result, related entry result
      · rcases here with ⟨result, found⟩
        rcases step with ⟨results, all⟩ | ⟨bad, member, none⟩
        · exact .inl ⟨result :: results, .cons found all⟩
        · exact .inr ⟨bad, List.mem_cons_of_mem _ member, none⟩
      · exact .inr ⟨entry, List.mem_cons_self, fun result found => here ⟨result, found⟩⟩

end Sequence

/-! ## What a value writes -/

namespace Json

open SwapFeed.Text

/-- A number stands as such or as text. -/
inductive WritesNumber : Json → Double → Prop where
  | text {text : String} {number : Double}
      (numeral : Double.numeral? text.toList = some number) : WritesNumber (.text text) number
  | int (value : Int) : WritesNumber (.int value) (.ofInt value)
  | real (value : Double) : WritesNumber (.real value) value

/-- A 64-bit integer stands as such, as text, or as a number without a fraction. -/
inductive WritesInteger : Json → Int → Prop where
  | text {text : String} {value : Int} (numeral : integer? text.toList = some value)
      (fits : fitsInt64 value = true) : WritesInteger (.text text) value
  | int {value : Int} (fits : fitsInt64 value = true) : WritesInteger (.int value) value
  | real {value : Double} (finite : value.isFinite = true) (whole : value.isWhole = true)
      (fits : fitsInt64 value.truncate = true) : WritesInteger (.real value) value.truncate

/-- An id is any text, or an integer in decimal. -/
inductive WritesId : Json → String → Prop where
  | text (text : String) : WritesId (.text text) text
  | number {value : Json} {count : Int} (notText : ∀ text, value ≠ .text text)
      (integer : value.WritesInteger count) : WritesId value (toString count)

/-- A timestamp in milliseconds lies between the epoch and the year 3000. -/
structure WritesEpochMillis (value : Json) (millis : Int) : Prop where
  integer : value.WritesInteger millis
  inRange : 0 ≤ millis ∧ millis ≤ latestEpochMillis

/-- A level is a row of a price and a size, whatever follows them. -/
inductive WritesLevel : Json → Level → Prop where
  | row {price size : Json} {further : List Json} {level : Level}
      (priced : price.WritesNumber level.price) (sized : size.WritesNumber level.size) :
      WritesLevel (.array (price :: size :: further)) level

inductive WritesLevels : Json → List Level → Prop where
  | rows {rows : List Json} {levels : List Level}
      (written : List.Forall₂ WritesLevel rows levels) : WritesLevels (.array rows) levels

end Json

theorem Json.getText?_eq_some_iff {parent : Json} {key text : String} :
    parent.getText? key = some text ↔ parent.get? key = some (.text text) := by
  rw [Json.getText?, Option.bind_eq_some_iff]
  constructor
  · intro found
    rcases found with ⟨value, member, written⟩
    cases value with
    | text content =>
        cases written
        exact member
    | _ => cases written
  · intro member
    exact ⟨.text text, member, rfl⟩

/-! ## What the readers read -/

namespace Field

variable {value : Json} {field : String}

theorem required_eq_ok_iff {parent : Json} {key : String} :
    required parent key = .ok value ↔ parent.get? key = some value := by
  rw [required, Json.get?, mapError_eq_ok_iff]
  cases parent.lookup key with
  | error reason => simp [Except.toOption]
  | ok found => simp [Except.toOption]

theorem text_eq_ok_iff {text : String} :
    Field.text value field = .ok text ↔ value = .text text := by
  cases value <;> simp [Field.text]

theorem double_eq_ok_iff {number : Double} :
    double value field = .ok number ↔ value.WritesNumber number := by
  constructor
  · intro read
    cases value with
    | text content =>
        simp only [double] at read
        split at read
        · next found numeral =>
            cases read
            exact .text numeral
        · cases read
    | int count =>
        cases read
        exact .int count
    | real found =>
        cases read
        exact .real _
    | _ => cases read
  · intro writes
    cases writes with
    | text numeral => simp [double, numeral]
    | int count => rfl
    | real found => rfl

theorem integer_eq_ok_iff {count : Int} :
    integer value field = .ok count ↔ value.WritesInteger count := by
  constructor
  · intro read
    cases value with
    | text content =>
        simp only [integer] at read
        split at read
        · next found numeral =>
            split at read
            · next fits =>
                cases read
                exact .text numeral fits
            · cases read
        · cases read
    | int found =>
        simp only [integer] at read
        split at read
        · next fits =>
            cases read
            exact .int fits
        · cases read
    | real found =>
        simp only [integer] at read
        split at read
        · next whole =>
            obtain ⟨finite, whole⟩ := Bool.and_eq_true_iff.mp whole
            split at read
            · next fits =>
                cases read
                exact .real finite whole fits
            · cases read
        · cases read
    | _ => cases read
  · intro writes
    cases writes with
    | text numeral fits => simp [integer, numeral, fits]
    | int fits => simp [integer, fits]
    | real finite whole fits => simp [integer, finite, whole, fits]

theorem epochMillis_eq_ok_iff {millis : Int} :
    epochMillis value field = .ok millis ↔ value.WritesEpochMillis millis := by
  rw [epochMillis, bind_eq_ok_iff]
  constructor
  · intro read
    rcases read with ⟨count, read, checked⟩
    split at checked
    · next inRange =>
        cases checked
        exact ⟨integer_eq_ok_iff.mp read, inRange⟩
    · cases checked
  · intro writes
    rcases writes with ⟨writes, inRange⟩
    exact ⟨millis, integer_eq_ok_iff.mpr writes, by rw [if_pos inRange]; rfl⟩

theorem identifier_eq_ok_iff {id : String} :
    identifier value field = .ok id ↔ value.WritesId id := by
  have ofNumber : (∀ text, value ≠ .text text) →
      ((integer value field).map toString = .ok id ↔ value.WritesId id) := by
    intro notText
    rw [map_eq_ok_iff]
    constructor
    · intro read
      rcases read with ⟨count, read, rfl⟩
      exact .number notText (integer_eq_ok_iff.mp read)
    · intro writes
      cases writes with
      | text => exact (notText _ rfl).elim
      | number _ writes => exact ⟨_, integer_eq_ok_iff.mpr writes, rfl⟩
  cases value with
  | text content =>
      constructor
      · intro read
        cases read
        exact .text _
      · intro writes
        cases writes with
        | text => rfl
        | number notText _ => exact (notText _ rfl).elim
  | _ => exact ofNumber (by simp)

theorem level_eq_ok_iff {level : Level} :
    Field.level value field = .ok level ↔ value.WritesLevel level := by
  constructor
  · intro read
    unfold Field.level at read
    split at read
    · next price size further =>
        obtain ⟨readPrice, priced, read⟩ := bind_eq_ok_iff.mp read
        obtain ⟨readSize, sized, read⟩ := bind_eq_ok_iff.mp read
        cases read
        exact .row (double_eq_ok_iff.mp priced) (double_eq_ok_iff.mp sized)
    · cases read
  · intro writes
    cases writes with
    | row priced sized =>
        exact bind_eq_ok_iff.mpr ⟨_, double_eq_ok_iff.mpr priced,
          bind_eq_ok_iff.mpr ⟨_, double_eq_ok_iff.mpr sized, rfl⟩⟩

theorem levels_eq_ok_iff {levels : List Level} :
    Field.levels value field = .ok levels ↔ value.WritesLevels levels := by
  cases value with
  | array rows =>
      have rowwise : Field.levels (.array rows) field = .ok levels ↔
          List.Forall₂ Json.WritesLevel rows levels := by
        simp only [Field.levels, mapM_eq_ok_iff, level_eq_ok_iff]
      rw [rowwise]
      constructor
      · intro written
        exact .rows written
      · intro writes
        cases writes with
        | rows written => exact written
  | _ =>
      constructor
      · intro read
        cases read
      · intro writes
        cases writes

theorem pair_eq_ok_iff {table : SymbolTable} {native pair : String} :
    Field.pair table native = .ok pair ↔ table.toCanonical native = .ok pair :=
  mapError_eq_ok_iff

end Field

end SwapFeed
