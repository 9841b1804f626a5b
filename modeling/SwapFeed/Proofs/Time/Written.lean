import SwapFeed.Proofs.Text.Digits
import SwapFeed.Time.Utc

/-!
# Dates and times as text

A date and time in UTC stand in a text as six numbers with marks between them, an optional fraction
and an optional mark for UTC.  The layout leaves open how a number is written.  In the documented
form each has exactly as many digits as its field is wide.  The reader takes any integer that is not
wider than its field, with white space in front; it succeeds exactly on these texts, and no text can
be laid out in two ways.
-/

namespace SwapFeed

namespace DateTime

open SwapFeed.Text

/-! ## One field -/

section Field

variable {width : Nat} {chars rest : List Char} {value : Int}

/-- A field is read up to the next mark. -/
theorem field?_append (writes : WritesWithin width chars value) (stop : StartsNoDigit rest) :
    field? width (chars ++ rest) = some (value, rest) := by
  cases writes with
  | @written blanks mark digits factor white signed decimal fits =>
      obtain ⟨nonempty, all⟩ := isDigits_iff_all.mp decimal
      obtain ⟨first, later, rfl, digit, -⟩ := isDigits_iff.mp decimal
      have room : (mark ++ first :: (later ++ rest)).length - (first :: (later ++ rest)).length =
          mark.length := by
        rw [List.length_append, Nat.add_sub_cancel]
      have taken : ((first :: (later ++ rest)).take (width - mark.length)).takeWhile Char.isDigit =
          first :: later := takeWhile_isDigit_take all (by omega) stop
      simp only [field?, List.append_assoc, List.cons_append,
        dropWhile_isWhite_append white signed digit, splitSign_append signed digit, room, taken,
        List.isEmpty_cons, signed.mul_eq, decimal_eq_placeValue]
      simp

theorem exists_of_field? (read : field? width chars = some (value, rest)) :
    ∃ front, chars = front ++ rest ∧ WritesWithin width front value := by
  obtain ⟨mark, factor, signed, split, negative⟩ :=
    exists_of_splitSign (chars.dropWhile isWhite)
  have whole := List.takeWhile_append_dropWhile (p := isWhite) (l := chars)
  have white : ∀ char ∈ chars.takeWhile isWhite, isWhite char = true :=
    fun _ member => List.mem_takeWhile_imp member
  simp only [field?, negative] at read
  generalize (splitSign (chars.dropWhile isWhite)).2 = behind at split read
  rw [split, List.length_append, Nat.add_sub_cancel] at read
  have front : (behind.take (width - mark.length)).takeWhile Char.isDigit <+: behind :=
    (List.takeWhile_prefix _).trans (List.take_prefix _ _)
  have short : ((behind.take (width - mark.length)).takeWhile Char.isDigit).length ≤
      width - mark.length :=
    (List.takeWhile_prefix _).length_le.trans (List.length_take_le _ _)
  have all : ∀ char ∈ (behind.take (width - mark.length)).takeWhile Char.isDigit,
      char.isDigit = true := fun _ member => List.mem_takeWhile_imp member
  generalize (behind.take (width - mark.length)).takeWhile Char.isDigit = digits at *
  split at read
  · cases read
  · next some =>
      cases read
      have nonempty : digits ≠ [] := by simpa using some
      have decimal : isDigits digits = true := isDigits_iff_all.mpr ⟨nonempty, all⟩
      have positive : 0 < digits.length := List.length_pos_iff.mpr nonempty
      refine ⟨chars.takeWhile isWhite ++ (mark ++ digits), ?_, ?_⟩
      · rw [List.append_assoc, List.append_assoc, List.prefix_iff_eq_append.mp front, ← split,
          whole]
      · rw [signed.mul_eq, decimal_eq_placeValue]
        exact .written white signed decimal (by omega)

/-- What a field is spelled with, what it writes and what follows it are determined by the text. -/
theorem writesWithin_unique {other : List Char} {another : Int} {following : List Char}
    (writes : WritesWithin width chars value) (again : WritesWithin width other another)
    (stop : StartsNoDigit rest) (stopAgain : StartsNoDigit following)
    (same : chars ++ rest = other ++ following) :
    chars = other ∧ value = another ∧ rest = following := by
  have read := field?_append writes stop
  rw [same, field?_append again stopAgain] at read
  cases read
  exact ⟨List.append_cancel_right same, rfl, rfl⟩

end Field

/-! ## The whole layout -/

/-- The pieces of a date and time as text: what stands for each number, and what divides the date
from the time. -/
structure Pieces where
  year : List Char
  month : List Char
  day : List Char
  divider : Char
  hour : List Char
  minute : List Char
  second : List Char

namespace Pieces

/-- The text that pieces are laid out in. -/
def chars (pieces : Pieces) : List Char :=
  pieces.year ++ '-' :: (pieces.month ++ '-' :: (pieces.day ++ pieces.divider ::
    (pieces.hour ++ ':' :: (pieces.minute ++ ':' :: pieces.second))))

/-- The pieces that stand for numbers, each with the width of its field. -/
def fields (pieces : Pieces) : List (Nat × List Char) :=
  [(4, pieces.year), (2, pieces.month), (2, pieces.day), (2, pieces.hour), (2, pieces.minute),
    (2, pieces.second)]

/-- Pieces spell a date and time, where numbers are written in some way. -/
structure Spell (writes : Nat → List Char → Int → Prop) (pieces : Pieces) (time : DateTime) :
    Prop where
  year : writes 4 pieces.year time.date.year
  month : writes 2 pieces.month time.date.month
  day : writes 2 pieces.day time.date.day
  divider : pieces.divider = 'T' ∨ pieces.divider = ' '
  hour : writes 2 pieces.hour time.hour
  minute : writes 2 pieces.minute time.minute
  second : writes 2 pieces.second time.second

instance (writes : Nat → List Char → Int → Prop)
    [∀ width chars value, Decidable (writes width chars value)] (pieces : Pieces)
    (time : DateTime) : Decidable (pieces.Spell writes time) :=
  decidable_of_iff
    (writes 4 pieces.year time.date.year ∧ writes 2 pieces.month time.date.month ∧
      writes 2 pieces.day time.date.day ∧ (pieces.divider = 'T' ∨ pieces.divider = ' ') ∧
      writes 2 pieces.hour time.hour ∧ writes 2 pieces.minute time.minute ∧
      writes 2 pieces.second time.second)
    ⟨fun ⟨year, month, day, divider, hour, minute, second⟩ =>
        ⟨year, month, day, divider, hour, minute, second⟩,
      fun ⟨year, month, day, divider, hour, minute, second⟩ =>
        ⟨year, month, day, divider, hour, minute, second⟩⟩

variable {pieces : Pieces} {time : DateTime} {rest : List Char}

theorem Spell.imp {writes writesToo : Nat → List Char → Int → Prop}
    (spell : pieces.Spell writes time)
    (imp : ∀ width chars value, (width, chars) ∈ pieces.fields → writes width chars value →
      writesToo width chars value) : pieces.Spell writesToo time where
  year := imp _ _ _ (by simp [fields]) spell.year
  month := imp _ _ _ (by simp [fields]) spell.month
  day := imp _ _ _ (by simp [fields]) spell.day
  divider := spell.divider
  hour := imp _ _ _ (by simp [fields]) spell.hour
  minute := imp _ _ _ (by simp [fields]) spell.minute
  second := imp _ _ _ (by simp [fields]) spell.second

theorem Spell.exists_of_mem {writes : Nat → List Char → Int → Prop} {width : Nat}
    {chars : List Char} (spell : pieces.Spell writes time)
    (field : (width, chars) ∈ pieces.fields) : ∃ value, writes width chars value := by
  simp only [fields, List.mem_cons, Prod.mk.injEq, List.not_mem_nil, or_false] at field
  rcases field with ⟨rfl, rfl⟩ | ⟨rfl, rfl⟩ | ⟨rfl, rfl⟩ | ⟨rfl, rfl⟩ | ⟨rfl, rfl⟩ | ⟨rfl, rfl⟩
  · exact ⟨_, spell.year⟩
  · exact ⟨_, spell.month⟩
  · exact ⟨_, spell.day⟩
  · exact ⟨_, spell.hour⟩
  · exact ⟨_, spell.minute⟩
  · exact ⟨_, spell.second⟩

theorem width_pos {width : Nat} {chars : List Char} (field : (width, chars) ∈ pieces.fields) :
    0 < width := by
  simp only [fields, List.mem_cons, Prod.mk.injEq, List.not_mem_nil, or_false] at field
  omega

theorem Spell.within (spell : pieces.Spell WritesFixed time) : pieces.Spell WritesWithin time :=
  spell.imp fun _ _ _ field writes => writes.within (width_pos field)

theorem startsNoDigit_dash : StartsNoDigit ('-' :: rest) := by
  rintro char ⟨⟩
  decide

theorem startsNoDigit_colon : StartsNoDigit (':' :: rest) := by
  rintro char ⟨⟩
  decide

theorem startsNoDigit_divider {divider : Char} (divides : divider = 'T' ∨ divider = ' ') :
    StartsNoDigit (divider :: rest) := by
  rintro char ⟨⟩
  rcases divides with rfl | rfl <;> decide

end Pieces

theorem after?_eq_some_iff {mark : Char} {chars rest : List Char} :
    after? mark chars = some rest ↔ chars = mark :: rest := by
  cases chars with
  | nil => simp [after?]
  | cons first later =>
      rw [after?]
      split
      · next same => simp [same]
      · next other => simp [other]

@[simp] theorem after?_cons (mark : Char) (rest : List Char) :
    after? mark (mark :: rest) = some rest :=
  after?_eq_some_iff.mpr rfl

theorem afterDate?_eq_some_iff {chars rest : List Char} :
    afterDate? chars = some rest ↔
      ∃ divider, (divider = 'T' ∨ divider = ' ') ∧ chars = divider :: rest := by
  rw [afterDate?.eq_def]
  split
  · simp
  · simp
  · next noT noBlank =>
      simp only [reduceCtorEq, false_iff, not_exists, not_and]
      rintro divider (rfl | rfl) rfl
      · exact noT _ rfl
      · exact noBlank _ rfl

theorem read?_append {pieces : Pieces} {time : DateTime} {rest : List Char}
    (spell : pieces.Spell WritesWithin time) (stop : StartsNoDigit rest) :
    read? (pieces.chars ++ rest) = some (time, rest) := by
  have divided : ∀ later, afterDate? (pieces.divider :: later) = some later :=
    fun later => afterDate?_eq_some_iff.mpr ⟨_, spell.divider, rfl⟩
  simp only [Pieces.chars, List.append_assoc, List.cons_append, read?, Option.bind_eq_bind,
    field?_append spell.year Pieces.startsNoDigit_dash, after?_cons,
    field?_append spell.month Pieces.startsNoDigit_dash,
    field?_append spell.day (Pieces.startsNoDigit_divider spell.divider), divided,
    field?_append spell.hour Pieces.startsNoDigit_colon,
    field?_append spell.minute Pieces.startsNoDigit_colon,
    field?_append spell.second stop, Option.bind_some, Option.pure_def]

theorem exists_of_read? {chars rest : List Char} {time : DateTime}
    (read : read? chars = some (time, rest)) :
    ∃ pieces : Pieces, chars = pieces.chars ++ rest ∧ pieces.Spell WritesWithin time := by
  simp only [read?, Option.bind_eq_bind, Option.bind_eq_some_iff, Option.pure_def,
    Option.some.injEq, Prod.exists, after?_eq_some_iff, afterDate?_eq_some_iff] at read
  obtain ⟨year, _, yearRead, _, rfl, month, _, monthRead, _, rfl, day, _, dayRead, _,
    ⟨divider, divides, rfl⟩, hour, _, hourRead, _, rfl, minute, _, minuteRead, _, rfl, second, _,
    secondRead, built⟩ := read
  cases built
  obtain ⟨yearPiece, rfl, yearWritten⟩ := exists_of_field? yearRead
  obtain ⟨monthPiece, rfl, monthWritten⟩ := exists_of_field? monthRead
  obtain ⟨dayPiece, rfl, dayWritten⟩ := exists_of_field? dayRead
  obtain ⟨hourPiece, rfl, hourWritten⟩ := exists_of_field? hourRead
  obtain ⟨minutePiece, rfl, minuteWritten⟩ := exists_of_field? minuteRead
  obtain ⟨secondPiece, rfl, secondWritten⟩ := exists_of_field? secondRead
  refine ⟨⟨yearPiece, monthPiece, dayPiece, divider, hourPiece, minutePiece, secondPiece⟩, ?_,
    yearWritten, monthWritten, dayWritten, divides, hourWritten, minuteWritten, secondWritten⟩
  simp [Pieces.chars]

/-! ## What may follow -/

/-- Digits behind a point are a fraction of a second; there may be no fraction. -/
inductive WritesFraction : List Char → Prop where
  | none : WritesFraction []
  | point {digits : List Char} (all : ∀ char ∈ digits, char.isDigit = true) :
      WritesFraction ('.' :: digits)

/-- The marks for UTC; there may be no mark. -/
inductive MarksUtc : List Char → Prop where
  | silent : MarksUtc []
  | zulu : MarksUtc ['Z']
  | offset : MarksUtc ['+', '0', '0', ':', '0', '0']
  | compactOffset : MarksUtc ['+', '0', '0', '0', '0']

/-- A fraction and a mark for UTC end a text. -/
def EndsInUtc (rest : List Char) : Prop :=
  ∃ fraction mark, WritesFraction fraction ∧ MarksUtc mark ∧ rest = fraction ++ mark

theorem marksUtc_iff {mark : List Char} : MarksUtc mark ↔ mark ∈ utcMarks := by
  constructor
  · intro marks
    cases marks <;> decide
  · intro member
    simp only [utcMarks, List.mem_cons, List.not_mem_nil, or_false] at member
    rcases member with rfl | rfl | rfl | rfl
    · exact .silent
    · exact .zulu
    · exact .offset
    · exact .compactOffset

theorem MarksUtc.startsNoDigit {mark : List Char} (marks : MarksUtc mark) :
    StartsNoDigit mark := by
  cases marks <;> simp [StartsNoDigit]

theorem EndsInUtc.startsNoDigit {rest : List Char} (ends : EndsInUtc rest) :
    StartsNoDigit rest := by
  obtain ⟨fraction, mark, written, marks, rfl⟩ := ends
  cases written with
  | none => exact marks.startsNoDigit
  | point => simp [StartsNoDigit]

/-- Behind a fraction only a mark for UTC may stand. -/
theorem skipFraction_mem_utcMarks_iff {rest : List Char} :
    skipFraction rest ∈ utcMarks ↔ EndsInUtc rest := by
  rw [← marksUtc_iff]
  constructor
  · intro marks
    rw [skipFraction.eq_def] at marks
    split at marks
    · next later =>
        refine ⟨'.' :: later.takeWhile Char.isDigit, _, .point ?_, marks, ?_⟩
        · exact fun _ member => List.mem_takeWhile_imp member
        · rw [List.cons_append, List.takeWhile_append_dropWhile]
    · exact ⟨[], rest, .none, marks, rfl⟩
  · rintro ⟨fraction, mark, written, marks, rfl⟩
    cases written with
    | none => cases marks <;> exact by constructor
    | @point digits all =>
        have stop : mark.dropWhile Char.isDigit = mark := by cases marks <;> rfl
        have skipped : skipFraction ('.' :: digits ++ mark) = mark := by
          rw [List.cons_append, skipFraction, List.dropWhile_append_of_pos all, stop]
        rwa [skipped]

/-! ## Whole texts -/

/-- A text gives a date and time in UTC, where numbers are written in some way. -/
def SpelledBy (writes : Nat → List Char → Int → Prop) (text : String) (time : DateTime) : Prop :=
  ∃ (pieces : Pieces) (rest : List Char), text.toList = pieces.chars ++ rest ∧
    pieces.Spell writes time ∧ EndsInUtc rest

/-- The documented form: `YYYY-MM-DD`, a `T` or a space, `HH:MM:SS`, maybe a fraction and maybe a
mark for UTC. -/
def WrittenIn (time : DateTime) (text : String) : Prop := SpelledBy WritesFixed text time

/-- The pieces of a text are determined by it: from the left, each field ends where its mark
stands. -/
theorem Pieces.unique {pieces other : Pieces} {time another : DateTime}
    {rest following : List Char} (spell : pieces.Spell WritesWithin time)
    (ends : EndsInUtc rest) (again : other.Spell WritesWithin another)
    (endsAgain : EndsInUtc following) (same : pieces.chars ++ rest = other.chars ++ following) :
    pieces = other ∧ time = another := by
  obtain ⟨year, month, day, divider, hour, minute, second⟩ := pieces
  obtain ⟨otherYear, otherMonth, otherDay, otherDivider, otherHour, otherMinute, otherSecond⟩ :=
    other
  simp only [chars, List.append_assoc, List.cons_append] at same
  obtain ⟨rfl, sameYear, same⟩ := writesWithin_unique spell.year again.year startsNoDigit_dash
    startsNoDigit_dash same
  obtain ⟨rfl, sameMonth, same⟩ := writesWithin_unique spell.month again.month startsNoDigit_dash
    startsNoDigit_dash (List.cons.inj same).2
  obtain ⟨rfl, sameDay, same⟩ := writesWithin_unique spell.day again.day
    (startsNoDigit_divider spell.divider) (startsNoDigit_divider again.divider)
    (List.cons.inj same).2
  obtain ⟨rfl, behind⟩ := List.cons.inj same
  obtain ⟨rfl, sameHour, same⟩ := writesWithin_unique spell.hour again.hour startsNoDigit_colon
    startsNoDigit_colon behind
  obtain ⟨rfl, sameMinute, same⟩ := writesWithin_unique spell.minute again.minute
    startsNoDigit_colon startsNoDigit_colon (List.cons.inj same).2
  obtain ⟨rfl, sameSecond, -⟩ := writesWithin_unique spell.second again.second ends.startsNoDigit
    endsAgain.startsNoDigit (List.cons.inj same).2
  refine ⟨rfl, ?_⟩
  obtain ⟨⟨_, _, _⟩, _, _, _⟩ := time
  obtain ⟨⟨_, _, _⟩, _, _, _⟩ := another
  simp only at *
  subst sameYear sameMonth sameDay sameHour sameMinute sameSecond
  rfl

/-- A text of the layout has marks in it, so it is not read as a number. -/
theorem SpelledBy.isDigits_eq_false {writes : Nat → List Char → Int → Prop} {text : String}
    {time : DateTime} (spelled : SpelledBy writes text time) : isDigits text.toList = false := by
  obtain ⟨pieces, rest, laidOut, -, -⟩ := spelled
  rw [Bool.eq_false_iff]
  intro digits
  have dash : '-' ∈ text.toList := by
    rw [laidOut]
    simp [Pieces.chars]
  have digit := (isDigits_iff_all.mp digits).2 _ dash
  revert digit
  decide

end DateTime

open DateTime Text

variable {text : String} {seconds : Int}

/-- Of the texts that are not all digits, those are read whose numbers are not too wide. -/
theorem readInstant_eq_ok_iff (noDigits : isDigits text.toList = false) :
    readInstant text = .ok seconds ↔
      ∃ time, SpelledBy WritesWithin text time ∧ time.toSeconds = seconds := by
  simp only [readInstant, noDigits, Bool.false_eq_true, if_false]
  constructor
  · intro read
    split at read
    · cases read
    · next time rest found =>
        split at read
        · next ends =>
            cases read
            obtain ⟨pieces, laidOut, spell⟩ := exists_of_read? found
            exact ⟨time, ⟨pieces, rest, laidOut, spell, skipFraction_mem_utcMarks_iff.mp ends⟩, rfl⟩
        · cases read
  · rintro ⟨time, ⟨pieces, rest, laidOut, spell, ends⟩, rfl⟩
    rw [laidOut, read?_append spell ends.startsNoDigit]
    exact if_pos (skipFraction_mem_utcMarks_iff.mpr ends)

/-- A text is refused as no date and time, or as one that is not marked for UTC. -/
theorem readInstant_refused (noDigits : isDigits text.toList = false)
    (refused : ∀ seconds, readInstant text ≠ .ok seconds) :
    readInstant text = .error (.unparsable text) ∨ readInstant text = .error (.notUtc text) := by
  simp only [readInstant, noDigits, Bool.false_eq_true, if_false] at refused ⊢
  split
  · exact .inl rfl
  · next time rest found =>
      rw [found] at refused
      split
      · next ends => exact (refused _ (if_pos ends)).elim
      · exact .inr rfl

end SwapFeed
