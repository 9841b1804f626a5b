import SwapFeed.Config.DotEnv
import SwapFeed.Proofs.Config.Environment
import SwapFeed.Proofs.Text.Blank
import SwapFeed.Proofs.Text.Split

/-!
# What a dotenv file defines

A line of a dotenv file gives a name and a value, with padding and quotes around them, or defines
nothing.  Loading a file leaves the variables that are set as they are, and gives each other one the
value of the first line that defines it.  So a file in which every value is written between quotes
defines just what was written, whatever the values are.
-/

namespace SwapFeed.DotEnv

open SwapFeed.Text

/-! ## Lines -/

/-- A mark that may stand around a value. -/
inductive IsQuote : Char → Prop where
  | double : IsQuote '"'
  | single : IsQuote '\''

/-- What is written for a value: the value between quotes, or the value itself if it does not stand
between quotes. -/
inductive Spells : (written value : List Char) → Prop where
  | quoted {mark : Char} {value : List Char} (quote : IsQuote mark) :
      Spells (mark :: (value ++ [mark])) value
  | plain {value : List Char}
      (unquoted : ∀ mark inner, IsQuote mark → value ≠ mark :: (inner ++ [mark])) :
      Spells value value

/-- A line gives a name and a value.  The name has no equals sign, and does not start a comment. -/
inductive Assigns : (line name value : List Char) → Prop where
  | assigns {lead name gap indent written trail value : List Char}
      (blankLead : IsBlank lead) (blankGap : IsBlank gap) (blankIndent : IsBlank indent)
      (blankTrail : IsBlank trail) (nonempty : name ≠ []) (trimmedName : IsTrimmed name)
      (plain : '=' ∉ name) (noComment : name.head? ≠ some '#') (trimmed : IsTrimmed written)
      (spells : Spells written value) :
      Assigns (lead ++ name ++ gap ++ '=' :: (indent ++ written ++ trail)) name value

/-- A line defines a variable.  Name and value end at their first U+0000, and a variable has a
name. -/
def Defines (line : List Char) (name value : String) : Prop :=
  name ≠ "" ∧ ∃ given content : String, Assigns line given.toList content.toList ∧
    beforeNul given = name ∧ beforeNul content = value

/-- The first of the lines that define a variable gives it a value. -/
inductive FirstDefines (name value : String) : (lines : List (List Char)) → Prop where
  | here {line : List Char} {rest : List (List Char)} (defines : Defines line name value) :
      FirstDefines name value (line :: rest)
  | later {line : List Char} {rest : List (List Char)}
      (silent : ∀ other, ¬Defines line name other) (first : FirstDefines name value rest) :
      FirstDefines name value (line :: rest)

theorem isQuote_iff {char : Char} : IsQuote char ↔ char = '"' ∨ char = '\'' := by
  constructor
  · rintro (_ | _)
    · exact .inl rfl
    · exact .inr rfl
  · rintro (rfl | rfl)
    · exact .double
    · exact .single

theorem unquote_cons (first : Char) (rest : List Char) :
    unquote (first :: rest) = if (first = '"' || first = '\'') && rest.getLast? = some first then
      rest.dropLast else first :: rest := by
  cases rest <;> simp [unquote]

theorem unquote_quoted {mark : Char} (quote : IsQuote mark) (value : List Char) :
    unquote (mark :: (value ++ [mark])) = value := by
  rw [isQuote_iff] at quote
  rw [unquote_cons, if_pos (by simp [quote]), List.dropLast_concat]

theorem unquote_plain {written : List Char}
    (unquoted : ∀ mark inner, IsQuote mark → written ≠ mark :: (inner ++ [mark])) :
    unquote written = written := by
  cases written with
  | nil => rfl
  | cons first rest =>
      rw [unquote_cons, if_neg]
      intro quoted
      simp only [Bool.and_eq_true, Bool.or_eq_true, decide_eq_true_eq] at quoted
      obtain ⟨inner, rfl⟩ := List.getLast?_eq_some_iff.mp quoted.2
      exact unquoted first inner (isQuote_iff.mpr quoted.1) rfl

theorem unquote_eq_iff {written value : List Char} :
    unquote written = value ↔ Spells written value := by
  constructor
  · rintro rfl
    by_cases between : ∃ mark inner, IsQuote mark ∧ written = mark :: (inner ++ [mark])
    · obtain ⟨mark, inner, quote, rfl⟩ := between
      rw [unquote_quoted quote]
      exact .quoted quote
    · have unquoted : ∀ mark inner, IsQuote mark → written ≠ mark :: (inner ++ [mark]) :=
        fun mark inner quote same => between ⟨mark, inner, quote, same⟩
      rw [unquote_plain unquoted]
      exact .plain unquoted
  · intro spells
    cases spells with
    | quoted quote => exact unquote_quoted quote value
    | plain unquoted => exact unquote_plain unquoted

/-- What is left of a line when it is trimmed, up to the padding behind its equals sign. -/
theorem exists_trim_eq {lead name indent written trail : List Char} (gap : List Char)
    (blankLead : IsBlank lead) (blankIndent : IsBlank indent) (blankTrail : IsBlank trail)
    (nonempty : name ≠ []) (trimmedName : IsTrimmed name) (trimmed : IsTrimmed written) :
    ∃ content, trim content = written ∧
      trim (lead ++ name ++ gap ++ '=' :: (indent ++ written ++ trail)) =
        name ++ gap ++ '=' :: content := by
  by_cases empty : written = []
  · subst empty
    have ends : IsTrimmed (name ++ gap ++ ['=']) :=
      trimmedName.around nonempty ⟨by simp [isPadding], by simp [isPadding]⟩ (by simp) gap
    refine ⟨[], rfl, ?_⟩
    rw [← trim_padded blankLead ends (blankIndent.append blankTrail)]
    simp
  · have ends : IsTrimmed (name ++ (gap ++ '=' :: indent) ++ written) :=
      trimmedName.around nonempty trimmed empty _
    refine ⟨indent ++ written, ?_, ?_⟩
    · simpa using trim_padded blankIndent trimmed isBlank_nil
    · have whole := trim_padded blankLead ends blankTrail
      simpa using whole

theorem definition?_of_assigns {line name value : List Char} (assigns : Assigns line name value) :
    definition? line = some (String.ofList name, String.ofList value) := by
  cases assigns with
  | @assigns lead name gap indent written trail value blankLead blankGap blankIndent blankTrail
      nonempty trimmedName plain noComment trimmed spells =>
      obtain ⟨content, same, whole⟩ := exists_trim_eq gap blankLead blankIndent blankTrail nonempty
        trimmedName trimmed
      have absent : '=' ∉ name ++ gap := by
        rw [List.mem_append, not_or]
        exact ⟨plain, fun member => absurd (blankGap _ member) (by decide)⟩
      have head : (name ++ gap ++ '=' :: content).head? = name.head? := by
        rw [List.append_assoc, List.head?_append_of_ne_nil _ nonempty]
      have given : trim (name ++ gap) = name := by
        simpa using trim_padded isBlank_nil trimmedName blankGap
      simp only [definition?, whole, head, splitFirst?_append absent, given, same,
        unquote_eq_iff.mpr spells]
      simp [noComment, nonempty]

theorem assigns_of_trim_eq {line given content : List Char}
    (whole : trim line = given ++ '=' :: content) (plain : '=' ∉ given)
    (nonempty : trim given ≠ []) (noComment : (trim line).head? ≠ some '#') :
    Assigns line (trim given) (unquote (trim content)) := by
  obtain ⟨lead, trail, blankLead, blankTrail, padded⟩ := exists_padded_trim line
  obtain ⟨front, gap, blankFront, blankGap, paddedGiven⟩ := exists_padded_trim given
  obtain ⟨indent, rest, blankIndent, blankRest, paddedContent⟩ := exists_padded_trim content
  have trimmedLine := isTrimmed_trim line
  have trimmedGiven := isTrimmed_trim given
  have trimmedContent := isTrimmed_trim content
  generalize trim given = name at *
  generalize trim content = written at *
  subst paddedGiven paddedContent
  have frontless : front = [] := by
    cases front with
    | nil => rfl
    | cons first others =>
        have kept := trimmedLine.start first (by rw [whole]; simp)
        cases kept.symm.trans (blankFront first (by simp))
  subst frontless
  have commentless : name.head? ≠ some '#' := by
    rwa [whole, List.nil_append, List.append_assoc, List.head?_append_of_ne_nil _ nonempty]
      at noComment
  have shape : line = lead ++ name ++ gap ++ '=' :: (indent ++ written ++ (rest ++ trail)) := by
    rw [padded, whole]
    simp
  rw [shape]
  exact .assigns blankLead blankGap blankIndent (blankRest.append blankTrail) nonempty trimmedGiven
    (fun member => plain (by simp [member])) commentless trimmedContent (unquote_eq_iff.mp rfl)

/-- The reader finds just what a line gives. -/
theorem definition?_eq_some_iff {line : List Char} {name value : String} :
    definition? line = some (name, value) ↔ Assigns line name.toList value.toList := by
  constructor
  · intro read
    simp only [definition?] at read
    split at read
    next => cases read
    next noComment =>
      split at read
      next => cases read
      next given content found =>
        split at read
        next => cases read
        next nonempty =>
          cases read
          obtain ⟨whole, plain⟩ := splitFirst?_eq_some_iff.mp found
          rw [String.toList_ofList, String.toList_ofList]
          exact assigns_of_trim_eq whole plain (by simpa using nonempty) noComment
  · intro assigns
    simpa using definition?_of_assigns assigns

/-! ## Files -/

theorem Assigns.equalsless {line name value : List Char} (assigns : Assigns line name value) :
    '=' ∉ name := by
  cases assigns with
  | assigns _ _ _ _ _ _ plain => exact plain

theorem isName_iff {given : String} (equalsless : '=' ∉ given.toList) :
    Environment.isName (beforeNul given) = true ↔ beforeNul given ≠ "" := by
  have absent : '=' ∉ (beforeNul given).toList := by
    rw [beforeNul, String.toList_ofList]
    exact fun member => equalsless (List.takeWhile_subset _ member)
  simp [Environment.isName, absent]

/-- The value that a line gives to a variable. -/
def valueIn? (name : String) (line : List Char) : Option String :=
  (definition? line).bind (Environment.valueFor? name)

theorem valueIn?_eq_some_iff {line : List Char} {name value : String} :
    valueIn? name line = some value ↔ Defines line name value := by
  rw [valueIn?, Option.bind_eq_some_iff]
  constructor
  · rintro ⟨⟨given, content⟩, read, given'⟩
    have assigns := definition?_eq_some_iff.mp read
    rw [Environment.valueFor?] at given'
    split at given'
    next applies =>
      obtain ⟨rfl, named⟩ := applies
      exact ⟨(isName_iff assigns.equalsless).mp named, given, content, assigns, rfl,
        Option.some.inj given'⟩
    next => cases given'
  · rintro ⟨nonempty, given, content, assigns, rfl, rfl⟩
    refine ⟨(given, content), definition?_eq_some_iff.mpr assigns, ?_⟩
    rw [Environment.valueFor?, if_pos ⟨rfl, (isName_iff assigns.equalsless).mpr nonempty⟩]

theorem valueIn?_eq_none_iff {line : List Char} {name : String} :
    valueIn? name line = none ↔ ∀ value, ¬Defines line name value := by
  simp only [Option.eq_none_iff_forall_ne_some, ne_eq, valueIn?_eq_some_iff]

theorem firstDefines_cons_iff {line : List Char} {rest : List (List Char)} {name value : String} :
    FirstDefines name value (line :: rest) ↔
      Defines line name value ∨
        (∀ other, ¬Defines line name other) ∧ FirstDefines name value rest := by
  constructor
  · intro first
    cases first with
    | here defines => exact .inl defines
    | later silent first => exact .inr ⟨silent, first⟩
  · rintro (defines | ⟨silent, first⟩)
    · exact .here defines
    · exact .later silent first

theorem findSome?_valueFor?_iff {lines : List (List Char)} {name value : String} :
    (lines.filterMap definition?).findSome? (Environment.valueFor? name) = some value ↔
      FirstDefines name value lines := by
  induction lines with
  | nil =>
      constructor
      · intro found
        cases found
      · intro first
        cases first
  | cons line rest step =>
      have oneByOne : ((line :: rest).filterMap definition?).findSome? (Environment.valueFor? name) =
          (valueIn? name line).or
            ((rest.filterMap definition?).findSome? (Environment.valueFor? name)) := by
        rw [valueIn?, List.filterMap_cons]
        cases definition? line with
        | none => rfl
        | some entry =>
            rw [List.findSome?_cons, Option.bind_some]
            cases Environment.valueFor? name entry <;> rfl
      rw [oneByOne, Option.or_eq_some_iff, valueIn?_eq_some_iff, valueIn?_eq_none_iff, step,
        firstDefines_cons_iff]

variable {files : FileTree} {path content : String}

/-- What a variable is after a file was loaded. -/
theorem get?_load_eq_some_iff (found : find? files path = some content)
    (environment : Environment) (name value : String) :
    (load files path environment).get? name = some value ↔
      environment.get? name = some value ∨
        environment.get? name = none ∧ FirstDefines name value (content.toList.splitOn '\n') := by
  have loaded : load files path environment = environment.defineAll (entries content) := by
    simp only [load, found]
  rw [loaded, Environment.get?_defineAll, Option.or_eq_some_iff, entries, findSome?_valueFor?_iff,
    splitAll_eq_splitOn]

/-! ## Written files -/

inductive LineEnd where
  | lf
  | crlf

/-- The characters of a line end in front of its line feed. -/
def LineEnd.lead : LineEnd → List Char
  | .lf => []
  | .crlf => ['\r']

/-- A variable and its value between quotes, `NAME="VALUE"`. -/
def quotedLine (entry : String × String) : List Char :=
  entry.1.toList ++ '=' :: '"' :: (entry.2.toList ++ ['"'])

/-- A text has variables and their values, each on a line of its own.  The last line may lack its
end. -/
inductive Lists : List (String × String) → List Char → Prop where
  | nil : Lists [] []
  | last (entry : String × String) : Lists [entry] (quotedLine entry)
  | cons (entry : String × String) (ending : LineEnd) {rest : List (String × String)}
      {text : List Char} (others : Lists rest text) :
      Lists (entry :: rest) (quotedLine entry ++ ending.lead ++ '\n' :: text)

/-- What can stand on a line: a name that is not taken apart, and any value of one line. -/
structure Writable (entry : String × String) : Prop where
  nonempty : entry.1 ≠ ""
  name : '=' ∉ entry.1.toList ∧ '\n' ∉ entry.1.toList ∧ '\x00' ∉ entry.1.toList
  noComment : entry.1.toList.head? ≠ some '#'
  trimmed : IsTrimmed entry.1.toList
  value : '\n' ∉ entry.2.toList ∧ '\x00' ∉ entry.2.toList

instance (entry : String × String) : Decidable (Writable entry) :=
  decidable_of_iff
    (entry.1 ≠ "" ∧ ('=' ∉ entry.1.toList ∧ '\n' ∉ entry.1.toList ∧ '\x00' ∉ entry.1.toList) ∧
      entry.1.toList.head? ≠ some '#' ∧ IsTrimmed entry.1.toList ∧
      '\n' ∉ entry.2.toList ∧ '\x00' ∉ entry.2.toList)
    ⟨fun ⟨nonempty, name, noComment, trimmed, value⟩ =>
        ⟨nonempty, name, noComment, trimmed, value⟩,
      fun writable => ⟨writable.nonempty, writable.name, writable.noComment, writable.trimmed,
        writable.value⟩⟩

theorem LineEnd.isBlank_lead (ending : LineEnd) : IsBlank ending.lead := by
  cases ending with
  | lf => exact isBlank_nil
  | crlf => simp [IsBlank, lead, isPadding]

theorem LineEnd.newline_not_mem_lead (ending : LineEnd) : '\n' ∉ ending.lead := by
  cases ending <;> decide

variable {entry : String × String} {blanks : List Char} {name value : String}

theorem isTrimmed_quoted (value : List Char) : IsTrimmed ('"' :: (value ++ ['"'])) := by
  constructor
  · simp [isPadding]
  · rw [← List.cons_append, List.getLast?_concat]
    simp [isPadding]

theorem Writable.assigns (writable : Writable entry) (blank : IsBlank blanks) :
    Assigns (quotedLine entry ++ blanks) entry.1.toList entry.2.toList := by
  have assigns := Assigns.assigns isBlank_nil isBlank_nil isBlank_nil blank
    (mt String.toList_eq_nil_iff.mp writable.nonempty) writable.trimmed writable.name.1
    writable.noComment (isTrimmed_quoted entry.2.toList) (.quoted .double)
  simpa [quotedLine] using assigns

/-- A line that was written defines what it was written for and nothing else. -/
theorem Writable.defines_iff (writable : Writable entry) (blank : IsBlank blanks) :
    Defines (quotedLine entry ++ blanks) name value ↔ entry.1 = name ∧ entry.2 = value := by
  have assigns := writable.assigns blank
  have wholeName := beforeNul_of_not_mem writable.name.2.2
  have wholeValue := beforeNul_of_not_mem writable.value.2
  constructor
  · rintro ⟨-, given, content, other, rfl, rfl⟩
    have same : some entry = some (given, content) :=
      (definition?_eq_some_iff.mpr assigns).symm.trans (definition?_eq_some_iff.mpr other)
    cases same
    exact ⟨wholeName.symm, wholeValue.symm⟩
  · rintro ⟨rfl, rfl⟩
    exact ⟨writable.nonempty, entry.1, entry.2, assigns, wholeName, wholeValue⟩

theorem Writable.newline_not_mem (writable : Writable entry) : '\n' ∉ quotedLine entry := by
  simp [quotedLine, writable.name.2.1, writable.value.1]

theorem firstDefines_quotedLine_iff (writable : Writable entry) (blank : IsBlank blanks)
    (lines : List (List Char)) :
    FirstDefines name value ((quotedLine entry ++ blanks) :: lines) ↔
      entry.1 = name ∧ entry.2 = value ∨ entry.1 ≠ name ∧ FirstDefines name value lines := by
  simp only [firstDefines_cons_iff, writable.defines_iff blank]
  grind

theorem not_firstDefines_nil : ¬FirstDefines name value [] := by
  intro first
  cases first

theorem not_defines_nil : ¬Defines [] name value := by
  rw [← valueIn?_eq_some_iff]
  exact fun given => nomatch given

theorem lookup_cons_eq_some_iff {rest : List (String × String)} :
    (entry :: rest).lookup name = some value ↔
      entry.1 = name ∧ entry.2 = value ∨ entry.1 ≠ name ∧ rest.lookup name = some value := by
  rw [List.lookup_cons]
  grind

/-- The first definition of a variable in a written file is the first one that was written. -/
theorem Lists.firstDefines_iff {listed : List (String × String)} {text : List Char}
    (lists : Lists listed text) (writable : ∀ entry ∈ listed, Writable entry) :
    FirstDefines name value (text.splitOn '\n') ↔ listed.lookup name = some value := by
  rw [← splitAll_eq_splitOn]
  induction lists with
  | nil => simp [splitAll, firstDefines_cons_iff, not_defines_nil, not_firstDefines_nil]
  | last entry =>
      have here : Writable entry := writable entry (by simp)
      have line : FirstDefines name value ([quotedLine entry ++ []]) ↔ _ :=
        firstDefines_quotedLine_iff here isBlank_nil []
      rw [List.append_nil] at line
      rw [splitAll_of_not_mem here.newline_not_mem, line, lookup_cons_eq_some_iff]
      simp [not_firstDefines_nil]
  | @cons entry ending rest text others step =>
      obtain ⟨here, later⟩ := List.forall_mem_cons.mp writable
      have absent : '\n' ∉ quotedLine entry ++ ending.lead := by
        simp [here.newline_not_mem, ending.newline_not_mem_lead]
      rw [splitAll_append absent, firstDefines_quotedLine_iff here ending.isBlank_lead, step later,
        lookup_cons_eq_some_iff]

theorem lookup_eq_some_iff_mem {listed : List (String × String)}
    (distinct : (listed.map Prod.fst).Nodup) :
    listed.lookup name = some value ↔ (name, value) ∈ listed := by
  induction listed with
  | nil => simp
  | cons entry rest step =>
      obtain ⟨new, distinct⟩ := List.nodup_cons.mp distinct
      rw [lookup_cons_eq_some_iff, step distinct, List.mem_cons]
      constructor
      · rintro (⟨rfl, rfl⟩ | ⟨-, member⟩)
        · exact .inl rfl
        · exact .inr member
      · rintro (rfl | member)
        · exact .inl ⟨rfl, rfl⟩
        · have other : entry.1 ≠ name := fun same => new (same ▸ List.mem_map_of_mem member)
          exact .inr ⟨other, member⟩

/-- Loading a file keeps the variables that are set, and gives each other one the value of the first
line that defines it.  A file in which distinct variables were written between quotes gives them
just their values, and changes no others. -/
theorem load_keeps_and_defines (found : find? files path = some content)
    (environment : Environment) :
    (∀ name value, environment.get? name = some value →
      (load files path environment).get? name = some value) ∧
    (∀ name, environment.get? name = none → ∀ value,
      (load files path environment).get? name = some value ↔
        FirstDefines name value (content.toList.splitOn '\n')) ∧
    ∀ listed, Lists listed content.toList → (∀ entry ∈ listed, Writable entry) →
      (listed.map Prod.fst).Nodup → (∀ entry ∈ listed, environment.get? entry.1 = none) →
      ∀ name value, (load files path environment).get? name = some value ↔
        environment.get? name = some value ∨ (name, value) ∈ listed := by
  refine ⟨?_, ?_, ?_⟩
  · intro name value same
    exact (get?_load_eq_some_iff found environment name value).mpr (.inl same)
  · intro name unset value
    simp [get?_load_eq_some_iff found, unset]
  · intro listed lists writable distinct unset name value
    rw [get?_load_eq_some_iff found, lists.firstDefines_iff writable,
      lookup_eq_some_iff_mem distinct]
    have new : (name, value) ∈ listed → environment.get? name = none := unset (name, value)
    exact or_congr_right (and_iff_right_of_imp new)

/-- Quotes, other marks and blanks in a value are kept, and either line end is not part of it. -/
theorem load_keeps_and_defines_quotes :
    let files := FileTree.ofList [(".env", "KEY=\" #a=\"b\" \"\r\nOTHER=\"\"\n")]
    let environment : Environment := ⟨[("HOME", "/")]⟩
    (load files ".env" environment).get? "HOME" = some "/" ∧
      (load files ".env" environment).get? "KEY" = some " #a=\"b\" " ∧
      (load files ".env" environment).get? "OTHER" = some "" := by
  intro files environment
  have found : find? files ".env" = some "KEY=\" #a=\"b\" \"\r\nOTHER=\"\"\n" := by decide +kernel
  obtain ⟨keeps, -, writes⟩ := load_keeps_and_defines found environment
  have lists : Lists [("KEY", " #a=\"b\" "), ("OTHER", "")]
      "KEY=\" #a=\"b\" \"\r\nOTHER=\"\"\n".toList :=
    .cons ("KEY", " #a=\"b\" ") .crlf (.cons ("OTHER", "") .lf .nil)
  have exactly := writes _ lists (by decide +kernel) (by decide) (by decide)
  exact ⟨keeps _ _ (by decide), (exactly _ _).mpr (.inr (by decide)),
    (exactly _ _).mpr (.inr (by decide))⟩

end SwapFeed.DotEnv
