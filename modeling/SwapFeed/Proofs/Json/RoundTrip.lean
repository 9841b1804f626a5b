import Mathlib.Data.List.Forall2
import SwapFeed.Json.Printer
import SwapFeed.Json.Reader
import SwapFeed.Proofs.Json.Members

/-!
# Written values read back

A value is portable if every reader has to find the same in its text: no number stands in it and no
object has a key twice.  Reading the text of such a value gives the value back, with each string
character by character and each array in order.  Only the members of objects come in the order of
their keys.
-/

namespace SwapFeed.Json

/-! ## Strings -/

theorem hexDigits_of_control : ∀ value < 0x20,
    ['0', '0', hexDigit (value / 16), hexDigit value].all Double.isHexDigit = true ∧
      Double.hexadecimal ['0', '0', hexDigit (value / 16), hexDigit value] = value := by
  decide +kernel

theorem unicodeEscape?_of_control {char : Char} (control : char.toNat < 0x20) (rest : List Char) :
    unicodeEscape? ('0' :: '0' :: hexDigit (char.toNat / 16) :: hexDigit char.toNat :: rest) =
      some (char, rest) := by
  obtain ⟨digits, value⟩ := hexDigits_of_control char.toNat control
  have unit : unit? ('0' :: '0' :: hexDigit (char.toNat / 16) :: hexDigit char.toNat :: rest) =
      some (char.toNat, rest) := by
    rw [unit?, if_pos digits, value]
  have notHigh : ¬(0xD800 ≤ char.toNat ∧ char.toNat < 0xDC00) := by omega
  have notLow : ¬(0xDC00 ≤ char.toNat ∧ char.toNat < 0xE000) := by omega
  simp only [unicodeEscape?, unit, if_neg notHigh, if_neg notLow, Char.ofNat_toNat]

/-- A character stands for itself where a string allows that, or else behind a backslash as an
escape that stands for it. -/
theorem escapeChar_cases (char : Char) :
    escapeChar char = [char] ∧ char ≠ '"' ∧ char ≠ '\\' ∧ ¬char.toNat < 0x20 ∨
      ∃ escaped, escapeChar char = '\\' :: escaped ∧
        ∀ rest, escape? (escaped ++ rest) = some (char, rest) := by
  rw [escapeChar]
  split_ifs with quote backslash backspace formFeed lineFeed carriageReturn tab control
  rotate_right 2
  · exact .inr ⟨_, rfl, unicodeEscape?_of_control control⟩
  · exact .inl ⟨rfl, quote, backslash, control⟩
  all_goals
    subst char
    exact .inr ⟨_, rfl, fun _ => rfl⟩

/-- One unit of fuel is used, and enough of it is left. -/
theorem exists_fuel {fuel size : Nat} (enough : size < fuel) :
    ∃ less, fuel = less + 1 ∧ size ≤ less :=
  ⟨fuel - 1, by omega, by omega⟩

theorem stringBody?_escapeChar (fuel : Nat) (done : List Char) (char : Char) (rest : List Char) :
    stringBody? (fuel + 1) done (escapeChar char ++ rest) =
      stringBody? fuel (char :: done) rest := by
  rcases escapeChar_cases char with ⟨itself, notQuote, notBackslash, notControl⟩ |
    ⟨escaped, behind, means⟩
  · rw [itself, List.singleton_append, stringBody?, if_neg notQuote, if_neg notBackslash,
      if_neg notControl]
  · rw [behind, List.cons_append, stringBody?, if_neg (by decide), if_pos rfl, means]

theorem stringBody?_escaped (chars : List Char) {fuel : Nat} (enough : chars.length < fuel)
    (done rest : List Char) :
    stringBody? fuel done (chars.flatMap escapeChar ++ '"' :: rest) =
      some (done.reverse ++ chars, rest) := by
  induction chars generalizing fuel done with
  | nil =>
      obtain ⟨fuel, rfl, -⟩ := exists_fuel enough
      simp [stringBody?]
  | cons char chars step =>
      obtain ⟨fuel, rfl, later⟩ := exists_fuel enough
      rw [List.flatMap_cons, List.append_assoc, stringBody?_escapeChar, step later]
      simp

theorem length_le_length_escaped (chars : List Char) :
    chars.length ≤ (chars.flatMap escapeChar).length := by
  induction chars with
  | nil => exact Nat.le_refl 0
  | cons char chars step =>
      have one : 1 ≤ (escapeChar char).length := by
        rcases escapeChar_cases char with ⟨itself, -⟩ | ⟨escaped, behind, -⟩
        · simp [itself]
        · simp [behind]
      rw [List.flatMap_cons, List.length_append, List.length_cons]
      omega

/-- Behind its opening quote, a quoted text is read as itself. -/
theorem readString?_escaped (text : String) (rest : List Char) :
    readString? (text.toList.flatMap escapeChar ++ '"' :: rest) = some (text, rest) := by
  have enough : text.toList.length <
      (text.toList.flatMap escapeChar ++ '"' :: rest).length + 1 := by
    have := length_le_length_escaped text.toList
    rw [List.length_append]
    omega
  rw [readString?, stringBody?_escaped text.toList enough]
  simp

/-! ## Characters that write a value -/

theorem skipSpace_cons {char : Char} (solid : isSpace char = false) (rest : List Char) :
    skipSpace (char :: rest) = char :: rest :=
  List.dropWhile_cons_of_neg (by simp [solid])

/-- Characters write a value, at some depth of containers, if the reader finds the value wherever
they stand and goes on behind them.  They start with no white space and no byte order mark, and not
as if an array ended. -/
structure Writes (dialect : Dialect) (depth : Option Nat) (chars : List Char) (value : Json) :
    Prop where
  starts : ∃ first rest, chars = first :: rest ∧ isSpace first = false ∧ first ≠ ']' ∧
    first ≠ '\ufeff'
  reads : ∀ {fuel}, chars.length ≤ fuel → ∀ rest,
    readValue? dialect fuel depth (chars ++ rest) = some (value, rest)

/-- The characters of a key and of a value behind it. -/
inductive WritesMember (dialect : Dialect) (depth : Option Nat) :
    List Char → String × Json → Prop where
  | of {key : String} {chars : List Char} {value : Json}
      (writes : Writes dialect depth chars value) :
      WritesMember dialect depth ('"' :: key.toList.flatMap escapeChar ++ '"' :: ':' :: chars)
        (key, value)

section Writes

variable {dialect : Dialect} {depth inner : Option Nat} {value : Json} {chars : List Char}

theorem Writes.bool (value : Bool) :
    Writes dialect depth (render (.bool value)).toList (.bool value) where
  starts := by
    cases value <;> exact ⟨_, _, rfl, rfl, by decide, by decide⟩
  reads enough rest := by
    cases value with
    | true =>
        obtain ⟨fuel, rfl, -⟩ := exists_fuel enough
        rfl
    | false =>
        obtain ⟨fuel, rfl, -⟩ := exists_fuel enough
        rfl

theorem Writes.null : Writes dialect depth (render .null).toList .null where
  starts := ⟨_, _, rfl, rfl, by decide, by decide⟩
  reads enough rest := by
    obtain ⟨fuel, rfl, -⟩ := exists_fuel enough
    rfl

theorem Writes.text (text : String) : Writes dialect depth (quote text).toList (.text text) where
  starts := by
    rw [quote, String.toList_ofList]
    exact ⟨_, _, rfl, rfl, by decide, by decide⟩
  reads enough rest := by
    rw [quote, String.toList_ofList] at enough ⊢
    obtain ⟨fuel, rfl, -⟩ := exists_fuel enough
    have solid : isSpace '"' = false := rfl
    simp only [List.cons_append, List.append_assoc, List.nil_append, readValue?,
      skipSpace_cons solid, readString?_escaped, Option.map_some]

/-- The items of an array, up to its closing bracket. -/
theorem readItems?_intercalate {texts : List (List Char)} {values : List Json} {text : List Char}
    (first : Writes dialect depth text value)
    (others : List.Forall₂ (Writes dialect depth) texts values) {fuel : Nat}
    (enough : ([','].intercalate (text :: texts)).length < fuel) (rest : List Char) :
    readItems? dialect fuel depth ([','].intercalate (text :: texts) ++ ']' :: rest) =
      some (value :: values, rest) := by
  induction others generalizing text value fuel with
  | nil =>
      obtain ⟨fuel, rfl, fits⟩ := exists_fuel enough
      rw [List.intercalate_singleton] at fits ⊢
      have solid : isSpace ']' = false := rfl
      rw [readItems?, first.reads fits]
      simp only [skipSpace_cons solid]
  | @cons next nextValue texts values second others step =>
      obtain ⟨fuel, rfl, fits⟩ := exists_fuel enough
      rw [List.intercalate_cons_cons, List.append_assoc] at fits ⊢
      simp only [List.length_append, List.length_singleton] at fits
      have later : readItems? dialect fuel depth
          ([','].intercalate (next :: texts) ++ ']' :: rest) =
          some (nextValue :: values, rest) := step second (by omega)
      have solid : isSpace ',' = false := rfl
      rw [List.append_assoc, readItems?, first.reads (by omega)]
      simp only [List.singleton_append, skipSpace_cons solid, later, Option.map_some]

theorem exists_intercalate_eq_cons (char : Char) (text : List Char) (texts : List (List Char)) :
    ∃ rest, [','].intercalate ((char :: text) :: texts) = char :: rest := by
  cases texts with
  | nil => exact ⟨text, List.intercalate_singleton⟩
  | cons next texts => exact ⟨_, List.intercalate_cons_cons⟩

theorem Writes.array (entered : enter depth = some inner) {texts : List (List Char)}
    {values : List Json} (items : List.Forall₂ (Writes dialect inner) texts values) :
    Writes dialect depth ('[' :: [','].intercalate texts ++ [']']) (.array values) where
  starts := ⟨_, _, rfl, rfl, by decide, by decide⟩
  reads enough rest := by
    rw [List.length_append, List.length_cons, List.length_singleton] at enough
    obtain ⟨fuel, rfl, fits⟩ := exists_fuel enough
    have opens : isSpace '[' = false := rfl
    cases items with
    | nil =>
        have closes : isSpace ']' = false := rfl
        simp [readValue?, skipSpace_cons opens, skipSpace_cons closes]
    | @cons text value texts values first others =>
        have read := readItems?_intercalate first others fits rest
        obtain ⟨char, more, rfl, solid, notClosed, -⟩ := first.starts
        obtain ⟨more, same⟩ := exists_intercalate_eq_cons char more texts
        rw [same] at read ⊢
        simp only [List.cons_append, List.append_assoc, List.nil_append] at read ⊢
        simp only [readValue?, skipSpace_cons opens, skipSpace_cons solid, entered]
        split
        · next same => exact (notClosed (List.cons.inj same).1).elim
        · rw [read, Option.map_some]

theorem WritesMember.starts {text : List Char} {member : String × Json}
    (writes : WritesMember dialect depth text member) : ∃ more, text = '"' :: more := by
  cases writes
  exact ⟨_, rfl⟩

/-- How an object goes on behind a member. -/
def behindMember (dialect : Dialect) (fuel : Nat) (depth : Option Nat) (member : String × Json) :
    List Char → Option (List (String × Json) × List Char)
  | '\x7d' :: rest => some ([member], rest)
  | ',' :: rest =>
      (readMembers? dialect fuel depth rest).map fun found => (member :: found.1, found.2)
  | _ => none

theorem WritesMember.reads {text : List Char} {member : String × Json}
    (writes : WritesMember dialect depth text member) {fuel : Nat} (fits : text.length ≤ fuel)
    (rest : List Char) :
    readMembers? dialect (fuel + 1) depth (text ++ rest) =
      behindMember dialect fuel depth member (skipSpace rest) := by
  cases writes with
  | @of key chars value writes =>
      simp only [List.cons_append, List.append_assoc, List.length_cons,
        List.length_append] at fits ⊢
      have quotes : isSpace '"' = false := rfl
      have colon : isSpace ':' = false := rfl
      have read := writes.reads (by omega : chars.length ≤ fuel) rest
      simp only [readMembers?, skipSpace_cons quotes, readString?_escaped, skipSpace_cons colon,
        read]
      rfl

/-- The members of an object, up to its closing brace. -/
theorem readMembers?_intercalate {texts : List (List Char)} {members : List (String × Json)}
    {text : List Char} {member : String × Json} (first : WritesMember dialect depth text member)
    (others : List.Forall₂ (WritesMember dialect depth) texts members) {fuel : Nat}
    (enough : ([','].intercalate (text :: texts)).length < fuel) (rest : List Char) :
    readMembers? dialect fuel depth ([','].intercalate (text :: texts) ++ '\x7d' :: rest) =
      some (member :: members, rest) := by
  induction others generalizing text member fuel with
  | nil =>
      obtain ⟨fuel, rfl, fits⟩ := exists_fuel enough
      rw [List.intercalate_singleton] at fits ⊢
      have closes : isSpace '\x7d' = false := rfl
      rw [first.reads fits, skipSpace_cons closes]
      rfl
  | @cons next nextMember texts members second others step =>
      obtain ⟨fuel, rfl, fits⟩ := exists_fuel enough
      rw [List.intercalate_cons_cons, List.append_assoc] at fits ⊢
      simp only [List.length_append, List.length_singleton] at fits
      have later : readMembers? dialect fuel depth
          ([','].intercalate (next :: texts) ++ '\x7d' :: rest) =
          some (nextMember :: members, rest) := step second (by omega)
      have comma : isSpace ',' = false := rfl
      rw [List.append_assoc, first.reads (by omega), List.singleton_append,
        skipSpace_cons comma, behindMember, later, Option.map_some]

theorem Writes.object (entered : enter depth = some inner) {texts : List (List Char)}
    {members : List (String × Json)}
    (each : List.Forall₂ (WritesMember dialect inner) texts members)
    (kept : dialect.members members = members) :
    Writes dialect depth ('\x7b' :: [','].intercalate texts ++ ['\x7d']) (.object members) where
  starts := ⟨_, _, rfl, rfl, by decide, by decide⟩
  reads enough rest := by
    rw [List.length_append, List.length_cons, List.length_singleton] at enough
    obtain ⟨fuel, rfl, fits⟩ := exists_fuel enough
    have opens : isSpace '\x7b' = false := rfl
    cases each with
    | nil =>
        have closes : isSpace '\x7d' = false := rfl
        simp [readValue?, skipSpace_cons opens, skipSpace_cons closes]
    | @cons text member texts members first others =>
        have read := readMembers?_intercalate first others fits rest
        obtain ⟨more, rfl⟩ := first.starts
        obtain ⟨more, same⟩ := exists_intercalate_eq_cons '"' more texts
        rw [same] at read ⊢
        have quotes : isSpace '"' = false := rfl
        simp only [List.cons_append, List.append_assoc, List.nil_append] at read ⊢
        simp only [readValue?, skipSpace_cons opens, skipSpace_cons quotes, entered]
        split
        · next same => cases same
        · rw [read, Option.map_some, kept]

end Writes

/-! ## Portable values -/

/-- Values that every reader has to understand alike, with containers open at most at some height.
Readers differ in how they round numbers, and in which of several members with one key counts. -/
inductive Portable : (height : Nat) → Json → Prop where
  | null {height : Nat} : Portable height .null
  | bool {height : Nat} (value : Bool) : Portable height (.bool value)
  | text {height : Nat} (value : String) : Portable height (.text value)
  | array {height : Nat} {items : List Json} (portable : ∀ item ∈ items, Portable height item) :
      Portable (height + 1) (.array items)
  | object {height : Nat} {members : List (String × Json)}
      (portable : ∀ member ∈ members, Portable height member.2)
      (distinct : (members.map Prod.fst).Nodup) : Portable (height + 1) (.object members)

/-- Members compare by their keys. -/
def memberOrder (left right : String × Json) : Bool := decide (left.1 ≤ right.1)

/-- The order of members is that of their keys, whatever becomes of their values. -/
theorem mergeSort_map_values {β : Type} (change : Json → β) {order : String × β → String × β → Bool}
    (byKey : ∀ left right : String × Json,
      memberOrder left right = order (left.1, change left.2) (right.1, change right.2))
    (members : List (String × Json)) :
    (members.map fun member => (member.1, change member.2)).mergeSort order =
      (members.mergeSort memberOrder).map fun member => (member.1, change member.2) := by
  symm
  apply List.map_mergeSort
  exact fun left _ right _ => byKey left right

mutual

/-- The value with the members of all its objects in the order of their keys. -/
def sorted : Json → Json
  | array items => .array (sortedItems items)
  | object members => .object ((sortedMembers members).mergeSort memberOrder)
  | value => value

def sortedItems : List Json → List Json
  | [] => []
  | item :: rest => sorted item :: sortedItems rest

def sortedMembers : List (String × Json) → List (String × Json)
  | [] => []
  | (key, value) :: rest => (key, sorted value) :: sortedMembers rest

end

theorem sortedItems_eq_map (items : List Json) : sortedItems items = items.map sorted := by
  induction items with
  | nil => rfl
  | cons item rest step => rw [sortedItems, step, List.map_cons]

theorem sortedMembers_eq_map (members : List (String × Json)) :
    sortedMembers members = members.map fun member => (member.1, member.2.sorted) := by
  induction members with
  | nil => rfl
  | cons member rest step => rw [sortedMembers, step, List.map_cons]

theorem renderItems_eq_map (items : List Json) : renderItems items = items.map render := by
  induction items with
  | nil => rfl
  | cons item rest step => rw [renderItems, step, List.map_cons]

theorem renderMembers_eq_map (members : List (String × Json)) :
    renderMembers members = members.map fun member => (member.1, member.2.render) := by
  induction members with
  | nil => rfl
  | cons member rest step => rw [renderMembers, step, List.map_cons]

/-- A depth allows containers to be open up to a height. -/
def Allows (height : Nat) : Option Nat → Prop
  | none => True
  | some depth => height ≤ depth

theorem exists_enter_of_allows {height : Nat} {depth : Option Nat}
    (allows : Allows (height + 1) depth) :
    ∃ inner, enter depth = some inner ∧ Allows height inner := by
  cases depth with
  | none => exact ⟨none, rfl, trivial⟩
  | some depth =>
      obtain ⟨less, rfl⟩ : ∃ less, depth = less + 1 :=
        Nat.exists_eq_succ_of_ne_zero (Nat.ne_of_gt (Nat.lt_of_lt_of_le (Nat.succ_pos _) allows))
      exact ⟨some less, rfl, Nat.le_of_succ_le_succ allows⟩

/-- A dialect that understands portable values, up to a height. -/
structure Dialect.Understands (dialect : Dialect) (height : Nat) : Prop where
  allows : Allows height dialect.depth
  keeps : ∀ members : List (String × Json), (members.map Prod.fst).Nodup →
    dialect.members members = members

theorem Dialect.stream_understands {height : Nat} (low : height ≤ 1023) :
    Dialect.stream.Understands height where
  allows := low
  keeps _ _ := rfl

theorem Dialect.reply_understands (height : Nat) : Dialect.reply.Understands height where
  allows := trivial
  keeps _ distinct := lastWritten_of_nodup distinct

/-! ## Reading what is written -/

section RoundTrip

variable {dialect : Dialect} {depth : Option Nat} {height : Nat} {value : Json}

theorem toList_commaSeparated (texts : List String) :
    (",".intercalate texts).toList = [','].intercalate (texts.map String.toList) := by
  rw [String.toList_intercalate]
  rfl

theorem toList_render_array (items : List Json) :
    (render (.array items)).toList =
      '[' :: [','].intercalate (items.map fun item => item.render.toList) ++ [']'] := by
  rw [render, renderItems_eq_map]
  simp only [String.toList_append, toList_commaSeparated, List.map_map]
  rfl

theorem toList_render_object (members : List (String × Json)) :
    (render (.object members)).toList =
      '\x7b' :: [','].intercalate ((members.mergeSort memberOrder).map fun member =>
        '"' :: member.1.toList.flatMap escapeChar ++ '"' :: ':' :: member.2.render.toList) ++
        ['\x7d'] := by
  have order : (renderMembers members).mergeSort keyOrder =
      (members.mergeSort memberOrder).map fun member => (member.1, member.2.render) := by
    rw [renderMembers_eq_map]
    exact mergeSort_map_values render (fun _ _ => rfl) members
  have text (member : String × Json) :
      (quote member.1 ++ ":" ++ member.2.render).toList =
        '"' :: member.1.toList.flatMap escapeChar ++ '"' :: ':' :: member.2.render.toList := by
    simp [quote]
  rw [render, braced, order]
  simp only [String.toList_append, toList_commaSeparated, List.map_map, Function.comp_def, ← text]
  rfl

/-- The characters that a portable value is written with write the value, sorted. -/
theorem writes_render (keeps : ∀ members : List (String × Json), (members.map Prod.fst).Nodup →
      dialect.members members = members) (portable : Portable height value)
    (allows : Allows height depth) : Writes dialect depth value.render.toList value.sorted := by
  induction portable generalizing depth with
  | null => exact .null
  | bool value => exact .bool value
  | text value => exact .text value
  | array _ step =>
      obtain ⟨inner, entered, allows⟩ := exists_enter_of_allows allows
      rw [toList_render_array, sorted, sortedItems_eq_map]
      refine .array entered ?_
      rw [List.forall₂_map_left_iff, List.forall₂_map_right_iff, List.forall₂_same]
      exact fun item member => step item member allows
  | @object _ members _ distinct step =>
      obtain ⟨inner, entered, allows⟩ := exists_enter_of_allows allows
      have order : (sortedMembers members).mergeSort memberOrder =
          (members.mergeSort memberOrder).map fun member => (member.1, member.2.sorted) := by
        rw [sortedMembers_eq_map]
        exact mergeSort_map_values sorted (fun _ _ => rfl) members
      rw [toList_render_object, sorted, order]
      refine .object entered ?_ (keeps _ ?_)
      · rw [List.forall₂_map_left_iff, List.forall₂_map_right_iff, List.forall₂_same]
        intro member sortedMember
        have writes := step member (List.mem_mergeSort.mp sortedMember) allows
        exact .of writes
      · rw [List.map_map]
        exact ((List.mergeSort_perm members memberOrder).map Prod.fst).nodup_iff.mpr distinct

theorem Writes.skipMark {chars : List Char} (writes : Writes dialect depth chars value) :
    skipMark chars = chars := by
  obtain ⟨first, rest, rfl, -, -, notMark⟩ := writes.starts
  unfold Json.skipMark
  split
  · next same => exact (notMark (List.cons.inj same).1).elim
  · rfl

/-- A portable value that is written is read as what it is. -/
theorem parse_render (understands : dialect.Understands height) (portable : Portable height value) :
    parse dialect value.render = some value.sorted := by
  have writes := writes_render understands.keeps portable understands.allows
  have read := writes.reads (show _ ≤ 2 * value.render.toList.length + 1 by omega) []
  rw [List.append_nil] at read
  rw [parse, writes.skipMark, ite_self, parseChars, read]
  rfl

end RoundTrip

end SwapFeed.Json
