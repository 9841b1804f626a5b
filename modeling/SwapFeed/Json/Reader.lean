import SwapFeed.Json.Basic

/-!
# Reading JSON

Texts follow the JSON grammar strictly: one value, and nothing around it but white space.  Where
the grammar leaves room, a `Dialect` decides: which of several members with one key counts, what
becomes of integers beyond 64 bits, how deeply containers may be nested, whether a byte order mark
may stand in front, and whether a text may end before its last character.
-/

namespace SwapFeed.Json

open SwapFeed.Text

/-- What the grammar leaves open. -/
structure Dialect where
  /-- The number an integer literal stands for; the flag tells whether a minus is written. -/
  integer : (negative : Bool) → (digits : Nat) → Option Json
  /-- The members of an object, from those written. -/
  members : List (String × Json) → List (String × Json)
  /-- How deeply containers may be nested, if there is a limit.  Empty ones do not count. -/
  depth : Option Nat
  /-- Whether a byte order mark may stand in front. -/
  mayBeMarked : Bool
  /-- Whether a character behind the value ends the text, whatever follows it. -/
  ends : Char → Bool

/-- The integer with a sign and an absolute value. -/
def signed (negative : Bool) (digits : Nat) : Int :=
  if negative then -(digits : Int) else digits

/-- Whether an integer fits a 64-bit word, signed or unsigned. -/
def fitsWord (value : Int) : Bool :=
  decide (-9223372036854775808 ≤ value ∧ value ≤ 18446744073709551615)

/-- Stream messages: the first of several members counts, an integer has to fit 64 bits, no more
than 1023 containers with something in them are open at once, and a text is all that there is. -/
def Dialect.stream : Dialect where
  integer negative digits :=
    if fitsWord (signed negative digits) then some (.int (signed negative digits)) else none
  members := id
  depth := some 1023
  mayBeMarked := false
  ends _ := false

/-- Replies: the last of several members counts, an integer that does not fit 64 bits is rounded,
nesting is unlimited, and the text stands behind a byte order mark if there is one and ends at
U+0000. -/
def Dialect.reply : Dialect where
  integer negative digits :=
    if fitsWord (signed negative digits) then some (.int (signed negative digits))
    else
      let rounded := Double.ofScaled negative 10 digits 0
      if rounded.isFinite then some (.real rounded) else none
  members := lastWritten
  depth := none
  mayBeMarked := true
  ends char := char = '\x00'

def isSpace (char : Char) : Bool :=
  char = ' ' || char = '\t' || char = '\n' || char = '\r'

def skipSpace (chars : List Char) : List Char := chars.dropWhile isSpace

/-- The code unit written by four hexadecimal digits. -/
def unit? : List Char → Option (Nat × List Char)
  | first :: second :: third :: fourth :: rest =>
      if [first, second, third, fourth].all Double.isHexDigit then
        some (Double.hexadecimal [first, second, third, fourth], rest)
      else none
  | _ => none

/-- The character behind an escape's `u`: one code unit, or a pair of surrogates. -/
def unicodeEscape? (chars : List Char) : Option (Char × List Char) :=
  match unit? chars with
  | none => none
  | some (high, rest) =>
      if 0xD800 ≤ high ∧ high < 0xDC00 then
        match rest with
        | '\\' :: 'u' :: low =>
            match unit? low with
            | some (low, rest) =>
                if 0xDC00 ≤ low ∧ low < 0xE000 then
                  some (Char.ofNat (0x10000 + (high - 0xD800) * 0x400 + (low - 0xDC00)), rest)
                else none
            | none => none
        | _ => none
      else if 0xDC00 ≤ high ∧ high < 0xE000 then none
      else some (Char.ofNat high, rest)

/-- The character behind a backslash. -/
def escape? : List Char → Option (Char × List Char)
  | '"' :: rest => some ('"', rest)
  | '\\' :: rest => some ('\\', rest)
  | '/' :: rest => some ('/', rest)
  | 'b' :: rest => some ('\x08', rest)
  | 'f' :: rest => some ('\x0c', rest)
  | 'n' :: rest => some ('\n', rest)
  | 'r' :: rest => some ('\r', rest)
  | 't' :: rest => some ('\t', rest)
  | 'u' :: rest => unicodeEscape? rest
  | _ => none

/-- The characters of a string up to its closing quote, after those already read, in reverse. -/
def stringBody? : (fuel : Nat) → (done : List Char) → List Char →
    Option (List Char × List Char)
  | 0, _, _ => none
  | _ + 1, _, [] => none
  | fuel + 1, done, char :: rest =>
      if char = '"' then some (done.reverse, rest)
      else if char = '\\' then
        match escape? rest with
        | some (escaped, rest) => stringBody? fuel (escaped :: done) rest
        | none => none
      else if char.toNat < 0x20 then none
      else stringBody? fuel (char :: done) rest

/-- The string whose opening quote has been read. -/
def readString? (chars : List Char) : Option (String × List Char) :=
  (stringBody? (chars.length + 1) [] chars).map fun found => (String.ofList found.1, found.2)

/-- The digits of an integer part: a lone zero, or digits that do not start with one. -/
def wholePart? : List Char → Option (List Char × List Char)
  | [] => none
  | '0' :: rest => some (['0'], rest)
  | chars =>
      if (chars.takeWhile Char.isDigit).isEmpty then none
      else some (chars.takeWhile Char.isDigit, chars.dropWhile Char.isDigit)

/-- The digits of a fraction, none where no point stands. -/
def fractionPart? : List Char → Option (Option (List Char) × List Char)
  | '.' :: rest =>
      if (rest.takeWhile Char.isDigit).isEmpty then none
      else some (some (rest.takeWhile Char.isDigit), rest.dropWhile Char.isDigit)
  | chars => some (none, chars)

/-- An exponent, none where no marker stands. -/
def exponentPart? : List Char → Option (Option Int × List Char)
  | [] => some (none, [])
  | char :: rest =>
      if char = 'e' || char = 'E' then
        let (negative, digits) := splitSign rest
        if (digits.takeWhile Char.isDigit).isEmpty then none
        else
          some (some (signed negative (decimal (digits.takeWhile Char.isDigit))),
            digits.dropWhile Char.isDigit)
      else some (none, char :: rest)

/-- A sign that may stand in front of a number; `true` stands for a minus. -/
def splitMinus : List Char → Bool × List Char
  | '-' :: rest => (true, rest)
  | chars => (false, chars)

/-- A number.  A literal with neither fraction nor exponent is an integer; any other is rounded,
and has to be finite. -/
def readNumber? (dialect : Dialect) (chars : List Char) : Option (Json × List Char) := do
  let (negative, chars) := splitMinus chars
  let (whole, chars) ← wholePart? chars
  let (fraction, chars) ← fractionPart? chars
  let (exponent, chars) ← exponentPart? chars
  match fraction, exponent with
  | none, none => return (← dialect.integer negative (decimal whole), chars)
  | _, _ =>
      let fraction := fraction.getD []
      let rounded := Double.ofScaled negative 10 (decimal (whole ++ fraction))
        (exponent.getD 0 - fraction.length)
      if rounded.isFinite then return (.real rounded, chars) else none

/-- One container fewer may be opened; `none` if no more may be. -/
def enter : Option Nat → Option (Option Nat)
  | none => some none
  | some 0 => none
  | some (depth + 1) => some (some depth)

/-- The text behind a fixed word, if it starts with it. -/
def afterWord? (word chars : List Char) : Option (List Char) :=
  if word.isPrefixOf chars then some (chars.drop word.length) else none

mutual

/-- The value at the start of a text, white space in front skipped, and what follows it. -/
def readValue? (dialect : Dialect) : (fuel : Nat) → (depth : Option Nat) → List Char →
    Option (Json × List Char)
  | 0, _, _ => none
  | fuel + 1, depth, chars =>
      match skipSpace chars with
      | '\x7b' :: rest =>
          match skipSpace rest with
          | '\x7d' :: rest => some (.object [], rest)
          | rest =>
              match enter depth with
              | none => none
              | some depth =>
                  (readMembers? dialect fuel depth rest).map fun found =>
                    (.object (dialect.members found.1), found.2)
      | '[' :: rest =>
          match skipSpace rest with
          | ']' :: rest => some (.array [], rest)
          | rest =>
              match enter depth with
              | none => none
              | some depth =>
                  (readItems? dialect fuel depth rest).map fun found => (.array found.1, found.2)
      | '"' :: rest => (readString? rest).map fun found => (.text found.1, found.2)
      | 't' :: rest => (afterWord? ['r', 'u', 'e'] rest).map fun rest => (.bool true, rest)
      | 'f' :: rest => (afterWord? ['a', 'l', 's', 'e'] rest).map fun rest => (.bool false, rest)
      | 'n' :: rest => (afterWord? ['u', 'l', 'l'] rest).map fun rest => (.null, rest)
      | rest => readNumber? dialect rest

/-- The items of an array up to its closing bracket. -/
def readItems? (dialect : Dialect) : (fuel : Nat) → (depth : Option Nat) → List Char →
    Option (List Json × List Char)
  | 0, _, _ => none
  | fuel + 1, depth, chars =>
      match readValue? dialect fuel depth chars with
      | none => none
      | some (item, rest) =>
          match skipSpace rest with
          | ']' :: rest => some ([item], rest)
          | ',' :: rest =>
              (readItems? dialect fuel depth rest).map fun found => (item :: found.1, found.2)
          | _ => none

/-- The members of an object up to its closing brace. -/
def readMembers? (dialect : Dialect) : (fuel : Nat) → (depth : Option Nat) → List Char →
    Option (List (String × Json) × List Char)
  | 0, _, _ => none
  | fuel + 1, depth, chars =>
      match skipSpace chars with
      | '"' :: rest =>
          match readString? rest with
          | none => none
          | some (key, rest) =>
              match skipSpace rest with
              | ':' :: rest =>
                  match readValue? dialect fuel depth rest with
                  | none => none
                  | some (value, rest) =>
                      match skipSpace rest with
                      | '\x7d' :: rest => some ([(key, value)], rest)
                      | ',' :: rest =>
                          (readMembers? dialect fuel depth rest).map fun found =>
                            ((key, value) :: found.1, found.2)
                      | _ => none
              | _ => none
      | _ => none

end

/-- Whether nothing more belongs to a text. -/
def atEnd (dialect : Dialect) : List Char → Bool
  | [] => true
  | char :: _ => dialect.ends char

/-- The value that a list of characters writes. -/
def parseChars (dialect : Dialect) (chars : List Char) : Option Json :=
  match readValue? dialect (2 * chars.length + 1) dialect.depth chars with
  | some (value, rest) => if atEnd dialect (skipSpace rest) then some value else none
  | none => none

/-- The characters behind a byte order mark, if the text starts with one. -/
def skipMark : List Char → List Char
  | '\ufeff' :: rest => rest
  | chars => chars

/-- The value that a text writes; `none` if it is not JSON in the dialect. -/
def parse (dialect : Dialect) (text : String) : Option Json :=
  parseChars dialect (if dialect.mayBeMarked then skipMark text.toList else text.toList)

end SwapFeed.Json
