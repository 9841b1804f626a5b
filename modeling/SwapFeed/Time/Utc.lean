import SwapFeed.Text.Integer
import SwapFeed.Time.Calendar

/-!
# Instants as text

Funding times come as `YYYY-MM-DD`, a `T` or a space, `HH:MM:SS`, an optional fraction and an
optional mark for UTC, or as epoch digits.  Request signatures carry the clock as such a text with
milliseconds.
-/

namespace SwapFeed

open SwapFeed.Text

/-- From this number on, an epoch value counts milliseconds; below it, seconds. -/
def epochMillisCutoff : Int := 100000000000

/-- The latest exchange timestamp that is accepted, 3000-01-01T00:00:00Z in milliseconds. -/
def latestEpochMillis : Int := 32503680000000

/-- Whole seconds of an epoch value in seconds or milliseconds. -/
def epochSeconds (value : Int) : Int :=
  if epochMillisCutoff ≤ value then value / 1000 else value

/-- Why a text is not an instant. -/
inductive InstantError where
  | outOfRange (text : String)
  | unparsable (text : String)
  | notUtc (text : String)
  deriving DecidableEq, Repr

namespace InstantError

def message : InstantError → String
  | outOfRange text => "timestamp out of range \"" ++ text ++ "\""
  | unparsable text => "unparsable UTC timestamp \"" ++ text ++ "\""
  | notUtc text => "non-UTC timestamp \"" ++ text ++ "\""

end InstantError

namespace DateTime

/-- An integer of at most a number of characters, its sign included, with white space in front
skipped. -/
def field? (width : Nat) (chars : List Char) : Option (Int × List Char) :=
  let chars := chars.dropWhile isWhite
  let (negative, rest) := splitSign chars
  let width := width - (chars.length - rest.length)
  let digits := (rest.take width).takeWhile Char.isDigit
  if digits.isEmpty then none
  else
    some (if negative then -(decimal digits : Int) else decimal digits, rest.drop digits.length)

/-- The text behind a character, if it starts with it. -/
def after? (mark : Char) : List Char → Option (List Char)
  | [] => none
  | char :: rest => if char = mark then some rest else none

/-- The text behind the mark between date and time. -/
def afterDate? : List Char → Option (List Char)
  | 'T' :: rest => some rest
  | ' ' :: rest => some rest
  | _ => none

/-- The date and time at the start of a text, and what follows it. -/
def read? (chars : List Char) : Option (DateTime × List Char) := do
  let (year, chars) ← field? 4 chars
  let chars ← after? '-' chars
  let (month, chars) ← field? 2 chars
  let chars ← after? '-' chars
  let (day, chars) ← field? 2 chars
  let chars ← afterDate? chars
  let (hour, chars) ← field? 2 chars
  let chars ← after? ':' chars
  let (minute, chars) ← field? 2 chars
  let chars ← after? ':' chars
  let (second, chars) ← field? 2 chars
  return (⟨⟨year, month, day⟩, hour, minute, second⟩, chars)

/-- The text behind an optional fraction of a second. -/
def skipFraction : List Char → List Char
  | '.' :: rest => rest.dropWhile Char.isDigit
  | chars => chars

/-- The ways in which UTC may be marked, the silent one included. -/
def utcMarks : List (List Char) :=
  [[], ['Z'], ['+', '0', '0', ':', '0', '0'], ['+', '0', '0', '0', '0']]

end DateTime

/-- The epoch seconds of an instant written as text. -/
def readInstant (text : String) : Except InstantError Int :=
  let chars := text.toList
  if isDigits chars then
    let value : Int := decimal chars
    if fitsInt64 value then .ok (epochSeconds value) else .error (.outOfRange text)
  else
    match DateTime.read? chars with
    | none => .error (.unparsable text)
    | some (time, rest) =>
        if DateTime.skipFraction rest ∈ DateTime.utcMarks then .ok time.toSeconds
        else .error (.notUtc text)

end SwapFeed
