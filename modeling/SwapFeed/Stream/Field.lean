import SwapFeed.Event
import SwapFeed.Instrument
import SwapFeed.Json.Basic
import SwapFeed.Time.Utc

/-!
# Fields of stream messages

Strict readers for the fields of a message.  Most numbers come as text, so every numeric reader
accepts both a number and a text that writes one.  Whatever is missing or malformed is an error that
names the field.
-/

namespace SwapFeed

/-- Why a message is dropped. -/
inductive MessageError where
  | missing (field : String) (reason : LookupError)
  | notText (field : String)
  | notNumeric (field : String) (text : Option String)
  | notInteger (field : String) (text : Option String)
  | outOfRange (field : String) (text : Option String)
  | notEpoch (field : String) (millis : Int)
  | notArray (field : String)
  | badLevel (field : String)
  | noRecords
  | tradesNotArray
  | unknownSide (side : String)
  | noInstrument
  | updatesNotArray
  | instant (cause : InstantError)
  | unknownSymbol (cause : UnknownSymbol)
  deriving DecidableEq, Repr

namespace MessageError

/-- The text at fault, quoted, where there is one. -/
def quoted : Option String → String
  | some text => ": \"" ++ text ++ "\""
  | none => ""

def message : MessageError → String
  | missing field reason => "missing field '" ++ field ++ "': " ++ reason.name
  | notText field => "field '" ++ field ++ "' is not a string"
  | notNumeric field text => "field '" ++ field ++ "' is not numeric" ++ quoted text
  | notInteger field text => "field '" ++ field ++ "' is not an integer" ++ quoted text
  | outOfRange field text => "field '" ++ field ++ "' out of range" ++ quoted text
  | notEpoch field millis =>
      "field '" ++ field ++ "' is not a plausible epoch ms: " ++ toString millis
  | notArray field => "field '" ++ field ++ "' is not an array"
  | badLevel field => "level in '" ++ field ++ "' is not [price, size, ...]"
  | noRecords => "books update without data records"
  | tradesNotArray => "trades message 'data' is not an array"
  | unknownSide side => "unknown trade side '" ++ side ++ "'"
  | noInstrument => "funding delta without instrument id"
  | updatesNotArray => "funding delta 'data.update' is not an array"
  | instant cause => cause.message
  | unknownSymbol cause => cause.message

end MessageError

namespace Field

open SwapFeed.Text

/-- The member of a value that has to be there. -/
def required (parent : Json) (key : String) : Except MessageError Json :=
  (parent.lookup key).mapError (.missing key)

def text (value : Json) (field : String) : Except MessageError String :=
  match value with
  | .text text => .ok text
  | _ => .error (.notText field)

/-- A number, or a text that writes one. -/
def double (value : Json) (field : String) : Except MessageError Double :=
  match value with
  | .text text =>
      match Double.numeral? text.toList with
      | some number => .ok number
      | none => .error (.notNumeric field (some text))
  | _ =>
      match value.number? with
      | some number => .ok number
      | none => .error (.notNumeric field none)

/-- An integer of 64 bits, or a text or a whole number that writes one. -/
def integer (value : Json) (field : String) : Except MessageError Int :=
  match value with
  | .text text =>
      match integer? text.toList with
      | some number =>
          if fitsInt64 number then .ok number else .error (.outOfRange field (some text))
      | none => .error (.notInteger field (some text))
  | .int number => if fitsInt64 number then .ok number else .error (.outOfRange field none)
  | .real number =>
      if number.isFinite && number.isWhole then
        if fitsInt64 number.truncate then .ok number.truncate
        else .error (.outOfRange field none)
      else .error (.notInteger field none)
  | _ => .error (.notInteger field none)

/-- An exchange timestamp in milliseconds, from 1970 to the year 3000. -/
def epochMillis (value : Json) (field : String) : Except MessageError Int := do
  let millis ← integer value field
  if 0 ≤ millis ∧ millis ≤ latestEpochMillis then return millis
  else throw (.notEpoch field millis)

/-- An id: a text as it is, or an integer. -/
def identifier (value : Json) (field : String) : Except MessageError String :=
  match value with
  | .text text => .ok text
  | _ => (integer value field).map toString

/-- One row of a side: price and size, further columns ignored. -/
def level (row : Json) (field : String) : Except MessageError Level :=
  match row with
  | .array (price :: size :: _) => do
      let price ← double price field
      let size ← double size field
      return ⟨price, size⟩
  | _ => .error (.badLevel field)

/-- The rows of a side, in order. -/
def levels (value : Json) (field : String) : Except MessageError (List Level) :=
  match value with
  | .array rows => rows.mapM (level · field)
  | _ => .error (.notArray field)

/-- The canonical pair of a native id. -/
def pair (table : SymbolTable) (native : String) : Except MessageError String :=
  (table.toCanonical native).mapError .unknownSymbol

/-- Milliseconds as seconds. -/
def secondsOfMillis (millis : Int) : Double :=
  Double.ofInt millis * Double.ofRatio false 1 1000

end Field

end SwapFeed
