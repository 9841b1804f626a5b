import SwapFeed.Event
import SwapFeed.Json.Printer
import SwapFeed.Json.Reader
import SwapFeed.Text.Integer

/-!
# Reading replies

A good reply is an object with `code` zero, or without a code, whose `data` starts with an object.
Strict readers take the fields from there; every failure names what was asked for.
-/

namespace SwapFeed

/-- Why a query gives no answer.  `what` names the query. -/
inductive QueryError where
  /-- The round trip failed. -/
  | transport (reason : String)
  /-- The exchange refused the request. -/
  | refused (what code message : String)
  /-- The exchange refused the request without a readable message. -/
  | unreadableRefusal
  | notObject (what : String)
  | noRow (what : String)
  | missing (what field : String)
  | notNumeric (what value : String)
  | notInteger (what value : String)
  | outOfRange (what value : String)
  | notArray (what field : String)
  | badLevel (what field : String)
  | notEpoch (what : String) (millis : Int)
  deriving DecidableEq, Repr

namespace QueryError

def message : QueryError → String
  | transport reason => reason
  | refused what code message =>
      what ++ ": OKX error " ++ code ++ if message = "" then "" else " (" ++ message ++ ")"
  | unreadableRefusal => ""
  | notObject what => what ++ ": response is not a JSON object"
  | noRow what => what ++ ": missing data[0]"
  | missing what field => what ++ ": missing '" ++ field ++ "'"
  | notNumeric what value => what ++ " is not numeric: " ++ value
  | notInteger what value => what ++ " is not an integer: " ++ value
  | outOfRange what value => what ++ " out of range: " ++ value
  | notArray what field => what ++ ": '" ++ field ++ "' is not an array"
  | badLevel what field => what ++ ": bad level in '" ++ field ++ "'"
  | notEpoch what millis => what ++ ": implausible ts " ++ toString millis

end QueryError

namespace Reply

open SwapFeed.Text

/-- The text of a code: a string as it is, any other value as it is written. -/
def codeText : Json → String
  | .text code => code
  | code => code.render

/-- The code that means success. -/
def success : String := "0"

/-- Fails if the exchange refused the request. -/
def checkCode (what : String) (reply : Json) : Except QueryError Unit :=
  match reply.get? "code" with
  | none => .ok ()
  | some code =>
      if codeText code = success then .ok ()
      else
        match reply.get? "msg" with
        | none => .error (.refused what (codeText code) "")
        | some (.text message) => .error (.refused what (codeText code) message)
        | some _ => .error .unreadableRefusal

/-- The object that a body writes, of a request that was not refused. -/
def ofBody (what body : String) : Except QueryError Json :=
  match Json.parse .reply body with
  | some (.object members) => do
      checkCode what (.object members)
      return .object members
  | _ => .error (.notObject what)

/-- The object that the data of a reply start with. -/
def firstRow (what : String) (reply : Json) : Except QueryError Json :=
  match reply.get? "data" with
  | some (.array (.object members :: _)) => .ok (.object members)
  | _ => .error (.noRow what)

/-- A field that has to be there. -/
def field (what : String) (row : Json) (key : String) : Except QueryError Json :=
  match row.get? key with
  | some value => .ok value
  | none => .error (.missing what key)

/-- A number, or a text that writes one. -/
def double (what : String) (value : Json) : Except QueryError Double :=
  match value with
  | .text text =>
      match Double.numeral? text.toList with
      | some number => .ok number
      | none => .error (.notNumeric what value.render)
  | _ =>
      match value.number? with
      | some number => .ok number
      | none => .error (.notNumeric what value.render)

/-- An integer of 64 bits, or a text that writes one. -/
def integer (what : String) (value : Json) : Except QueryError Int :=
  match value with
  | .text text =>
      match integer? text.toList with
      | some number =>
          if fitsInt64 number then .ok number else .error (.outOfRange what value.render)
      | none => .error (.notInteger what value.render)
  | .int number => if fitsInt64 number then .ok number else .error (.outOfRange what value.render)
  | _ => .error (.notInteger what value.render)

/-- One row of a side: price and size, further columns ignored.  Of two faults that of the size
counts. -/
def level (what key : String) (row : Json) : Except QueryError Level :=
  match row with
  | .array (price :: size :: _) => do
      let size ← double (what ++ " size") size
      let price ← double (what ++ " price") price
      return ⟨price, size⟩
  | _ => .error (.badLevel what key)

/-- The rows of a side, in order. -/
def levels (what : String) (row : Json) (key : String) : Except QueryError (List Level) := do
  match ← field what row key with
  | .array rows => rows.mapM (level what key)
  | _ => throw (.notArray what key)

end Reply

end SwapFeed
