import SwapFeed.Stream.Field
import SwapFeed.UpdateId

/-!
# Order book diffs of the stream

A message of the books channel with action `update` carries one diff, in the first record of its
data.  The message is read completely before an update id is drawn for it.
-/

namespace SwapFeed

/-- A change of a book as the stream sends it, before it gets an update id. -/
structure BookChange where
  pair : String
  /-- Exchange time in milliseconds. -/
  millis : Int
  bids : List Level
  asks : List Level
  deriving DecidableEq, Inhabited, Repr

namespace BookChange

/-- The change in the first record of an update's data. -/
def ofUpdate (table : SymbolTable) (message : Json) : Except MessageError BookChange := do
  let native ← Field.text (← Field.required (← Field.required message "arg") "instId")
    "arg.instId"
  match ← Field.required message "data" with
  | .array (record :: _) =>
      let millis ← Field.epochMillis (← Field.required record "ts") "ts"
      let pair ← Field.pair table native
      let bids ← Field.levels (← Field.required record "bids") "bids"
      let asks ← Field.levels (← Field.required record "asks") "asks"
      return ⟨pair, millis, bids, asks⟩
  | _ => throw .noRecords

/-- The change that a message of the books channel carries; other actions carry none. -/
def ofMessage (table : SymbolTable) (message : Json) :
    Except MessageError (Option BookChange) :=
  if message.getText? "action" = some "update" then (ofUpdate table message).map some
  else .ok none

/-- The update id sequence after the change's id has been drawn. -/
def nextIds (change : BookChange) (now : UInt64) (ids : UpdateIds) : UpdateIds :=
  ids.advance now (UInt64.ofNat (change.millis.toNat * 1000))

/-- The diff with a given update id. -/
def toDiff (change : BookChange) (updateId : UInt64) : BookMessage where
  kind := .diff
  pair := change.pair
  updateId := updateId
  bids := change.bids
  asks := change.asks
  timestamp := Field.secondsOfMillis change.millis

end BookChange

end SwapFeed
