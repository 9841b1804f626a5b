import SwapFeed.Stream.Channel
import SwapFeed.Stream.Field

/-!
# Funding updates of the stream

A message of the instruments channel with type `delta` carries one sparse update per entry of
`data.update`, in order.  An update sets just the fields that its entry has.
-/

namespace SwapFeed.FundingUpdate

/-- The native id that a message is about: from its topic, or else from its argument. -/
def nativeOf (message : Json) : Except MessageError String :=
  match message.getText? "topic" with
  | some topic => .ok (Topic.instrument topic)
  | none => do
      Field.text (← Field.required (← Field.required message "arg") "instId") "arg.instId"

/-- A field that an entry may have. -/
def optional {α : Type} (entry : Json) (key : String)
    (read : Json → String → Except MessageError α) : Except MessageError (Option α) :=
  match entry.get? key with
  | some value => (read value key).map some
  | none => .ok none

/-- An instant as text, or an integer that counts seconds or milliseconds. -/
def instant (value : Json) (field : String) : Except MessageError Int := do
  let text ←
    match value with
    | .text text => pure text
    | _ => (Field.integer value field).map toString
  (readInstant text).mapError .instant

/-- A rate in millionths. -/
def millionths (value : Json) (field : String) : Except MessageError Double :=
  (Field.integer value field).map fun count =>
    Double.ofInt count * Double.ofRatio false 1 1000000

/-- The update of an entry. -/
def ofEntry (pair : String) (entry : Json) : Except MessageError FundingUpdate := do
  let indexPrice ← optional entry "index_price" Field.double
  let markPrice ← optional entry "mark_price" Field.double
  let nextFunding ← optional entry "next_funding_time" instant
  let rate ← optional entry "predicted_funding_rate_e6" millionths
  return ⟨pair, indexPrice, markPrice, nextFunding, rate⟩

/-- The updates of a delta. -/
def ofDelta (table : SymbolTable) (message : Json) : Except MessageError (List FundingUpdate) := do
  let native ← nativeOf message
  if native = "" then throw .noInstrument
  let pair ← Field.pair table native
  match ← Field.required (← Field.required message "data") "update" with
  | .array entries => entries.mapM (ofEntry pair)
  | _ => throw .updatesNotArray

/-- The updates of a message; other types than `delta` carry none. -/
def ofMessage (table : SymbolTable) (message : Json) :
    Except MessageError (List FundingUpdate) :=
  if message.getText? "type" = some "delta" then ofDelta table message else .ok []

end SwapFeed.FundingUpdate
