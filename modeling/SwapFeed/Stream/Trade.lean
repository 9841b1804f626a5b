import SwapFeed.Stream.Field

/-!
# Trades of the stream

A message of the trades channel carries one trade per entry of its data, in order.  One bad entry
makes the whole message malformed.
-/

namespace SwapFeed.Trade

/-- The side that a text names. -/
def sideOf (side : String) : Except MessageError TradeSide :=
  if side = "buy" then .ok .buy
  else if side = "sell" then .ok .sell
  else .error (.unknownSide side)

/-- The trade of an entry. -/
def ofEntry (table : SymbolTable) (entry : Json) : Except MessageError Trade := do
  let side ← Field.text (← Field.required entry "side") "side"
  let pair ← Field.pair table (← Field.text (← Field.required entry "instId") "instId")
  let tradeId ← Field.identifier (← Field.required entry "tradeId") "tradeId"
  let side ← sideOf side
  let amount ← Field.double (← Field.required entry "sz") "sz"
  let price ← Field.double (← Field.required entry "px") "px"
  let millis ← Field.epochMillis (← Field.required entry "ts") "ts"
  return ⟨pair, tradeId, side, amount, price, Field.secondsOfMillis millis⟩

/-- The trades of a message. -/
def ofMessage (table : SymbolTable) (message : Json) : Except MessageError (List Trade) := do
  match ← Field.required message "data" with
  | .array entries => entries.mapM (ofEntry table)
  | _ => throw .tradesNotArray

end SwapFeed.Trade
