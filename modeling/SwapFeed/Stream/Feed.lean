import SwapFeed.Json.Reader
import SwapFeed.Queue
import SwapFeed.Stream.Diff
import SwapFeed.Stream.FundingDelta
import SwapFeed.Stream.Trade
import SwapFeed.Text.Cut

/-!
# From stream texts to events

Every text of the stream either yields events for one queue or is dropped, with a log line where
that is worth knowing.  Events are added only after the whole text has been read.
-/

namespace SwapFeed

/-- What a text of the stream amounts to. -/
inductive Delivery where
  | trades (trades : List Trade)
  | diff (change : BookChange)
  | funding (updates : List FundingUpdate)
  /-- Nothing, with a line for the log if there is something to say. -/
  | dropped (log : Option String)
  deriving Repr

namespace Delivery

open SwapFeed.Text

/-- The text of a liveness answer. -/
def pong : String := "pong"

/-- The name of the error that a text that is not JSON makes. -/
def parseErrorName : String := "PARSE_ERROR"

/-- How many bytes of a text a log line quotes. -/
def quotedBytes : Nat := 200

/-- Why a text is not JSON, as a log line. -/
def notJson (raw : String) : String :=
  "[okx-router] dropping non-JSON message (" ++ parseErrorName ++ "): " ++ atMost quotedBytes raw

/-- An error event, as a log line. -/
def errorEvent (raw : String) : String :=
  "[okx-router] exchange reported an error: " ++ atMost quotedBytes raw

/-- A malformed message, as a log line. -/
def malformed (kind : ChannelKind) (error : MessageError) : String :=
  "[okx-router] dropping malformed " ++ kind.name ++ " message: " ++ beforeNul error.message

/-- What a routed message amounts to. -/
def ofMessage (table : SymbolTable) (kind : ChannelKind) (message : Json) :
    Except MessageError Delivery :=
  match kind with
  | .trade => (Trade.ofMessage table message).map trades
  | .diff =>
      (BookChange.ofMessage table message).map fun
        | some change => diff change
        | none => dropped none
  | .funding => (FundingUpdate.ofMessage table message).map funding
  | .unrouted => .ok (dropped none)

/-- What a text of the stream amounts to. -/
def ofText (names : ChannelNames) (table : SymbolTable) (raw : String) : Delivery :=
  if raw = pong then dropped none
  else
    match Json.parse .stream raw with
    | none => dropped (some (notJson raw))
    | some message =>
        if message.getText? "event" = some "error" then dropped (some (errorEvent raw))
        else
          let kind := names.classify message
          match ofMessage table kind message with
          | .ok delivery => delivery
          | .error error => dropped (some (malformed kind error))

end Delivery

/-- The queues of waiting events and the update ids drawn so far. -/
structure Feed where
  ids : UpdateIds := {}
  trades : EventQueue Trade := {}
  diffs : EventQueue BookMessage := {}
  funding : EventQueue FundingUpdate := {}
  deriving Inhabited, Repr

namespace Feed

/-- Add the events of a delivery.  A diff draws its update id here. -/
def deliver (feed : Feed) (now : UInt64) : Delivery → Feed
  | .trades trades => { feed with trades := feed.trades.pushAll trades }
  | .diff change =>
      let ids := change.nextIds now feed.ids
      { feed with ids := ids, diffs := feed.diffs.push (change.toDiff ids.last) }
  | .funding updates => { feed with funding := feed.funding.pushAll updates }
  | .dropped _ => feed

/-- The feed after a text of the stream. -/
def process (feed : Feed) (names : ChannelNames) (table : SymbolTable) (now : UInt64)
    (raw : String) : Feed :=
  feed.deliver now (Delivery.ofText names table raw)

/-- The line that a text of the stream adds to the log, if any. -/
def logLine? (names : ChannelNames) (table : SymbolTable) (raw : String) : Option String :=
  match Delivery.ofText names table raw with
  | .dropped log => log
  | _ => none

@[simp] theorem deliver_dropped (feed : Feed) (now : UInt64) (log : Option String) :
    feed.deliver now (.dropped log) = feed := rfl

end Feed

end SwapFeed
