import SwapFeed.Json.Printer
import SwapFeed.Session.Handler
import SwapFeed.Stream.Channel
import SwapFeed.Text.Cut

/-!
# Subscribe requests

One request per channel, each naming every instrument in the given order.  They are sent one after
the other, with a pause in between if pacing asks for one.
-/

namespace SwapFeed

open SwapFeed.Text

namespace Subscription

/-- The request for a channel. -/
def request (channel : String) (natives : List String) : Json :=
  .object
    [("op", .text "subscribe"),
      ("args",
        .array (natives.map fun native =>
          .object [("channel", .text channel), ("instId", .text native)]))]

/-- The requests for trades, order book and instruments. -/
def batch (names : ChannelNames) (natives : List String) : List Json :=
  [names.trades, names.orderBook, names.instruments].map (request · natives)

def successLine : String :=
  "[okx-stream] Subscribed to public order book, trade and funding info channels..."

def failureLine (failure : Failure) : String :=
  "[okx-stream] Unexpected error occurred subscribing to order book trading and delta streams: "
    ++ beforeNul failure.reason

variable {σ : Type}

/-- Send a request unless the token is cancelled. -/
def sendOne (request : Json) : Handler σ Unit := do
  Handler.checkpoint
  Handler.send request.render

/-- Send requests, with a pause in front of each if pacing asks for one. -/
def sendRest (pacing : Int) : List Json → Handler σ Unit
  | [] => pure ()
  | request :: rest => do
      if 0 < pacing then Handler.pause pacing
      sendOne request
      sendRest pacing rest

/-- Send requests, with a pause between any two if pacing asks for one. -/
def sendPaced (pacing : Int) : List Json → Handler σ Unit
  | [] => pure ()
  | request :: rest => do
      sendOne request
      sendRest pacing rest

/-- Send a batch and report how that went.  Cancellation passes in silence. -/
def send (pacing : Int) (batch : List Json) : Handler σ Unit := do
  match ← Handler.outcomeOf (sendPaced pacing batch) with
  | .ok () => Handler.printOut successLine
  | .error (.failed failure) => do
      Handler.printErr (failureLine failure)
      Handler.halt (.failed failure)
  | .error .cancelled => Handler.halt .cancelled

end Subscription

end SwapFeed
