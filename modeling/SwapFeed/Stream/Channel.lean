import SwapFeed.Json.Basic
import SwapFeed.Text.Split

/-!
# Stream channels

A message belongs to the channel named by its topic, with the instrument behind the last `.` or `/`
taken off, or else by its argument.  Acknowledgements, events and channels that nobody subscribed to
are not routed.
-/

namespace SwapFeed

inductive ChannelKind where
  | unrouted
  | trade
  | diff
  | funding
  deriving DecidableEq, Inhabited, Repr

namespace ChannelKind

def name : ChannelKind → String
  | unrouted => "unrouted"
  | trade => "trade"
  | diff => "diff"
  | funding => "funding"

end ChannelKind

/-- The channels subscribed to. -/
structure ChannelNames where
  trades : String := "trades"
  orderBook : String := "books"
  instruments : String := "instruments"
  deriving DecidableEq, Inhabited, Repr

namespace Topic

open SwapFeed.Text

/-- What stands between a channel and an instrument. -/
def isDelimiter (char : Char) : Bool := char = '.' || char = '/'

/-- The part of a topic in front of its last delimiter; empty if there is none. -/
def channel (topic : String) : String :=
  match splitLast? isDelimiter topic.toList with
  | some (channel, _) => String.ofList channel
  | none => ""

/-- The part of a topic behind its last delimiter; the whole topic if there is none. -/
def instrument (topic : String) : String :=
  match splitLast? isDelimiter topic.toList with
  | some (_, instrument) => String.ofList instrument
  | none => topic

end Topic

namespace ChannelNames

/-- The kind of a channel name; the first of several equal names counts. -/
def kindOf (names : ChannelNames) (channel : String) : ChannelKind :=
  if channel = "" then .unrouted
  else if channel = names.trades then .trade
  else if channel = names.orderBook then .diff
  else if channel = names.instruments then .funding
  else .unrouted

/-- The kind of a message. -/
def classify (names : ChannelNames) (message : Json) : ChannelKind :=
  if (message.get? "success").isSome then .unrouted
  else
    match message.getText? "topic" with
    | some topic => names.kindOf (Topic.channel topic)
    | none =>
        match (message.get? "arg").bind (·.getText? "channel") with
        | some channel =>
            if (message.get? "event").isSome then .unrouted else names.kindOf channel
        | none => .unrouted

@[simp] theorem kindOf_empty (names : ChannelNames) : names.kindOf "" = .unrouted := rfl

end ChannelNames

end SwapFeed
