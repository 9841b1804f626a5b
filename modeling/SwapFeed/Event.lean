import SwapFeed.Double.Basic

/-!
# Market events

The events that the feed delivers: order book messages, trades, and funding information in full or
as a sparse update.  Pairs are named canonically, such as `BTC-USDT`.
-/

namespace SwapFeed

/-- A price with the size offered at it. -/
structure Level where
  price : Double
  size : Double
  deriving DecidableEq, Inhabited, Repr

inductive BookMessageKind where
  /-- Both sides in full. -/
  | snapshot
  /-- Changed levels with their new sizes. -/
  | diff
  deriving DecidableEq, Inhabited, Repr

/-- An order book message; its levels stand in the order in which they were sent. -/
structure BookMessage where
  kind : BookMessageKind
  pair : String
  updateId : UInt64
  bids : List Level
  asks : List Level
  /-- Seconds since the epoch. -/
  timestamp : Double
  deriving DecidableEq, Inhabited, Repr

inductive TradeSide where
  | buy
  | sell
  deriving DecidableEq, Inhabited, Repr

structure Trade where
  pair : String
  tradeId : String
  side : TradeSide
  amount : Double
  price : Double
  /-- Seconds since the epoch. -/
  timestamp : Double
  deriving DecidableEq, Inhabited, Repr

structure FundingInfo where
  pair : String
  indexPrice : Double := .zero
  markPrice : Double := .zero
  /-- Seconds since the epoch. -/
  nextFunding : Int := 0
  rate : Double := .zero
  deriving DecidableEq, Inhabited, Repr

/-- A change of funding information; an unset field keeps its value. -/
structure FundingUpdate where
  pair : String
  indexPrice : Option Double := none
  markPrice : Option Double := none
  nextFunding : Option Int := none
  rate : Option Double := none
  deriving DecidableEq, Inhabited, Repr

end SwapFeed
