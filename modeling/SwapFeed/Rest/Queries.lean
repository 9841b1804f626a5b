import SwapFeed.Instrument
import SwapFeed.Rest.Reply
import SwapFeed.Rest.Request
import SwapFeed.Stream.Field
import SwapFeed.UpdateId

/-!
# Point-in-time queries

Book snapshots, funding information and last traded prices.  Each query is a list of requests with
a reader for their bodies.  Nothing is retried.
-/

namespace SwapFeed

/-- How a request is answered: with a body, or with the reason why there is none. -/
abbrev Answerer := Request → Except String String

/-- The requests that a query made, and what came of it. -/
structure Fetched (α : Type) where
  requests : List Request
  result : Except QueryError α

/-- Where queries go and how instruments are named there. -/
structure QueryContext where
  baseUrl : String
  table : SymbolTable
  depth : Int := 100

namespace QueryContext

def bookPath : String := "/market/books"
def tickerPath : String := "/market/ticker"
def indexPath : String := "/market/index-tickers"
def markPath : String := "/public/mark-price"
def fundingPath : String := "/public/funding-rate"

/-- The request for an instrument at a path, with further parameters behind the instrument. -/
def request (context : QueryContext) (path pair : String) (params : List (String × String)) :
    Request where
  url := context.baseUrl ++ path
  params :=
    (("instId", context.table.toNative pair) :: params).map fun entry =>
      Request.textParam entry.1 entry.2
  limitId := path

def bookRequest (context : QueryContext) (pair : String) : Request :=
  context.request bookPath pair [("sz", toString context.depth)]

def indexRequest (context : QueryContext) (pair : String) : Request :=
  context.request indexPath pair []

/-- The mark price request is the one that has to be signed, on an allowance of its own. -/
def markRequest (context : QueryContext) (pair : String) : Request :=
  { context.request markPath pair [("instType", "SWAP")] with
    limitId := markPath ++ "/" ++ pair
    authenticated := true }

def fundingRequest (context : QueryContext) (pair : String) : Request :=
  context.request fundingPath pair []

def tickerRequest (context : QueryContext) (pair : String) : Request :=
  context.request tickerPath pair []

end QueryContext

/-- The body of an answer. -/
def bodyOf (answer : Except String String) : Except QueryError String :=
  answer.mapError .transport

/-- A book as a reply gives it, before it gets an update id. -/
structure SnapshotRow where
  /-- Exchange time in milliseconds. -/
  millis : Int
  bids : List Level
  asks : List Level
  deriving DecidableEq, Inhabited, Repr

namespace SnapshotRow

/-- Exchange time in seconds. -/
def timestamp (row : SnapshotRow) : Double := Field.secondsOfMillis row.millis

/-- The name of the query. -/
def subject (pair : String) : String := "order book snapshot " ++ pair

/-- The book in a body. -/
def ofBody (pair body : String) : Except QueryError SnapshotRow := do
  let what := subject pair
  let row ← Reply.firstRow what (← Reply.ofBody what body)
  let millis ← Reply.integer (what ++ " ts") (← Reply.field what row "ts")
  if ¬(0 ≤ millis ∧ millis ≤ latestEpochMillis) then throw (.notEpoch what millis)
  let bids ← Reply.levels what row "bids"
  let asks ← Reply.levels what row "asks"
  return ⟨millis, bids, asks⟩

/-- The update id sequence after the snapshot's id has been drawn. -/
def nextIds (row : SnapshotRow) (now : UInt64) (ids : UpdateIds) : UpdateIds :=
  ids.advanceSeconds now row.timestamp

/-- The snapshot of a pair with a given update id. -/
def toSnapshot (row : SnapshotRow) (pair : String) (updateId : UInt64) : BookMessage where
  kind := .snapshot
  pair := pair
  updateId := updateId
  bids := row.bids
  asks := row.asks
  timestamp := row.timestamp

/-- Query the book of a pair. -/
def fetch (context : QueryContext) (answer : Answerer) (pair : String) : Fetched SnapshotRow :=
  let request := context.bookRequest pair
  { requests := [request]
    result := do ofBody pair (← bodyOf (answer request)) }

end SnapshotRow

namespace FundingInfo

/-- The funding information in the bodies for index, mark and funding.  Of several faults that of
the earliest stage counts: bodies, then rows, then fields. -/
def ofBodies (pair indexBody markBody fundingBody : String) : Except QueryError FundingInfo := do
  let what := "funding info " ++ pair
  let index ← Reply.ofBody (what ++ " (index)") indexBody
  let mark ← Reply.ofBody (what ++ " (mark)") markBody
  let funding ← Reply.ofBody (what ++ " (funding)") fundingBody
  let index ← Reply.firstRow (what ++ " (index)") index
  let mark ← Reply.firstRow (what ++ " (mark)") mark
  let funding ← Reply.firstRow (what ++ " (funding)") funding
  let indexPrice ← Reply.double (what ++ " idxPx") (← Reply.field what index "idxPx")
  let markPrice ← Reply.double (what ++ " markPx") (← Reply.field what mark "markPx")
  let next ← Reply.integer (what ++ " nextFundingTime")
    (← Reply.field what funding "nextFundingTime")
  let rate ← Reply.double (what ++ " nextFundingRate")
    (← Reply.field what funding "nextFundingRate")
  return ⟨pair, indexPrice, markPrice, epochSeconds next, rate⟩

/-- Query the funding information of a pair: three requests, all made whatever becomes of the
others. -/
def fetch (context : QueryContext) (answer : Answerer) (pair : String) : Fetched FundingInfo :=
  let index := context.indexRequest pair
  let mark := context.markRequest pair
  let funding := context.fundingRequest pair
  { requests := [index, mark, funding]
    result := do
      let indexBody ← bodyOf (answer index)
      let markBody ← bodyOf (answer mark)
      let fundingBody ← bodyOf (answer funding)
      ofBodies pair indexBody markBody fundingBody }

end FundingInfo

namespace LastPrice

/-- The last traded price in a body. -/
def ofBody (pair body : String) : Except QueryError Double := do
  let what := "ticker " ++ pair
  let row ← Reply.firstRow what (← Reply.ofBody what body)
  Reply.double (what ++ " last") (← Reply.field what row "last")

/-- Query the last traded price of a pair. -/
def fetch (context : QueryContext) (answer : Answerer) (pair : String) : Fetched Double :=
  let request := context.tickerRequest pair
  { requests := [request]
    result := do ofBody pair (← bodyOf (answer request)) }

/-- Query the last traded prices of pairs, one after the other up to the first failure.  A pair
that is named again gets its latest price. -/
def fetchAll (context : QueryContext) (answer : Answerer) :
    (pairs : List String) → Fetched (List (String × Double))
  | [] => ⟨[], .ok []⟩
  | pair :: rest =>
      let first := fetch context answer pair
      match first.result with
      | .error error => ⟨first.requests, .error error⟩
      | .ok price =>
          let others := fetchAll context answer rest
          { requests := first.requests ++ others.requests
            result := others.result.map fun prices =>
              if (prices.lookup pair).isSome then prices else (pair, price) :: prices }

end LastPrice

end SwapFeed
