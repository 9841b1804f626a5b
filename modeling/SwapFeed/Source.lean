import SwapFeed.Config.Settings
import SwapFeed.Rest.Queries
import SwapFeed.Session.Extended
import SwapFeed.Session.Lifecycle
import SwapFeed.Session.Subscription
import SwapFeed.Stream.Feed

/-!
# The market data source

A source listens to one stream for all its pairs and answers point-in-time queries.  Stream events
wait in the queues of its feed; snapshots and diffs draw their ids from one sequence.
-/

namespace SwapFeed

structure Source where
  settings : Settings
  table : SymbolTable
  names : ChannelNames := {}
  feed : Feed := {}
  cancelled : Bool := false
  phase : Phase := .disconnected
  deriving Inhabited

namespace Source

/-- The clock as a word of microseconds. -/
def clockWord (micros : Int) : UInt64 := UInt64.ofNat (micros.emod UInt64.size).toNat

/-- Handle one text of the stream. -/
def process (source : Source) (now : Int) (raw : String) : Source :=
  { source with feed := source.feed.process source.names source.table (clockWord now) raw }

/-- The native ids of all pairs, in order. -/
def natives (source : Source) : List String :=
  source.settings.pairs.map source.table.toNative

def context (source : Source) : QueryContext where
  baseUrl := source.settings.restUrl
  table := source.table
  depth := source.settings.snapshotDepth

/-- Query the book of a pair.  An update id is drawn only for a snapshot that is returned. -/
def fetchSnapshot (source : Source) (answer : Answerer) (now : Int) (pair : String) :
    Fetched BookMessage × Source :=
  let fetched := SnapshotRow.fetch source.context answer pair
  match fetched.result with
  | .error error => (⟨fetched.requests, .error error⟩, source)
  | .ok row =>
      let ids := row.nextIds (clockWord now) source.feed.ids
      (⟨fetched.requests, .ok (row.toSnapshot pair ids.last)⟩,
        { source with feed := { source.feed with ids := ids } })

/-- Query the funding information of a pair. -/
def fetchFunding (source : Source) (answer : Answerer) (pair : String) : Fetched FundingInfo :=
  FundingInfo.fetch source.context answer pair

/-- Query the last traded prices of pairs. -/
def fetchPrices (source : Source) (answer : Answerer) (pairs : List String) :
    Fetched (List (String × Double)) :=
  LastPrice.fetchAll source.context answer pairs

variable {σ : Type}

/-- Handle a frame within a run. -/
def deliver (source : Source) (now : Int) (frame : String) : Handler (σ × Feed) Unit := do
  Handler.update fun state =>
    (state.1, state.2.process source.names source.table (clockWord now) frame)
  match Feed.logLine? source.names source.table frame with
  | some line => Handler.printErr line
  | none => pure ()

/-- The stream of a source over a transport. -/
def lifecycle (source : Source) (transport : Transport σ) (now : Int) :
    Lifecycle (σ × Feed) where
  options :=
    { url := source.settings.streamUrl
      connectTimeout := source.settings.connectTimeout
      messageTimeout := source.settings.messageTimeout
      retryDelay := source.settings.retryDelay }
  transport := transport.extended
  subscribe :=
    Subscription.send source.settings.subscribePacing
      (Subscription.batch source.names source.natives)
  deliver := source.deliver now

def unpacedLine : String :=
  "[okx-stream] subscribe requests are sent back to back (no pacing)"

def stoppedLine : String := "[okx-stream] stream stopped"

/-- Listen until cancellation, within a bound on sessions and rounds. -/
def listen (source : Source) (transport : Transport σ) (now : Int) (bound : Nat) :
    Task (σ × Feed) Unit := do
  if source.settings.subscribePacing = 0 then Task.printOut unpacedLine
  (source.lifecycle transport now).run bound

/-- Listen in a worker, which reports its end. -/
def work (source : Source) (transport : Transport σ) (now : Int) (bound : Nat) :
    Task (σ × Feed) Unit := do
  match ← Task.outcomeOf (source.listen transport now bound) with
  | .error .cancelled => Task.printOut stoppedLine
  | outcome => Task.ofOutcome outcome

/-- Run a task of a source over the state of a transport: the outcome, the run, and the source
after it. -/
def perform (source : Source) (task : Task (σ × Feed) Unit) (world : σ) :
    Except Stop Unit × Run (σ × Feed) × Source :=
  let (outcome, run) := task
    { world := (world, source.feed), cancelled := source.cancelled, phase := source.phase }
  (outcome, run,
    { source with feed := run.world.2, cancelled := run.cancelled, phase := run.phase })

/-- Cancel the stream for good. -/
def stop (source : Source) : Source := { source with cancelled := true }

end Source

end SwapFeed
