import SwapFeed.Session.Handler
import SwapFeed.Text.Cut

/-!
# The life of a stream

For as long as the token is live, a stream connects, subscribes and hands on frames.  A window
without a frame is answered with a ping on the same connection.  Any other failure closes the
connection, pauses and starts over; only cancellation ends the stream.  Every connection is closed
before anything else happens, on every way out of its session.
-/

namespace SwapFeed

open SwapFeed.Text

structure LifecycleOptions where
  url : String
  connectTimeout : Int := 10000
  messageTimeout : Int := 20000
  retryDelay : Int := 5000
  ping : String := "ping"
  deriving DecidableEq, Inhabited, Repr

/-- A stream: its transport, and what it does with a new connection and with a frame. -/
structure Lifecycle (σ : Type) where
  options : LifecycleOptions
  transport : Transport σ
  subscribe : Handler σ Unit
  deliver : String → Handler σ Unit

namespace Lifecycle

variable {σ α : Type}

/-- Run a handler, and record how it ended. -/
def handle (life : Lifecycle σ) (handler : Handler σ Unit)
    (event : Except Halt Unit → SessionEvent) : Task σ Unit := do
  let outcome ← Task.outcomeOf (handler.toTask life.transport)
  Task.note (event outcome)
  Task.ofOutcome outcome

/-- Wait for one frame: hand it on, or answer an empty window with a ping. -/
def round (life : Lifecycle σ) : Task σ Unit := do
  Task.checkpoint
  let timeout := life.options.messageTimeout
  match ← Task.outcomeOf (Task.call (life.transport.receive timeout) (.receive timeout)) with
  | .ok frame => do
      Task.note (.frame frame)
      life.handle (life.deliver frame) .delivered
  | .error (.failed (.idle _)) => do
      Task.checkpoint
      Task.call (life.transport.send life.options.ping) (.ping life.options.ping)
  | .error reason => Task.halt reason

/-- Wait for frames until something halts, for at most a number of rounds. -/
def stream (life : Lifecycle σ) : (rounds : Nat) → Task σ Unit
  | 0 => throw .unfinished
  | rounds + 1 => do
      life.round
      stream life rounds

/-- What is done with an open connection. -/
def converse (life : Lifecycle σ) (rounds : Nat) : Task σ Unit := do
  let options := life.options
  Task.call (life.transport.connect options.url options.connectTimeout)
    (.connect options.url options.connectTimeout)
  Task.checkpoint
  Task.enter .subscribing
  life.handle life.subscribe .subscribed
  Task.enter .streaming
  life.stream rounds

/-- Close the connection after some work on it, whatever came of the work. -/
def closing (life : Lifecycle σ) (work : Task σ α) : Task σ α := do
  let outcome ← Task.outcomeOf work
  Task.disconnect life.transport
  Task.ofOutcome outcome

/-- One connection from its creation to its end. -/
def session (life : Lifecycle σ) (rounds : Nat) : Task σ Unit := do
  Task.enter .connecting
  Task.create life.transport
  life.closing (life.converse rounds)

/-- The line about a failure that will be retried. -/
def retryLine (options : LifecycleOptions) (failure : Failure) : String :=
  "[okx-stream] Unexpected error occurred when listening to order book streams " ++ options.url
    ++ ": " ++ beforeNul failure.reason ++ ". Retrying in "
    ++ toString (options.retryDelay.tdiv 1000) ++ " seconds..."

/-- What happens between a failed session and the next one. -/
def backOff (life : Lifecycle σ) (failure : Failure) : Task σ Unit := do
  Task.checkpoint
  Task.enter .errorBackoff
  Task.printErr (retryLine life.options failure)
  Task.pause life.transport life.options.retryDelay (.backOff life.options.retryDelay)
  Task.enter .disconnected

/-- Sessions one after the other, at most so many, each with at most so many rounds. -/
def sessions (life : Lifecycle σ) (rounds : Nat) : (count : Nat) → Task σ Unit
  | 0 => throw .unfinished
  | count + 1 => do
      Task.checkpoint
      match ← Task.outcomeOf (life.session rounds) with
      | .error (.failed failure) => life.backOff failure
      | outcome => Task.ofOutcome outcome
      sessions life rounds count

/-- Run until cancellation.  The bound limits both the sessions and the rounds of each; a run that
reaches it stands where an unlimited one would go on. -/
def run (life : Lifecycle σ) (bound : Nat) : Task σ Unit := do
  match ← Task.outcomeOf (life.sessions bound bound) with
  | .error .cancelled => do
      Task.enter .disconnected
      Task.halt .cancelled
  | outcome => Task.ofOutcome outcome

end Lifecycle

end SwapFeed
