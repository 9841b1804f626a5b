import SwapFeed.Session.Record

/-!
# Tasks of a streaming session

A task runs against a transport, which is a record of functions on a state of its own: whatever
they do, a task sees only their replies.  Every call is recorded with its reply.  The cancellation
token is part of a run; a call may fire it, and nothing ever resets it.
-/

namespace SwapFeed

/-- A call on a transport with state `σ`. -/
abbrev Call (σ α : Type) := σ → CallReply α × σ

/-- What connections and pauses are made of. -/
structure Transport (σ : Type) where
  create : Call σ Unit
  connect : (url : String) → (timeout : Int) → Call σ Unit
  send : (text : String) → Call σ Unit
  receive : (timeout : Int) → Call σ String
  disconnect : σ → σ
  interrupt : σ → σ
  pause : (delay : Int) → Call σ Unit

/-- Why a task ends early. -/
inductive Stop where
  | halted (halt : Halt)
  /-- The bound on the number of rounds was reached. -/
  | unfinished
  deriving DecidableEq, Inhabited, Repr

/-- The state of a run. -/
structure Run (σ : Type) where
  world : σ
  cancelled : Bool := false
  phase : Phase := .disconnected
  /-- Whether a connection is open. -/
  live : Bool := false
  /-- What has happened, oldest first. -/
  record : List SessionEvent := []
  /-- Lines for standard output. -/
  out : List String := []
  /-- Lines for standard error. -/
  err : List String := []

/-- Work in a run that may end early. -/
abbrev Task (σ α : Type) := ExceptT Stop (StateM (Run σ)) α

namespace Task

variable {σ α : Type}

/-- Add an entry to the record. -/
def note (event : SessionEvent) : Task σ Unit :=
  modify fun run => { run with record := run.record ++ [event] }

def halt (halt : Halt) : Task σ α := throw (.halted halt)

/-- End here if the token is cancelled. -/
def checkpoint : Task σ Unit := do
  if (← get).cancelled then halt .cancelled

/-- Fire the token. -/
def cancel : Task σ Unit := do
  modify fun run => { run with cancelled := true }
  note .cancel

/-- Go on or end as an outcome says. -/
def ofOutcome (outcome : Except Halt α) : Task σ α :=
  match outcome with
  | .ok value => pure value
  | .error reason => halt reason

/-- The outcome of a task that ends within its bounds. -/
def outcomeOf (task : Task σ α) : Task σ (Except Halt α) :=
  fun run =>
    match task run with
    | (.ok value, run) => (.ok (.ok value), run)
    | (.error (.halted halt), run) => (.ok (.error halt), run)
    | (.error .unfinished, run) => (.error .unfinished, run)

/-- Make a call, and record it with its reply. -/
def call (action : Call σ α) (event : CallReply α → SessionEvent) : Task σ α := do
  let run ← get
  let (reply, world) := action run.world
  set { run with
    world := world
    cancelled := run.cancelled || reply.cancels
    record := run.record ++ [event reply] }
  ofOutcome reply.outcome

/-- Enter a phase and report it. -/
def enter (phase : Phase) : Task σ Unit := do
  modify fun run => { run with phase := phase }
  note (.phase phase)

/-- Open a connection. -/
def create (transport : Transport σ) : Task σ Unit := do
  call transport.create .create
  modify fun run => { run with live := true }

/-- Close the connection. -/
def disconnect (transport : Transport σ) : Task σ Unit := do
  modify fun run => { run with world := transport.disconnect run.world, live := false }
  note .disconnect

/-- Make a pending call on the open connection return; nothing happens if there is none. -/
def interrupt (transport : Transport σ) : Task σ Unit := do
  if (← get).live then
    modify fun run => { run with world := transport.interrupt run.world }
    note .interrupt

/-- Pause, unless the token is cancelled already. -/
def pause (transport : Transport σ) (delay : Int)
    (event : CallReply Unit → SessionEvent) : Task σ Unit := do
  checkpoint
  call (transport.pause delay) event

def printOut (line : String) : Task σ Unit :=
  modify fun run => { run with out := run.out ++ [line] }

def printErr (line : String) : Task σ Unit :=
  modify fun run => { run with err := run.err ++ [line] }

end Task

end SwapFeed
