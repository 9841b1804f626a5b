import SwapFeed.Session.Task

/-!
# Handlers

A session calls handlers to subscribe and to deal with frames.  A handler is a tree of the actions
that it may take on the open connection and on the state of the run; it can neither open nor close
connections.  Where an action may halt, the handler sees how it went and decides what to do.
-/

namespace SwapFeed

/-- What a handler does, up to its outcome. -/
inductive Handler (σ α : Type) where
  | done (outcome : Except Halt α)
  /-- Look whether the token is cancelled. -/
  | checkThen (next : Bool → Handler σ α)
  | sendThen (text : String) (next : Except Halt Unit → Handler σ α)
  | pauseThen (delay : Int) (next : Except Halt Unit → Handler σ α)
  | cancelThen (next : Handler σ α)
  | interruptThen (next : Handler σ α)
  | printOutThen (line : String) (next : Handler σ α)
  | printErrThen (line : String) (next : Handler σ α)
  /-- Change the state, and go on with what it was before. -/
  | updateThen (change : σ → σ) (next : σ → Handler σ α)

namespace Handler

variable {σ α β : Type}

/-- Go on with the value of a handler; a handler that halts ends there. -/
def bind (first : Handler σ α) (second : α → Handler σ β) : Handler σ β :=
  match first with
  | done (.ok value) => second value
  | done (.error halt) => done (.error halt)
  | checkThen next => checkThen fun cancelled => (next cancelled).bind second
  | sendThen text next => sendThen text fun outcome => (next outcome).bind second
  | pauseThen delay next => pauseThen delay fun outcome => (next outcome).bind second
  | cancelThen next => cancelThen (next.bind second)
  | interruptThen next => interruptThen (next.bind second)
  | printOutThen line next => printOutThen line (next.bind second)
  | printErrThen line next => printErrThen line (next.bind second)
  | updateThen change next => updateThen change fun state => (next state).bind second

instance : Monad (Handler σ) where
  pure value := done (.ok value)
  bind := bind

def halt (reason : Halt) : Handler σ α := done (.error reason)

/-- The outcome of a handler, whatever it is. -/
def outcomeOf : Handler σ α → Handler σ (Except Halt α)
  | done outcome => done (.ok outcome)
  | checkThen next => checkThen fun cancelled => (next cancelled).outcomeOf
  | sendThen text next => sendThen text fun outcome => (next outcome).outcomeOf
  | pauseThen delay next => pauseThen delay fun outcome => (next outcome).outcomeOf
  | cancelThen next => cancelThen next.outcomeOf
  | interruptThen next => interruptThen next.outcomeOf
  | printOutThen line next => printOutThen line next.outcomeOf
  | printErrThen line next => printErrThen line next.outcomeOf
  | updateThen change next => updateThen change fun state => (next state).outcomeOf

/-- End here if the token is cancelled. -/
def checkpoint : Handler σ Unit :=
  checkThen fun cancelled => if cancelled then halt .cancelled else done (.ok ())

def send (text : String) : Handler σ Unit := sendThen text done

def pause (delay : Int) : Handler σ Unit := pauseThen delay done

def cancel : Handler σ Unit := cancelThen (done (.ok ()))

def interrupt : Handler σ Unit := interruptThen (done (.ok ()))

def printOut (line : String) : Handler σ Unit := printOutThen line (done (.ok ()))

def printErr (line : String) : Handler σ Unit := printErrThen line (done (.ok ()))

def update (change : σ → σ) : Handler σ Unit := updateThen change fun _ => done (.ok ())

/-- The actions of a handler as a task. -/
def toTask (transport : Transport σ) : Handler σ α → Task σ α
  | done outcome => Task.ofOutcome outcome
  | checkThen next => do toTask transport (next (← get).cancelled)
  | sendThen text next => do
      toTask transport (next (← Task.outcomeOf (Task.call (transport.send text) (.send text))))
  | pauseThen delay next => do
      toTask transport (next (← Task.outcomeOf (Task.pause transport delay (.pause delay))))
  | cancelThen next => do
      Task.cancel
      toTask transport next
  | interruptThen next => do
      Task.interrupt transport
      toTask transport next
  | printOutThen line next => do
      Task.printOut line
      toTask transport next
  | printErrThen line next => do
      Task.printErr line
      toTask transport next
  | updateThen change next => do
      let run ← get
      set { run with world := change run.world }
      toTask transport (next run.world)

@[simp] theorem pure_bind (value : α) (second : α → Handler σ β) :
    (pure value >>= second : Handler σ β) = second value := rfl

@[simp] theorem halt_bind (reason : Halt) (second : α → Handler σ β) :
    (halt reason >>= second : Handler σ β) = halt reason := rfl

end Handler

end SwapFeed
