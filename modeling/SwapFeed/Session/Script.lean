import SwapFeed.Session.Task

/-!
# Scripted transports

A transport whose behaviour is written down in advance: one script per connection, used in order.
A connection without steps left cancels the token, so every run on it comes to an end.
-/

namespace SwapFeed

/-- What a receive call on a scripted connection does. -/
inductive ScriptStep where
  | frame (text : String)
  | fails (failure : Failure)
  deriving DecidableEq, Inhabited, Repr

/-- The behaviour of one connection. -/
structure Script where
  /-- The connection cannot be created, for a reason. -/
  createFails : Option String := none
  /-- Connecting fails, for a reason. -/
  connectFails : Option String := none
  /-- The token fires while connecting. -/
  connectCancels : Bool := false
  /-- The number of the send that fails. -/
  failSendAt : Option Nat := none
  /-- What receive calls do, and whether the token fires meanwhile. -/
  steps : List (ScriptStep × Bool) := []
  deriving DecidableEq, Inhabited, Repr

/-- The state of a scripted transport. -/
structure Stage where
  /-- Scripts of the connections to come. -/
  upcoming : List Script := []
  /-- What is left of the script of the present connection. -/
  current : Script := {}
  /-- How many sends the present connection has seen. -/
  sends : Nat := 0
  interrupted : Bool := false
  /-- How many pauses there have been. -/
  pauses : Nat := 0
  /-- The number of the pause during which the token fires. -/
  cancelAtPause : Option Nat := none
  deriving DecidableEq, Inhabited, Repr

namespace Stage

def returns {α : Type} (value : α) : CallReply α := ⟨.ok value, false⟩

def failsWith {α : Type} (failure : Failure) (cancels : Bool) : CallReply α :=
  ⟨.error (.failed failure), cancels⟩

def create : Call Stage Unit := fun stage =>
  let stage :=
    { stage with
      upcoming := stage.upcoming.tail
      current := stage.upcoming.headD {}
      sends := 0
      interrupted := false }
  match stage.current.createFails with
  | some reason => (failsWith (.transport reason) false, stage)
  | none => (returns (), stage)

def connect : Call Stage Unit := fun stage =>
  match stage.current.connectFails with
  | some reason => (failsWith (.transport reason) stage.current.connectCancels, stage)
  | none => (⟨.ok (), stage.current.connectCancels⟩, stage)

def send : Call Stage Unit := fun stage =>
  let stage := { stage with sends := stage.sends + 1 }
  if stage.current.failSendAt = some stage.sends then
    (failsWith (.transport "send failed") false, stage)
  else (returns (), stage)

def receive : Call Stage String := fun stage =>
  if stage.interrupted then (failsWith (.transport "websocket interrupted") false, stage)
  else
    match stage.current.steps with
    | [] => (failsWith (.transport "interrupted") true, stage)
    | (step, cancels) :: rest =>
        let stage := { stage with current := { stage.current with steps := rest } }
        match step with
        | .frame text => (⟨.ok text, cancels⟩, stage)
        | .fails failure => (failsWith failure cancels, stage)

def pause : Call Stage Unit := fun stage =>
  let stage := { stage with pauses := stage.pauses + 1 }
  if stage.cancelAtPause = some stage.pauses then (⟨.error .cancelled, true⟩, stage)
  else (returns (), stage)

/-- The scripted transport. -/
def transport : Transport Stage where
  create := create
  connect _ _ := connect
  send _ := send
  receive _ := receive
  disconnect := id
  interrupt stage := { stage with interrupted := true }
  pause _ := pause

/-- A bound on the sessions of a run and on the rounds of each: every session but the last uses up
a script, and every round but the last of its session uses up a step. -/
def bound (stage : Stage) : Nat :=
  stage.upcoming.foldl (fun total script => total + (script.steps.length + 1)) 2

end Stage

end SwapFeed
