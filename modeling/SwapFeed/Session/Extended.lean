import SwapFeed.Session.Task

/-!
# Transports beside other state

A run may carry state of its own beside that of the transport.  The transport acts on its part and
leaves the rest alone.
-/

namespace SwapFeed.Transport

variable {σ κ α : Type}

/-- A call that acts on the first part of a state. -/
def onFirst (call : Call σ α) : Call (σ × κ) α := fun state =>
  let (reply, world) := call state.1
  (reply, (world, state.2))

/-- The transport beside other state. -/
def extended (transport : Transport σ) : Transport (σ × κ) where
  create := onFirst transport.create
  connect url timeout := onFirst (transport.connect url timeout)
  send text := onFirst (transport.send text)
  receive timeout := onFirst (transport.receive timeout)
  disconnect state := (transport.disconnect state.1, state.2)
  interrupt state := (transport.interrupt state.1, state.2)
  pause delay := onFirst (transport.pause delay)

@[simp] theorem onFirst_snd (call : Call σ α) (state : σ × κ) :
    (onFirst call state).2.2 = state.2 := rfl

end SwapFeed.Transport
