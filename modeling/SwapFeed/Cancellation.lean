/-!
# Cancellation

A token is cancelled once and for all.  Work checks it between its steps, and waiting on it ends
early when it fires.
-/

namespace SwapFeed

/-- Raised by work that finds its token cancelled. -/
inductive Cancelled where
  | cancelled
  deriving DecidableEq, Repr

namespace Cancelled

def message (_ : Cancelled) : String := "operation cancelled"

end Cancelled

structure CancellationToken where
  cancelled : Bool := false
  deriving DecidableEq, Inhabited, Repr

namespace CancellationToken

def cancel (_ : CancellationToken) : CancellationToken := ⟨true⟩

/-- Fails on a cancelled token. -/
def check (token : CancellationToken) : Except Cancelled Unit :=
  if token.cancelled then .error .cancelled else .ok ()

/-- Whether the token was cancelled before a delay in milliseconds has passed.  Nobody else holds
the token, so the delay does not matter. -/
def wait (token : CancellationToken) (_delay : Int) : Bool := token.cancelled

/-- Wait for a delay in milliseconds; fails if the token is cancelled before or meanwhile. -/
def sleep (token : CancellationToken) (delay : Int) : Except Cancelled Unit := do
  token.check
  if token.wait delay then .error .cancelled else .ok ()

@[simp] theorem check_cancel (token : CancellationToken) :
    token.cancel.check = .error .cancelled := rfl

@[simp] theorem cancel_cancel (token : CancellationToken) : token.cancel.cancel = token.cancel :=
  rfl

end CancellationToken

end SwapFeed
