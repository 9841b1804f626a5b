/-!
# The record of a streaming session

A session makes calls on a transport and on two handlers, and every call has a reply.  The record
of a run holds what was called and what came of it, oldest first, together with the phases that the
session reports.
-/

namespace SwapFeed

/-- Where a session stands. -/
inductive Phase where
  | disconnected
  | connecting
  | subscribing
  | streaming
  | errorBackoff
  deriving DecidableEq, Inhabited, Repr

namespace Phase

def name : Phase → String
  | disconnected => "disconnected"
  | connecting => "connecting"
  | subscribing => "subscribing"
  | streaming => "streaming"
  | errorBackoff => "error-backoff"

end Phase

/-- An error that a session recovers from. -/
inductive Failure where
  /-- No frame arrived in time. -/
  | idle (reason : String)
  /-- The connection failed. -/
  | transport (reason : String)
  /-- Any other error. -/
  | internal (reason : String)
  deriving DecidableEq, Inhabited, Repr

namespace Failure

def reason : Failure → String
  | idle reason => reason
  | transport reason => reason
  | internal reason => reason

end Failure

/-- Why a call does not return. -/
inductive Halt where
  /-- The token was found cancelled. -/
  | cancelled
  | failed (failure : Failure)
  deriving DecidableEq, Inhabited, Repr

/-- What a call gives back, and whether the token fired meanwhile. -/
structure CallReply (α : Type) where
  outcome : Except Halt α
  cancels : Bool := false

/-- One entry of a record. -/
inductive SessionEvent where
  /-- A phase is reported. -/
  | phase (phase : Phase)
  | create (reply : CallReply Unit)
  | connect (url : String) (timeout : Int) (reply : CallReply Unit)
  | receive (timeout : Int) (reply : CallReply String)
  | ping (text : String) (reply : CallReply Unit)
  | disconnect
  /-- The pause after a failed session. -/
  | backOff (delay : Int) (reply : CallReply Unit)
  /-- The subscribe handler has ended. -/
  | subscribed (outcome : Except Halt Unit)
  /-- A frame is handed to the frame handler. -/
  | frame (text : String)
  /-- The frame handler has ended. -/
  | delivered (outcome : Except Halt Unit)
  /-- A handler sends a text. -/
  | send (text : String) (reply : CallReply Unit)
  /-- A handler pauses. -/
  | pause (delay : Int) (reply : CallReply Unit)
  /-- A handler fires the token. -/
  | cancel
  /-- A pending call on the connection is made to return. -/
  | interrupt

end SwapFeed
