import SwapFeed.Text.Octets

/-!
# REST requests

What the feed asks for, before it becomes a transfer.
-/

namespace SwapFeed

inductive Method where
  | get
  | post
  deriving DecidableEq, Inhabited, Repr

namespace Method

def name : Method → String
  | get => "GET"
  | post => "POST"

end Method

structure Request where
  /-- The url without a query. -/
  url : String
  method : Method := .get
  /-- The query of a `GET`, the body of a `POST`. -/
  params : List (Octets × Octets) := []
  /-- The name of the allowance that the request draws on. -/
  limitId : String := ""
  /-- Whether the request has to be signed. -/
  authenticated : Bool := false
  deriving DecidableEq, Inhabited, Repr

namespace Request

/-- A parameter whose name and value are texts. -/
def textParam (name value : String) : Octets × Octets :=
  (Octets.ofText name, Octets.ofText value)

end Request

end SwapFeed
