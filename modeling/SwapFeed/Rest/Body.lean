import SwapFeed.Json.Printer
import SwapFeed.Rest.Request

/-!
# Bodies of `POST` requests

The parameters of a `POST` become one JSON object of strings.  Of several parameters with one name
the last counts, and names stand in bytewise order.  Names and values that count have to be texts:
there is no body for other octets.
-/

namespace SwapFeed.Body

/-- The member that a parameter becomes, if its name and its value are texts. -/
def member? (entry : Octets × Octets) : Option (String × Json) := do
  return (← entry.1.text?, .text (← entry.2.text?))

/-- The body that carries a list of parameters, if there is one. -/
def render? (params : List (Octets × Octets)) : Option String :=
  ((Json.lastWritten params).mapM member?).map fun members => (Json.object members).render

end SwapFeed.Body
