import SwapFeed.Double.Literal

/-!
# JSON values

A `Json` value is what a message or a reply says: integers are exact, other numbers are rounded
once, and the members of an object keep their written order.  Looking up a key finds the first
member of that name.
-/

namespace SwapFeed

inductive Json where
  | null
  | bool (value : Bool)
  | int (value : Int)
  | real (value : Double)
  | text (value : String)
  | array (items : List Json)
  | object (members : List (String × Json))
  deriving Inhabited, Repr

/-- Why a look-up in a value fails. -/
inductive LookupError where
  /-- The value is not an object. -/
  | notObject
  /-- The object has no such member. -/
  | absent
  deriving DecidableEq, Repr

namespace LookupError

/-- The name under which a log line reports a failed look-up. -/
def name : LookupError → String
  | notObject => "INCORRECT_TYPE"
  | absent => "NO_SUCH_FIELD"

end LookupError

namespace Json

/-- The first member with a key. -/
def memberOf (key : String) : List (String × Json) → Option Json
  | [] => none
  | (name, value) :: rest => if name = key then some value else memberOf key rest

/-- The member of an object with a key. -/
def lookup (value : Json) (key : String) : Except LookupError Json :=
  match value with
  | object members =>
      match memberOf key members with
      | some found => .ok found
      | none => .error .absent
  | _ => .error .notObject

/-- The member of an object with a key, if the value is an object that has one. -/
def get? (value : Json) (key : String) : Option Json :=
  (value.lookup key).toOption

def text? : Json → Option String
  | text value => some value
  | _ => none

/-- The text member of an object with a key. -/
def getText? (value : Json) (key : String) : Option String :=
  (value.get? key).bind text?

/-- The number that a numeric value stands for. -/
def number? : Json → Option Double
  | int value => some (Double.ofInt value)
  | real value => some value
  | _ => none

/-- The entries of a list with one entry per key, after setting one of them. -/
def putMember {α β : Type} [DecidableEq α] (key : α) (value : β) : List (α × β) → List (α × β)
  | [] => [(key, value)]
  | (name, other) :: rest =>
      if name = key then (key, value) :: rest else (name, other) :: putMember key value rest

/-- One entry per key, each with the value written last. -/
def lastWritten {α β : Type} [DecidableEq α] (entries : List (α × β)) : List (α × β) :=
  entries.foldl (fun kept entry => putMember entry.1 entry.2 kept) []

end Json

end SwapFeed
