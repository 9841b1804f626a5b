import SwapFeed.Json.Basic
import SwapFeed.Double.Shortest

/-!
# Writing JSON

Compact text: no white space, the members of an object in the bytewise order of their keys, and
only those characters escaped that have to be.
-/

namespace SwapFeed.Json

/-- A hexadecimal digit in lower case. -/
def hexDigit (value : Nat) : Char :=
  Nat.digitChar (value % 16)

/-- A character as it stands inside a string. -/
def escapeChar (char : Char) : List Char :=
  if char = '"' then ['\\', '"']
  else if char = '\\' then ['\\', '\\']
  else if char = '\x08' then ['\\', 'b']
  else if char = '\x0c' then ['\\', 'f']
  else if char = '\n' then ['\\', 'n']
  else if char = '\r' then ['\\', 'r']
  else if char = '\t' then ['\\', 't']
  else if char.toNat < 0x20 then
    ['\\', 'u', '0', '0', hexDigit (char.toNat / 16), hexDigit char.toNat]
  else [char]

/-- A string with its quotes. -/
def quote (text : String) : String :=
  String.ofList ('"' :: text.toList.flatMap escapeChar ++ ['"'])

/-- Keys compare by their bytes, which is the order of their characters. -/
def keyOrder (left right : String × String) : Bool :=
  decide (left.1 ≤ right.1)

/-- An object's text from its keys and the texts of its values. -/
def braced (members : List (String × String)) : String :=
  "\x7b" ++ ",".intercalate
    ((members.mergeSort keyOrder).map fun entry => quote entry.1 ++ ":" ++ entry.2) ++ "\x7d"

/-- Numbers from `10 ^ (-4)` up to `10 ^ 15` have no exponent; an exponent has at least
two digits. -/
def realLayout : Double.DecimalLayout where
  lowest := -3
  highest := 15
  exponentWidth := 2

mutual

/-- The compact text of a value. -/
def render : Json → String
  | null => "null"
  | bool true => "true"
  | bool false => "false"
  | int value => toString value
  | real value => value.render realLayout
  | text value => quote value
  | array items => "[" ++ ",".intercalate (renderItems items) ++ "]"
  | object members => braced (renderMembers members)

def renderItems : List Json → List String
  | [] => []
  | item :: rest => render item :: renderItems rest

def renderMembers : List (String × Json) → List (String × String)
  | [] => []
  | (key, value) :: rest => (key, render value) :: renderMembers rest

end

end SwapFeed.Json
