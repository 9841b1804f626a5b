import SwapFeed.Text.Octets
import SwapFeed.Text.Split

/-!
# Query strings

Parameters are byte strings.  Letters, digits and `- . _ ~` stand for themselves in a query, and
every other octet is written as a percent sign with two hexadecimal digits.
-/

namespace SwapFeed.Query

/-- Characters that stand for themselves. -/
def isPlain (char : Char) : Bool :=
  char.isAlphanum || char = '-' || char = '.' || char = '_' || char = '~'

/-- A hexadecimal digit in upper case. -/
def hexDigit (value : Nat) : Char :=
  (Nat.digitChar (value % 16)).toUpper

/-- The characters that write an octet. -/
def escapeOctet (octet : UInt8) : List Char :=
  let char := Char.ofNat octet.toNat
  if isPlain char then [char]
  else ['%', hexDigit (octet.toNat / 16), hexDigit octet.toNat]

/-- The characters that write a byte string. -/
def escape (octets : Octets) : List Char := octets.flatMap escapeOctet

/-- One parameter. -/
def parameter (entry : Octets × Octets) : List Char :=
  escape entry.1 ++ '=' :: escape entry.2

/-- A list of parameters, with the separator in front of each of them. -/
def joined (separator : Char) : List (Octets × Octets) → List Char
  | [] => []
  | entry :: rest => separator :: parameter entry ++ joined '&' rest

/-- The text that a list of parameters adds to a url; an empty list adds nothing. -/
def render (parameters : List (Octets × Octets)) : String :=
  String.ofList (joined '?' parameters)

end SwapFeed.Query
