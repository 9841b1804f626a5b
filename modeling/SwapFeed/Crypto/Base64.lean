import SwapFeed.Text.Octets

/-!
# Base64

Three octets become four characters; a last group of one or two octets is filled up with equals
signs.
-/

namespace SwapFeed.Base64

/-- The character of a number below 64. -/
def symbol (value : Nat) : Char :=
  if value < 26 then Char.ofNat ('A'.toNat + value)
  else if value < 52 then Char.ofNat ('a'.toNat + (value - 26))
  else if value < 62 then Char.ofNat ('0'.toNat + (value - 52))
  else if value = 62 then '+'
  else '/'

/-- The four characters of three octets. -/
def group (first second third : UInt8) : List Char :=
  let value := first.toNat * 65536 + second.toNat * 256 + third.toNat
  [symbol (value / 262144), symbol (value / 4096 % 64), symbol (value / 64 % 64),
    symbol (value % 64)]

def encodeChars : Octets → List Char
  | [] => []
  | [first] => (group first 0 0).take 2 ++ ['=', '=']
  | [first, second] => (group first second 0).take 3 ++ ['=']
  | first :: second :: third :: rest => group first second third ++ encodeChars rest

/-- The text of a byte string. -/
def encode (octets : Octets) : String := String.ofList (encodeChars octets)

end SwapFeed.Base64
