import SwapFeed.Text.Blank

/-!
# Integers as text

An integer is written in decimal, with an optional sign, and white space in front is skipped.  The
reader returns the exact integer; range limits belong to the fields that use it.
-/

namespace SwapFeed.Text

/-- The number written by a list of decimal digits. -/
def decimal (digits : List Char) : Nat :=
  digits.foldl (fun total digit => total * 10 + (digit.toNat - '0'.toNat)) 0

/-- Whether a list is nonempty and holds decimal digits only. -/
def isDigits (chars : List Char) : Bool :=
  !chars.isEmpty && chars.all Char.isDigit

/-- A sign in front of a numeral and what follows it; `true` stands for a minus. -/
def splitSign : List Char → Bool × List Char
  | '-' :: rest => (true, rest)
  | '+' :: rest => (false, rest)
  | chars => (false, chars)

/-- The integer that the whole text writes. -/
def integer? (chars : List Char) : Option Int :=
  let (negative, digits) := splitSign (chars.dropWhile isWhite)
  if isDigits digits then
    some (if negative then -(decimal digits : Int) else decimal digits)
  else none

/-- Whether an integer fits a signed 64-bit word. -/
def fitsInt64 (value : Int) : Bool :=
  decide (-9223372036854775808 ≤ value ∧ value ≤ 9223372036854775807)

@[simp] theorem isDigits_nil : isDigits [] = false := rfl

end SwapFeed.Text
