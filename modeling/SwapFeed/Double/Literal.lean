import SwapFeed.Double.Rounding
import SwapFeed.Text.Integer

/-!
# Floating-point numerals

The numerals accepted for a floating-point field: decimal and hexadecimal ones with an optional
fraction and exponent, and the words for infinities and for words that are not numbers.  White
space and a sign may stand in front; nothing may follow.
-/

namespace SwapFeed.Double

open SwapFeed.Text

/-- The value of a hexadecimal digit. -/
def hexDigit? (char : Char) : Option Nat :=
  if char.isDigit then some (char.toNat - '0'.toNat)
  else if 'a' ≤ char && char ≤ 'f' then some (char.toNat - 'a'.toNat + 10)
  else if 'A' ≤ char && char ≤ 'F' then some (char.toNat - 'A'.toNat + 10)
  else none

def isHexDigit (char : Char) : Bool := (hexDigit? char).isSome

/-- The number written by a list of hexadecimal digits. -/
def hexadecimal (digits : List Char) : Nat :=
  digits.foldl (fun total digit => total * 16 + (hexDigit? digit).getD 0) 0

/-- The exponent behind its marker; no text at all means exponent zero. -/
def exponent? (marker : Char) : List Char → Option Int
  | [] => some 0
  | char :: rest =>
      if char.toLower = marker then
        let (negative, digits) := splitSign rest
        if isDigits digits then
          some (if negative then -(decimal digits : Int) else decimal digits)
        else none
      else none

/-- Digits with an optional point: the digits before it, those behind it, and the rest. -/
def splitPoint (isDigit : Char → Bool) (chars : List Char) :
    List Char × List Char × List Char :=
  match chars.dropWhile isDigit with
  | '.' :: rest => (chars.takeWhile isDigit, rest.takeWhile isDigit, rest.dropWhile isDigit)
  | rest => (chars.takeWhile isDigit, [], rest)

def decimalNumeral? (negative : Bool) (chars : List Char) : Option Double :=
  let (whole, fraction, rest) := splitPoint Char.isDigit chars
  if whole.isEmpty && fraction.isEmpty then none
  else (exponent? 'e' rest).map fun exponent =>
    ofScaled negative 10 (decimal (whole ++ fraction)) (exponent - fraction.length)

def hexadecimalNumeral? (negative : Bool) (chars : List Char) : Option Double :=
  let (whole, fraction, rest) := splitPoint isHexDigit chars
  if whole.isEmpty && fraction.isEmpty then none
  else (exponent? 'p' rest).map fun exponent =>
    ofScaled negative 2 (hexadecimal (whole ++ fraction)) (exponent - 4 * fraction.length)

/-- The tag that may follow a word for not-a-number: letters, digits and underscores in
parentheses. -/
def isTag : List Char → Bool
  | [] => true
  | '(' :: rest =>
      rest.getLast? = some ')' &&
        rest.dropLast.all fun char => char.isAlphanum || char = '_'
  | _ :: _ => false

/-- An unsigned numeral that takes up the whole text. -/
def unsignedNumeral? (negative : Bool) (chars : List Char) : Option Double :=
  let lower := chars.map Char.toLower
  if lower = ['i', 'n', 'f'] || lower = ['i', 'n', 'f', 'i', 'n', 'i', 't', 'y'] then
    some (infinity negative)
  else if lower.take 3 = ['n', 'a', 'n'] then
    if isTag (chars.drop 3) then some nan else none
  else if lower.take 2 = ['0', 'x'] then hexadecimalNumeral? negative (chars.drop 2)
  else decimalNumeral? negative chars

/-- The number that the whole text writes. -/
def numeral? (chars : List Char) : Option Double :=
  let (negative, rest) := splitSign (chars.dropWhile isWhite)
  unsignedNumeral? negative rest

end SwapFeed.Double
