import SwapFeed.Double.Rounding
import SwapFeed.Text.Cut

/-!
# Shortest decimal text of a number

A finite number is written with the fewest decimal digits that read back as the same number, and
with the nearest such digits when several are possible.  All comparisons are made on exact
quotients.
-/

namespace SwapFeed.Double

/-- Number of decimal digits of a natural number. -/
def digitCount (value : Nat) : Nat := (Nat.toDigits 10 value).length

/-- The position of the decimal point in front of a positive quotient's first digit: the quotient
lies in `[10 ^ (point - 1), 10 ^ point)`. -/
def pointOf (numerator denominator : Nat) : Int :=
  if denominator ≤ numerator then digitCount (numerator / denominator)
  else 1 - (digitCount ((denominator - 1) / numerator) : Int)

/-- The distance from a positive finite number to the edge of the numbers that round to it, below
and above, in quarters of a unit.  Below a power of two the neighbours are closer. -/
def halfGaps (value : Double) : Nat × Nat :=
  let above := 2 * Nat.pow 2 (value.magnitude / Nat.pow 2 52 - 1)
  if value.magnitude % Nat.pow 2 52 = 0 ∧ Nat.pow 2 53 ≤ value.magnitude then (above / 2, above)
  else (above, above)

/-- Whether a decimal `digits * 10 ^ scale` rounds to the given positive finite number, and how
far away it is, as a numerator over a fixed denominator. -/
def distance? (value : Double) (digits : Nat) (scale : Int) : Option Nat :=
  let stretch := Nat.pow 10 (-scale).toNat
  let target := 4 * value.units * stretch
  let candidate := digits * Nat.pow 10 scale.toNat * (4 * unitsPerOne)
  let (below, above) := value.halfGaps
  let reach := if candidate < target then below * stretch else above * stretch
  let apart := (candidate - target) + (target - candidate)
  if apart < reach ∨ (apart = reach ∧ value.magnitude % 2 = 0) then some apart else none

/-- The nearest decimal with a given number of digits that reads back, as its digits. -/
def digitsOfLength? (value : Double) (point : Int) (length : Nat) : Option Nat :=
  let scale : Int := point - length
  let floor :=
    value.units * Nat.pow 10 (-scale).toNat / (unitsPerOne * Nat.pow 10 scale.toNat)
  match distance? value floor scale, distance? value (floor + 1) scale with
  | some low, some high =>
      if low < high ∨ (low = high ∧ floor % 2 = 0) then some floor else some (floor + 1)
  | some _, none => some floor
  | none, some _ => some (floor + 1)
  | none, none => none

/-- The decimal digits, without zeros at the end. -/
def significantDigits (digits : Nat) : List Char :=
  ((Nat.toDigits 10 digits).reverse.dropWhile (· = '0')).reverse

/-- The shortest digits `d₁ … dₖ` and the point `n` of a positive finite number
`0.d₁ … dₖ * 10 ^ n`.  Seventeen digits always read back. -/
def shortest (value : Double) : List Char × Int :=
  let point := pointOf value.units unitsPerOne
  match (List.range 17).findSome? fun shorter =>
      (digitsOfLength? value point (shorter + 1)).map fun digits => (digits, shorter + 1) with
  | some (digits, length) =>
      (significantDigits digits, point + (digitCount digits - length : Int))
  | none => ([], point)

/-- How a decimal is laid out: for which points without an exponent, and how wide an exponent is. -/
structure DecimalLayout where
  /-- The lowest point without an exponent. -/
  lowest : Int
  /-- The highest point without an exponent. -/
  highest : Int
  /-- The least number of exponent digits. -/
  exponentWidth : Nat
  deriving DecidableEq, Repr

namespace DecimalLayout

/-- The text of `0.d₁ … dₖ * 10 ^ point`; an integer without an exponent ends in `.0`. -/
def lay (layout : DecimalLayout) (digits : List Char) (point : Int) : String :=
  let length : Int := digits.length
  if length ≤ point ∧ point ≤ layout.highest then
    String.ofList (digits ++ List.replicate (point - length).toNat '0') ++ ".0"
  else if 0 < point ∧ point ≤ layout.highest then
    String.ofList (digits.take point.toNat ++ '.' :: digits.drop point.toNat)
  else if layout.lowest ≤ point ∧ point ≤ 0 then
    "0." ++ String.ofList (List.replicate (-point).toNat '0' ++ digits)
  else
    let exponent := point - 1
    String.ofList (digits.take 1)
      ++ (if digits.length ≤ 1 then "" else "." ++ String.ofList (digits.drop 1))
      ++ (if exponent < 0 then "e-" else "e+")
      ++ Text.zeroPadded layout.exponentWidth exponent.natAbs

end DecimalLayout

/-- The text of a finite number in a layout. -/
def render (value : Double) (layout : DecimalLayout) : String :=
  let sign := if value.isNegative then "-" else ""
  if value.isZero then sign ++ "0.0"
  else
    let (digits, point) := value.shortest
    sign ++ layout.lay digits point

end SwapFeed.Double
