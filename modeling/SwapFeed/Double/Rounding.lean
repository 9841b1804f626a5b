import SwapFeed.Double.Basic

/-!
# Correct rounding

Every operation that produces a `Double` computes its exact result as a quotient of natural numbers
and rounds once: to the nearest number, and to the one with an even last bit when two are equally
near.  Results beyond the largest finite number become infinite.
-/

namespace SwapFeed

/-- The natural number nearest to a quotient; a tie goes to the even one. -/
def nearestEven (numerator denominator : Nat) : Nat :=
  let quotient := numerator / denominator
  let twice := 2 * (numerator % denominator)
  if twice < denominator then quotient
  else if denominator < twice then quotient + 1
  else quotient + quotient % 2

namespace Double

/-- The magnitude nearest to `numerator / denominator` units.  Numbers below `2 ^ 53` units are one
unit apart, and the distance doubles with each power of two above. -/
def magnitudeOfUnits (numerator denominator : Nat) : Nat :=
  let binade := (numerator / denominator).log2 - 52
  min infiniteMagnitude
    (binade * Nat.pow 2 52 + nearestEven numerator (denominator * Nat.pow 2 binade))

/-- The number nearest to a quotient of natural numbers, with the given sign. -/
def ofRatio (negative : Bool) (numerator denominator : Nat) : Double :=
  ofMagnitude negative (magnitudeOfUnits (numerator * unitsPerOne) denominator)

/-- The number nearest to an integer. -/
def ofInt (value : Int) : Double :=
  ofRatio (decide (value < 0)) value.natAbs 1

/-- The number nearest to a product. -/
def mul (left right : Double) : Double :=
  let negative := left.isNegative != right.isNegative
  if left.isNaN || right.isNaN then nan
  else if left.isInfinite || right.isInfinite then
    if left.isZero || right.isZero then nan else infinity negative
  else
    ofMagnitude negative (magnitudeOfUnits (left.units * right.units) unitsPerOne)

instance : Mul Double := ⟨mul⟩

/-- The number nearest to `digits * base ^ scale`.  Scales that leave the range of finite numbers
for every base from two on are settled without computing the power. -/
def ofScaled (negative : Bool) (base digits : Nat) : (scale : Int) → Double
  | .ofNat scale =>
      if digits = 0 then ofMagnitude negative 0
      else if 1024 ≤ scale then infinity negative
      else ofRatio negative (digits * Nat.pow base scale) 1
  | .negSucc scale =>
      if digits.log2 + 1077 ≤ scale + 1 then ofMagnitude negative 0
      else ofRatio negative digits (Nat.pow base (scale + 1))

end Double

end SwapFeed
