/-!
# Binary floating-point numbers as 64-bit words

A `Double` is the 64-bit word of a binary floating-point number: a sign bit, eleven exponent bits
and fifty-two fraction bits.  Dropping the sign bit leaves a natural number, the *magnitude* of the
word, and magnitudes are ordered as the numbers they stand for.  Every finite number is a whole
number of *units* of size `2 ^ (-1074)`, so arithmetic on finite numbers is arithmetic on natural
numbers.
-/

namespace SwapFeed

/-- A binary floating-point number, given by its 64-bit word. -/
structure Double where
  bits : UInt64
  deriving DecidableEq, Inhabited, Repr

namespace Double

/-- The magnitude shared by both infinities; larger magnitudes are not numbers. -/
def infiniteMagnitude : Nat := 2047 * Nat.pow 2 52

/-- The word without its sign bit. -/
def magnitude (value : Double) : Nat :=
  value.bits.toNat % Nat.pow 2 63

/-- The sign bit. -/
def isNegative (value : Double) : Bool :=
  decide (Nat.pow 2 63 ≤ value.bits.toNat)

/-- The word with the given sign and magnitude. -/
def ofMagnitude (negative : Bool) (magnitude : Nat) : Double :=
  ⟨UInt64.ofNat (magnitude % Nat.pow 2 63 + if negative then Nat.pow 2 63 else 0)⟩

def zero : Double := ⟨0⟩

/-- The infinity of the given sign. -/
def infinity (negative : Bool) : Double :=
  ofMagnitude negative infiniteMagnitude

/-- The representative of the words that are not numbers. -/
def nan : Double := ofMagnitude false (infiniteMagnitude + Nat.pow 2 51)

def isNaN (value : Double) : Bool :=
  decide (infiniteMagnitude < value.magnitude)

def isInfinite (value : Double) : Bool :=
  decide (value.magnitude = infiniteMagnitude)

def isFinite (value : Double) : Bool :=
  decide (value.magnitude < infiniteMagnitude)

/-- Zero of either sign. -/
def isZero (value : Double) : Bool :=
  decide (value.magnitude = 0)

/-- The position of a number in the order of all numbers; both zeros are at position zero. -/
def position (value : Double) : Int :=
  if value.isNegative then -(value.magnitude : Int) else value.magnitude

/-- Strict order of numbers.  A word that is not a number is on neither side of it. -/
def less (left right : Double) : Bool :=
  !left.isNaN && !right.isNaN && decide (left.position < right.position)

/-- Weak order of numbers, with the same convention. -/
def atMost (left right : Double) : Bool :=
  !left.isNaN && !right.isNaN && decide (left.position ≤ right.position)

/-- How many units of `2 ^ (-1074)` make up the absolute value of a finite number. -/
def units (value : Double) : Nat :=
  let exponent := value.magnitude / Nat.pow 2 52
  let fraction := value.magnitude % Nat.pow 2 52
  if exponent = 0 then fraction else (Nat.pow 2 52 + fraction) * Nat.pow 2 (exponent - 1)

/-- How many units make up the number one. -/
def unitsPerOne : Nat := Nat.pow 2 1074

/-- Whether a finite number is an integer. -/
def isWhole (value : Double) : Bool :=
  decide (value.units % unitsPerOne = 0)

/-- A finite number without its fractional part. -/
def truncate (value : Double) : Int :=
  let whole : Int := value.units / unitsPerOne
  if value.isNegative then -whole else whole

/-- The natural number nearest to the absolute value of a finite number; halves go up. -/
def nearestNat (value : Double) : Nat :=
  (2 * value.units + unitsPerOne) / (2 * unitsPerOne)

@[simp] theorem magnitude_zero : zero.magnitude = 0 := by decide

theorem less_irrefl (value : Double) : less value value = false := by
  simp [less]

end Double

end SwapFeed
