import SwapFeed.Event

/-!
# One side of an order book

A side keeps its levels best first: bids by falling and asks by rising price.  The order is a
parameter, given as the test whether one price is better than another.
-/

namespace SwapFeed

/-- Whether a price comes before another one on a side. -/
abbrev PriceOrder := Double → Double → Bool

namespace PriceOrder

/-- Bids are best at the highest price. -/
def bids : PriceOrder := fun left right => Double.less right left

/-- Asks are best at the lowest price. -/
def asks : PriceOrder := Double.less

/-- Neither price is better. -/
def alike (better : PriceOrder) (left right : Double) : Bool :=
  !better left right && !better right left

end PriceOrder

/-- The levels of a side, best first. -/
abbrev Side := List Level

namespace Side

/-- Set the size at a price. -/
def put (better : PriceOrder) (price size : Double) : Side → Side
  | [] => [⟨price, size⟩]
  | level :: rest =>
      if better level.price price then level :: put better price size rest
      else if better price level.price then ⟨price, size⟩ :: level :: rest
      else ⟨level.price, size⟩ :: rest

/-- Drop the level at a price. -/
def erase (better : PriceOrder) (price : Double) (side : Side) : Side :=
  side.filter fun level => !better.alike level.price price

/-- Write one level: size zero deletes. -/
def write (better : PriceOrder) (side : Side) (level : Level) : Side :=
  if level.size.isZero then erase better level.price side
  else put better level.price level.size side

/-- Write levels one after the other. -/
def writeAll (better : PriceOrder) (side : Side) (levels : List Level) : Side :=
  levels.foldl (write better) side

@[simp] theorem writeAll_nil (better : PriceOrder) (side : Side) :
    writeAll better side [] = side := rfl

@[simp] theorem writeAll_cons (better : PriceOrder) (side : Side) (level : Level)
    (rest : List Level) :
    writeAll better side (level :: rest) = writeAll better (write better side level) rest := rfl

theorem writeAll_append (better : PriceOrder) (side : Side) (first second : List Level) :
    writeAll better side (first ++ second) = writeAll better (writeAll better side first) second :=
  List.foldl_append

end Side

end SwapFeed
