import SwapFeed.Double.Rounding

/-!
# Update ids

Update ids are strictly increasing and follow microsecond timestamps.  A timestamp that is not
later than the last id gets the id after it, and a timestamp that is missing or implausible is
replaced by the clock reading.
-/

namespace SwapFeed

/-- The last update id handed out; zero before the first. -/
structure UpdateIds where
  last : UInt64 := 0
  deriving DecidableEq, Inhabited, Repr

namespace UpdateIds

/-- The latest plausible timestamp, 3000-01-01T00:00:00Z in microseconds. -/
def latestMicros : UInt64 := 32503680000000000

/-- Hand out an id for a timestamp in microseconds; it is the new `last`. -/
def advance (ids : UpdateIds) (now stamp : UInt64) : UpdateIds :=
  let stamp := if latestMicros < stamp then now else stamp
  ⟨if ids.last < stamp then stamp else ids.last + 1⟩

/-- Hand out an id for the present. -/
def advanceNow (ids : UpdateIds) (now : UInt64) : UpdateIds :=
  ids.advance now now

/-- A timestamp in seconds as microseconds. -/
def microsOfSeconds (seconds : Double) : Double :=
  seconds * Double.ofInt 1000000

/-- The whole microseconds of a plausible timestamp in seconds; `none` unless it is positive and
not too late. -/
def stampOfSeconds? (seconds : Double) : Option UInt64 :=
  let micros := microsOfSeconds seconds
  if Double.less .zero seconds && Double.atMost micros (.ofInt latestMicros.toNat) then
    some (UInt64.ofNat micros.nearestNat)
  else none

/-- Hand out an id for a timestamp in seconds. -/
def advanceSeconds (ids : UpdateIds) (now : UInt64) (seconds : Double) : UpdateIds :=
  ids.advance now ((stampOfSeconds? seconds).getD now)

end UpdateIds

end SwapFeed
