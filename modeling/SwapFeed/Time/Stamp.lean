import SwapFeed.Text.Cut
import SwapFeed.Time.Calendar

/-!
# Signature timestamps

The clock in microseconds, written as a UTC instant with milliseconds.
-/

namespace SwapFeed

open SwapFeed.Text

namespace DateTime

/-- The form `YYYY-MM-DDTHH:MM:SS` of years from zero on. -/
def render (time : DateTime) : String :=
  zeroPadded 4 time.date.year.toNat ++ "-" ++ zeroPadded 2 time.date.month.toNat ++ "-"
    ++ zeroPadded 2 time.date.day.toNat ++ "T" ++ zeroPadded 2 time.hour.toNat ++ ":"
    ++ zeroPadded 2 time.minute.toNat ++ ":" ++ zeroPadded 2 time.second.toNat

end DateTime

/-- The instant of a clock reading in microseconds, such as `2020-12-08T09:08:57.715Z`.  Before
the epoch, milliseconds and seconds are cut toward it and the milliseconds keep their sign. -/
def stampOfMicros (micros : Int) : String :=
  let millis := micros.tdiv 1000
  let fraction := toString (millis.tmod 1000)
  (DateTime.ofSeconds (millis.tdiv 1000)).render ++ "."
    ++ String.ofList (List.replicate (3 - fraction.length) '0') ++ fraction ++ "Z"

end SwapFeed
