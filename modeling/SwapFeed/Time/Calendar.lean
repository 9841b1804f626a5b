/-!
# The Gregorian calendar

Dates of the Gregorian calendar, extended to all years, and days counted from 1970-01-01.  Years
are counted from March, so that the leap day is the last day of its year and four hundred years
always have the same length.
-/

namespace SwapFeed

/-- A calendar date; month and day count from one. -/
structure Date where
  year : Int
  month : Int
  day : Int
  deriving DecidableEq, Inhabited, Repr

namespace Date

/-- Days in four hundred years. -/
def daysPerCycle : Int := 146097

/-- Days from the first of March of year zero to 1970-01-01. -/
def epochOffset : Int := 719468

/-- The number of days from 1970-01-01 to a date.  A day beyond its month's end counts on into the
months after it, and a day before the first counts back. -/
def toDays (date : Date) : Int :=
  let year := if date.month ≤ 2 then date.year - 1 else date.year
  let month := if date.month ≤ 2 then date.month + 9 else date.month - 3
  let cycle := year / 400
  let yearOfCycle := year % 400
  let dayOfYear := (153 * month + 2) / 5 + (date.day - 1)
  cycle * daysPerCycle
    + (yearOfCycle * 365 + yearOfCycle / 4 - yearOfCycle / 100 + dayOfYear) - epochOffset

/-- The date a number of days after 1970-01-01. -/
def ofDays (days : Int) : Date :=
  let shifted := days + epochOffset
  let cycle := shifted / daysPerCycle
  let dayOfCycle := shifted % daysPerCycle
  let yearOfCycle :=
    (dayOfCycle - dayOfCycle / 1460 + dayOfCycle / 36524 - dayOfCycle / 146096) / 365
  let dayOfYear := dayOfCycle - (365 * yearOfCycle + yearOfCycle / 4 - yearOfCycle / 100)
  let month := (5 * dayOfYear + 2) / 153
  { year := cycle * 400 + yearOfCycle + if month < 10 then 0 else 1
    month := if month < 10 then month + 3 else month - 9
    day := dayOfYear - (153 * month + 2) / 5 + 1 }

example : (⟨1970, 1, 1⟩ : Date).toDays = 0 := by decide

example : ofDays 19782 = ⟨2024, 2, 29⟩ := by decide

end Date

/-- A date with a time of day. -/
structure DateTime where
  date : Date
  hour : Int
  minute : Int
  second : Int
  deriving DecidableEq, Inhabited, Repr

namespace DateTime

def secondsPerDay : Int := 86400

/-- Carry months beyond a year into the year. -/
def carryMonths (date : Date) : Date :=
  { date with year := date.year + (date.month - 1) / 12, month := (date.month - 1) % 12 + 1 }

/-- Seconds from 1970-01-01T00:00:00Z.  Fields outside their usual ranges count on. -/
def toSeconds (time : DateTime) : Int :=
  (carryMonths time.date).toDays * secondsPerDay
    + time.hour * 3600 + time.minute * 60 + time.second

/-- The date and time a number of seconds after 1970-01-01T00:00:00Z. -/
def ofSeconds (seconds : Int) : DateTime :=
  let rest := seconds % secondsPerDay
  { date := Date.ofDays (seconds / secondsPerDay)
    hour := rest / 3600
    minute := rest % 3600 / 60
    second := rest % 60 }

end DateTime

end SwapFeed
