import Mathlib
import SwapFeed.Time.Calendar

/-!
# Counting days and seconds on the calendar

The calendar is given by its rules: which years are leap years, how long each month is, and which
date follows a date.  Seconds are counted from 1970-01-01T00:00:00Z by going from each second to the
next, in both directions.  The closed formulas for days and seconds agree with the count on every
date of every year, and the formula for the date inverts them.
-/

namespace SwapFeed

namespace Date

/-- Every fourth year has a leap day, centuries only if they are multiples of four hundred. -/
def IsLeap (year : Int) : Prop :=
  year % 4 = 0 ∧ (year % 100 = 0 → year % 400 = 0)

instance (year : Int) : Decidable (IsLeap year) := inferInstanceAs (Decidable (_ ∧ (_ → _)))

/-- The number of days of a month. -/
def monthLength (year month : Int) : Int :=
  if month = 2 then if IsLeap year then 29 else 28
  else if month = 4 ∨ month = 6 ∨ month = 9 ∨ month = 11 then 30
  else 31

/-- A date that exists. -/
structure InCalendar (date : Date) : Prop where
  month : 1 ≤ date.month ∧ date.month ≤ 12
  day : 1 ≤ date.day ∧ date.day ≤ monthLength date.year date.month

instance (date : Date) : Decidable date.InCalendar :=
  decidable_of_iff ((1 ≤ date.month ∧ date.month ≤ 12) ∧
      (1 ≤ date.day ∧ date.day ≤ monthLength date.year date.month))
    ⟨fun ⟨month, day⟩ => ⟨month, day⟩, fun ⟨month, day⟩ => ⟨month, day⟩⟩

/-- The date of the next day. -/
def tomorrow (date : Date) : Date :=
  if date.day < monthLength date.year date.month then { date with day := date.day + 1 }
  else if date.month < 12 then ⟨date.year, date.month + 1, 1⟩
  else ⟨date.year + 1, 1, 1⟩

theorem one_le_monthLength (year month : Int) : 1 ≤ monthLength year month := by
  unfold monthLength
  split
  · split <;> decide
  · split <;> decide

theorem InCalendar.tomorrow {date : Date} (stands : date.InCalendar) :
    date.tomorrow.InCalendar := by
  obtain ⟨month, day⟩ := stands
  unfold Date.tomorrow
  split
  · next within => exact ⟨month, by constructor <;> simp only <;> omega⟩
  · split
    · exact ⟨by constructor <;> simp only <;> omega, Int.le_refl 1, one_le_monthLength _ _⟩
    · exact ⟨by constructor <;> simp only <;> omega, Int.le_refl 1, one_le_monthLength _ _⟩

/-! ## Years from March to February -/

/-- The year that a date is in if years start in March. -/
def marchYear (date : Date) : Int := if date.month ≤ 2 then date.year - 1 else date.year

/-- The number of months from March to a month. -/
def marchMonth (month : Int) : Int := if month ≤ 2 then month + 9 else month - 3

/-- The number of days from the first of March of year zero to that of another year. -/
def daysBeforeMarch (year : Int) : Int := 365 * year + year / 4 - year / 100 + year / 400

/-- The number of days from the first of March to the first of the month after so many. -/
def daysFromMarch (months : Int) : Int := (153 * months + 2) / 5

/-- The number of days from the first of March to a date. -/
def daysInYear (date : Date) : Int := daysFromMarch (marchMonth date.month) + (date.day - 1)

section March

variable {date other : Date}

theorem toDays_eq (date : Date) :
    date.toDays = daysBeforeMarch date.marchYear + date.daysInYear - epochOffset := by
  have cycles : ∀ year : Int, year / 400 * daysPerCycle +
      (year % 400 * 365 + year % 400 / 4 - year % 400 / 100) = daysBeforeMarch year := by
    intro year
    simp only [daysPerCycle, daysBeforeMarch]
    omega
  rw [← cycles]
  simp only [toDays, marchYear, daysInYear, marchMonth, daysFromMarch]
  omega

/-- A year ends with February, which has its leap day. -/
theorem daysBeforeMarch_eq (year : Int) :
    daysBeforeMarch year = daysBeforeMarch (year - 1) + daysFromMarch 11 + monthLength year 2 := by
  have february : daysFromMarch 11 = 337 := by decide
  rw [february]
  by_cases leap : IsLeap year
  · simp only [daysBeforeMarch, monthLength, if_true, if_pos leap]
    unfold IsLeap at leap
    omega
  · simp only [daysBeforeMarch, monthLength, if_true, if_neg leap]
    unfold IsLeap at leap
    omega

/-- The months from March to January have the same lengths every year. -/
theorem daysFromMarch_add_one (year : Int) {month : Int} (months : 1 ≤ month ∧ month ≤ 12)
    (other : month ≠ 2) :
    daysFromMarch (marchMonth month + 1) =
      daysFromMarch (marchMonth month) + monthLength year month := by
  have cases : month = 1 ∨ month = 3 ∨ month = 4 ∨ month = 5 ∨ month = 6 ∨ month = 7 ∨
      month = 8 ∨ month = 9 ∨ month = 10 ∨ month = 11 ∨ month = 12 := by omega
  rw [monthLength, if_neg other]
  rcases cases with rfl | rfl | rfl | rfl | rfl | rfl | rfl | rfl | rfl | rfl | rfl <;> decide

/-- The first of March follows the last of February. -/
theorem toDays_march (year : Int) :
    (⟨year, 3, 1⟩ : Date).toDays = (⟨year, 2, monthLength year 2⟩ : Date).toDays + 1 := by
  have march : marchMonth 3 = 0 ∧ daysFromMarch 0 = 0 := by decide
  have february : marchMonth 2 = 11 := by decide
  simp only [toDays_eq, marchYear, daysInYear, march, february, Int.reduceLE, if_true, if_false,
    daysBeforeMarch_eq year]
  omega

/-- The first of any other month follows the last of the month before it. -/
theorem toDays_first {year month after inYear : Int} (months : 1 ≤ month ∧ month ≤ 12)
    (other : month ≠ 2) (same : marchMonth after = marchMonth month + 1)
    (stays : (⟨inYear, after, 1⟩ : Date).marchYear = (⟨year, month, 1⟩ : Date).marchYear) :
    (⟨inYear, after, 1⟩ : Date).toDays =
      (⟨year, month, monthLength year month⟩ : Date).toDays + 1 := by
  have length := daysFromMarch_add_one year months other
  simp only [marchYear] at stays
  simp only [toDays_eq, marchYear, daysInYear, stays, same, length]
  omega

theorem toDays_tomorrow (stands : date.InCalendar) : date.tomorrow.toDays = date.toDays + 1 := by
  obtain ⟨year, month, day⟩ := date
  obtain ⟨months, days⟩ := stands
  simp only [tomorrow] at months days ⊢
  split
  · simp only [toDays_eq, marchYear, daysInYear]
    omega
  · next last =>
      have full : day = monthLength year month := by omega
      subst full
      split
      · by_cases february : month = 2
        · subst february
          exact toDays_march year
        · apply toDays_first months february
          · simp only [marchMonth]
            omega
          · simp only [marchYear]
            omega
      · have december : month = 12 := by omega
        subst december
        apply toDays_first (by decide) (by decide) (by decide)
        simp only [marchYear]
        omega

theorem monotone_daysBeforeMarch : Monotone daysBeforeMarch := by
  apply monotone_int_of_le_succ
  intro year
  simp only [daysBeforeMarch]
  omega

theorem monotone_daysFromMarch : Monotone daysFromMarch := by
  apply monotone_int_of_le_succ
  intro months
  simp only [daysFromMarch]
  omega

/-- A day lies between the starts of one year, or month, and the next. -/
theorem eq_of_between {start : Int → Int} (monotone : Monotone start) {day first second : Int}
    (inFirst : start first ≤ day ∧ day < start (first + 1))
    (inSecond : start second ≤ day ∧ day < start (second + 1)) : first = second := by
  apply Int.le_antisymm
  · apply Int.le_of_lt_add_one
    apply monotone.reflect_lt
    omega
  · apply Int.le_of_lt_add_one
    apply monotone.reflect_lt
    omega

theorem InCalendar.in_month (stands : date.InCalendar) :
    daysFromMarch (marchMonth date.month) ≤ date.daysInYear ∧
      date.daysInYear < daysFromMarch (marchMonth date.month + 1) := by
  obtain ⟨months, days⟩ := stands
  rw [daysInYear]
  by_cases february : date.month = 2
  · have short : monthLength date.year 2 ≤ 29 := by
      rw [monthLength, if_pos rfl]
      split <;> decide
    have room : daysFromMarch (marchMonth 2 + 1) = daysFromMarch (marchMonth 2) + 30 := by decide
    rw [february] at days ⊢
    omega
  · have length := daysFromMarch_add_one date.year months february
    omega

theorem InCalendar.in_year (stands : date.InCalendar) :
    daysBeforeMarch date.marchYear ≤ date.toDays + epochOffset ∧
      date.toDays + epochOffset < daysBeforeMarch (date.marchYear + 1) := by
  have inMonth := stands.in_month
  obtain ⟨months, days⟩ := stands
  have first : 0 ≤ daysFromMarch (marchMonth date.month) := by
    simp only [daysFromMarch, marchMonth]
    omega
  rw [toDays_eq, daysBeforeMarch_eq (date.marchYear + 1), Int.add_sub_cancel]
  refine ⟨by omega, ?_⟩
  by_cases february : date.month = 2
  · have last : marchMonth 2 = 11 := by decide
    have inYear : date.marchYear + 1 = date.year := by
      rw [marchYear, if_pos (by omega)]
      omega
    rw [daysInYear, inYear, february, last]
    rw [february] at days
    omega
  · have before : daysFromMarch (marchMonth date.month + 1) ≤ daysFromMarch 11 := by
      apply monotone_daysFromMarch
      simp only [marchMonth]
      omega
    have length := one_le_monthLength (date.marchYear + 1) 2
    omega

/-- Different dates are different days. -/
theorem eq_of_toDays_eq (stands : date.InCalendar) (found : other.InCalendar)
    (same : date.toDays = other.toDays) : date = other := by
  have year : date.marchYear = other.marchYear :=
    eq_of_between monotone_daysBeforeMarch stands.in_year (same ▸ found.in_year)
  have inYear : date.daysInYear = other.daysInYear := by
    rw [toDays_eq, toDays_eq, year] at same
    omega
  have month : marchMonth date.month = marchMonth other.month :=
    eq_of_between monotone_daysFromMarch stands.in_month (inYear ▸ found.in_month)
  rw [daysInYear, daysInYear, month] at inYear
  obtain ⟨⟨months, -⟩, ⟨otherMonths, -⟩⟩ := And.intro stands found
  obtain ⟨_, _, _⟩ := date
  obtain ⟨_, _, _⟩ := other
  simp only [marchYear, marchMonth] at *
  simp only [mk.injEq]
  omega

end March

/-! ## From a day to its date -/

/-- The number of a day of a cycle of four hundred years, without the leap days before it. -/
def commonDay (day : Int) : Int := day - day / 1460 + day / 36524 - day / 146096

/-- The year of a cycle that a day of the cycle is in. -/
def yearInCycle (day : Int) : Int := commonDay day / 365

/-- The number of months from March that a day of a year comes after. -/
def monthsBefore (day : Int) : Int := (5 * day + 2) / 153

section OfDays

variable {day : Int}

theorem monotone_commonDay : Monotone commonDay := by
  apply monotone_int_of_le_succ
  intro day
  simp only [commonDay]
  omega

/-- A year starts on the first day that has 365 common days for every year before it. -/
theorem commonDay_start (year : Int) (inCycle : 0 < year ∧ year ≤ 400) :
    commonDay (daysBeforeMarch year - 1) < 365 * year ∧
      365 * year ≤ commonDay (daysBeforeMarch year) := by
  have all : ∀ index : Fin 400,
      commonDay (daysBeforeMarch (index.val + 1) - 1) < 365 * (index.val + 1 : Int) ∧
        365 * (index.val + 1 : Int) ≤ commonDay (daysBeforeMarch (index.val + 1)) := by
    decide +kernel
  have found := all ⟨(year - 1).toNat, by omega⟩
  have same : (((year - 1).toNat : Nat) : Int) + 1 = year := by omega
  rwa [same] at found

/-- The year of a day in its cycle starts at the day or before, and the next one later.  Common days
grow with the days, so it is enough to compare the starts of years. -/
theorem yearInCycle_bounds (inCycle : 0 ≤ day ∧ day < daysPerCycle) :
    0 ≤ yearInCycle day ∧ yearInCycle day < 400 ∧
      daysBeforeMarch (yearInCycle day) ≤ day ∧ day < daysBeforeMarch (yearInCycle day + 1) := by
  have cycle : daysPerCycle = 146097 := rfl
  have years : 0 ≤ yearInCycle day ∧ yearInCycle day < 400 := by
    simp only [yearInCycle, commonDay]
    omega
  have quotient : 365 * yearInCycle day ≤ commonDay day ∧
      commonDay day < 365 * (yearInCycle day + 1) := by
    simp only [yearInCycle]
    omega
  refine ⟨years.1, years.2, ?_, ?_⟩
  · by_contra before
    by_cases first : yearInCycle day = 0
    · rw [first] at before
      exact before inCycle.1
    · have start := (commonDay_start (yearInCycle day) (by omega)).1
      have earlier : commonDay day ≤ commonDay (daysBeforeMarch (yearInCycle day) - 1) :=
        monotone_commonDay (by omega)
      omega
  · by_contra after
    have start := (commonDay_start (yearInCycle day + 1) (by omega)).2
    have later : commonDay (daysBeforeMarch (yearInCycle day + 1)) ≤ commonDay day :=
      monotone_commonDay (by omega)
    omega

theorem monthsBefore_bounds (inYear : 0 ≤ day ∧ day < 366) :
    0 ≤ monthsBefore day ∧ monthsBefore day ≤ 11 ∧
      daysFromMarch (monthsBefore day) ≤ day ∧ day < daysFromMarch (monthsBefore day + 1) := by
  simp only [monthsBefore, daysFromMarch]
  omega

theorem daysBeforeMarch_cycle (cycle year : Int) :
    daysBeforeMarch (cycle * 400 + year) = cycle * daysPerCycle + daysBeforeMarch year := by
  simp only [daysBeforeMarch, daysPerCycle]
  omega

/-- The date of a day of a year that starts in March. -/
def ofMarch (year day : Int) : Date where
  year := year + if monthsBefore day < 10 then 0 else 1
  month := if monthsBefore day < 10 then monthsBefore day + 3 else monthsBefore day - 9
  day := day - daysFromMarch (monthsBefore day) + 1

theorem marchMonth_ofMarch {year : Int} (inYear : 0 ≤ day ∧ day < 366) :
    marchMonth (ofMarch year day).month = monthsBefore day := by
  have bounds := monthsBefore_bounds inYear
  simp only [ofMarch, marchMonth]
  omega

theorem marchYear_ofMarch {year : Int} (inYear : 0 ≤ day ∧ day < 366) :
    (ofMarch year day).marchYear = year := by
  have bounds := monthsBefore_bounds inYear
  simp only [ofMarch, marchYear]
  omega

theorem daysInYear_ofMarch {year : Int} (inYear : 0 ≤ day ∧ day < 366) :
    (ofMarch year day).daysInYear = day := by
  rw [daysInYear, marchMonth_ofMarch inYear]
  simp only [ofMarch]
  omega

theorem inCalendar_ofMarch {year : Int} (first : 0 ≤ day)
    (last : daysBeforeMarch year + day < daysBeforeMarch (year + 1)) :
    (ofMarch year day).InCalendar := by
  rw [daysBeforeMarch_eq (year + 1), Int.add_sub_cancel] at last
  have february : daysFromMarch 11 = 337 := by decide
  have short : monthLength (year + 1) 2 ≤ 29 := by
    rw [monthLength, if_pos rfl]
    split <;> decide
  have inYear : 0 ≤ day ∧ day < 366 := by omega
  have bounds := monthsBefore_bounds inYear
  have months : 1 ≤ (ofMarch year day).month ∧ (ofMarch year day).month ≤ 12 := by
    simp only [ofMarch]
    omega
  have day_eq : (ofMarch year day).day = day - daysFromMarch (monthsBefore day) + 1 := rfl
  refine ⟨months, by omega, ?_⟩
  by_cases leap : monthsBefore day = 11
  · have whole : ofMarch year day = ⟨year + 1, 2, day - daysFromMarch 11 + 1⟩ := by
      simp [ofMarch, leap]
    rw [whole]
    simp only
    omega
  · have other : (ofMarch year day).month ≠ 2 := by
      simp only [ofMarch]
      omega
    have length := daysFromMarch_add_one (ofMarch year day).year months other
    rw [marchMonth_ofMarch inYear] at length
    omega

/-- A date is that of a day in a year counted from March.  Within a cycle no year but the first is a
four hundredth, so the cycle is left out of the count. -/
theorem ofDays_eq (days : Int) :
    ∃ year day, ofDays days = ofMarch year day ∧ 0 ≤ day ∧
      daysBeforeMarch year + day < daysBeforeMarch (year + 1) ∧
      days + epochOffset = daysBeforeMarch year + day := by
  have inCycle : 0 ≤ (days + epochOffset) % daysPerCycle ∧
      (days + epochOffset) % daysPerCycle < daysPerCycle :=
    ⟨Int.emod_nonneg _ (by decide), Int.emod_lt_of_pos _ (by decide)⟩
  have whole := Int.mul_ediv_add_emod (days + epochOffset) daysPerCycle
  obtain ⟨first, last, start, next⟩ := yearInCycle_bounds inCycle
  have shape : ofDays days = ofMarch
      ((days + epochOffset) / daysPerCycle * 400 +
        yearInCycle ((days + epochOffset) % daysPerCycle))
      ((days + epochOffset) % daysPerCycle -
        (365 * yearInCycle ((days + epochOffset) % daysPerCycle) +
          yearInCycle ((days + epochOffset) % daysPerCycle) / 4 -
          yearInCycle ((days + epochOffset) % daysPerCycle) / 100)) := rfl
  refine ⟨_, _, shape, ?_⟩
  generalize (days + epochOffset) % daysPerCycle = day at *
  generalize (days + epochOffset) / daysPerCycle = cycle at *
  generalize yearInCycle day = year at *
  have early : 365 * year + year / 4 - year / 100 = daysBeforeMarch year := by
    simp only [daysBeforeMarch]
    omega
  rw [early, Int.add_assoc, daysBeforeMarch_cycle, daysBeforeMarch_cycle,
    Int.mul_comm cycle daysPerCycle]
  omega

theorem inCalendar_ofDays (days : Int) : (ofDays days).InCalendar := by
  obtain ⟨year, day, same, first, last, -⟩ := ofDays_eq days
  rw [same]
  exact inCalendar_ofMarch first last

theorem toDays_ofDays (days : Int) : (ofDays days).toDays = days := by
  obtain ⟨year, day, same, first, last, counted⟩ := ofDays_eq days
  have inYear : 0 ≤ day ∧ day < 366 := by
    simp only [daysBeforeMarch] at last
    omega
  rw [same, toDays_eq, marchYear_ofMarch inYear, daysInYear_ofMarch inYear]
  omega

end OfDays

end Date

/-! ## Seconds -/

namespace DateTime

variable {time other : DateTime} {seconds : Int}

/-- A time of day whose minutes have seconds up to a last one. -/
structure InDay (lastSecond : Int) (time : DateTime) : Prop where
  hour : 0 ≤ time.hour ∧ time.hour ≤ 23
  minute : 0 ≤ time.minute ∧ time.minute ≤ 59
  second : 0 ≤ time.second ∧ time.second ≤ lastSecond

instance (lastSecond : Int) (time : DateTime) : Decidable (time.InDay lastSecond) :=
  decidable_of_iff ((0 ≤ time.hour ∧ time.hour ≤ 23) ∧ (0 ≤ time.minute ∧ time.minute ≤ 59) ∧
      (0 ≤ time.second ∧ time.second ≤ lastSecond))
    ⟨fun ⟨hour, minute, second⟩ => ⟨hour, minute, second⟩,
      fun ⟨hour, minute, second⟩ => ⟨hour, minute, second⟩⟩

/-- A date and time that exist, in minutes of sixty seconds. -/
structure InCalendar (time : DateTime) : Prop where
  date : time.date.InCalendar
  inDay : time.InDay 59

instance (time : DateTime) : Decidable time.InCalendar :=
  decidable_of_iff (time.date.InCalendar ∧ time.InDay 59)
    ⟨fun ⟨date, inDay⟩ => ⟨date, inDay⟩, fun ⟨date, inDay⟩ => ⟨date, inDay⟩⟩

/-- The date and time of the next second. -/
def tick (time : DateTime) : DateTime :=
  if time.second < 59 then { time with second := time.second + 1 }
  else if time.minute < 59 then { time with minute := time.minute + 1, second := 0 }
  else if time.hour < 23 then { time with hour := time.hour + 1, minute := 0, second := 0 }
  else ⟨time.date.tomorrow, 0, 0, 0⟩

/-- The number of seconds from 1970-01-01T00:00:00Z, counted one by one; it is negative before. -/
inductive Elapsed : DateTime → Int → Prop where
  | epoch : Elapsed ⟨⟨1970, 1, 1⟩, 0, 0, 0⟩ 0
  | later {time : DateTime} {seconds : Int} (before : Elapsed time seconds) :
      Elapsed time.tick (seconds + 1)
  | earlier {time : DateTime} {seconds : Int} (stands : time.InCalendar)
      (after : Elapsed time.tick seconds) : Elapsed time (seconds - 1)

theorem InCalendar.tick (stands : time.InCalendar) : time.tick.InCalendar := by
  obtain ⟨date, hour, minute, second⟩ := stands
  have zero : (0 : Int) ≤ 0 ∧ (0 : Int) ≤ 59 := by decide
  unfold DateTime.tick
  split
  · exact ⟨date, hour, minute, by simp only; omega⟩
  · split
    · exact ⟨date, hour, by simp only; omega, zero⟩
    · split
      · exact ⟨date, by simp only; omega, zero, zero⟩
      · exact ⟨date.tomorrow, ⟨Int.le_refl 0, by simp only; omega⟩, zero, zero⟩

theorem toSeconds_of_month (months : 1 ≤ time.date.month ∧ time.date.month ≤ 12) :
    time.toSeconds = time.date.toDays * secondsPerDay +
      (time.hour * 3600 + time.minute * 60 + time.second) := by
  have carried : carryMonths time.date = time.date := by
    obtain ⟨⟨year, month, day⟩, hour, minute, second⟩ := time
    simp only [carryMonths, Date.mk.injEq, and_true] at months ⊢
    omega
  rw [toSeconds, carried]
  omega

theorem toSeconds_tick (stands : time.InCalendar) :
    time.tick.toSeconds = time.toSeconds + 1 := by
  have tomorrow := Date.toDays_tomorrow stands.date
  rw [toSeconds_of_month stands.tick.date.month, toSeconds_of_month stands.date.month]
  obtain ⟨date, hour, minute, second⟩ := stands
  unfold tick
  split
  · simp only
    omega
  · split
    · simp only
      omega
    · split
      · simp only
        omega
      · simp only [tomorrow, secondsPerDay]
        omega

/-- Different times are different seconds. -/
theorem eq_of_toSeconds_eq (stands : time.InCalendar) (found : other.InCalendar)
    (same : time.toSeconds = other.toSeconds) : time = other := by
  rw [toSeconds_of_month stands.date.month, toSeconds_of_month found.date.month,
    secondsPerDay] at same
  obtain ⟨date, ⟨hour, minute, second⟩⟩ := stands
  obtain ⟨otherDate, ⟨otherHour, otherMinute, otherSecond⟩⟩ := found
  have sameDate : time.date = other.date := Date.eq_of_toDays_eq date otherDate (by omega)
  obtain ⟨_, _, _, _⟩ := time
  obtain ⟨_, _, _, _⟩ := other
  simp only at *
  subst sameDate
  simp only [mk.injEq, true_and]
  omega

theorem inCalendar_ofSeconds (seconds : Int) : (ofSeconds seconds).InCalendar := by
  constructor
  · exact Date.inCalendar_ofDays _
  · constructor <;> simp only [ofSeconds, secondsPerDay] <;> omega

theorem toSeconds_ofSeconds (seconds : Int) : (ofSeconds seconds).toSeconds = seconds := by
  rw [toSeconds_of_month (inCalendar_ofSeconds seconds).date.month]
  simp only [ofSeconds, Date.toDays_ofDays, secondsPerDay]
  omega

theorem inCalendar_epoch : (⟨⟨1970, 1, 1⟩, 0, 0, 0⟩ : DateTime).InCalendar := by decide

/-- The closed formula counts the seconds of every date and time, however far away. -/
theorem elapsed_iff : time.Elapsed seconds ↔ time.InCalendar ∧ time.toSeconds = seconds := by
  constructor
  · intro elapsed
    induction elapsed with
    | epoch => exact ⟨inCalendar_epoch, by decide⟩
    | later before counted =>
        obtain ⟨stands, rfl⟩ := counted
        exact ⟨stands.tick, toSeconds_tick stands⟩
    | earlier stands after counted =>
        refine ⟨stands, ?_⟩
        rw [← counted.2, toSeconds_tick stands, Int.add_sub_cancel]
  · rintro ⟨stands, counted⟩
    induction seconds using Int.induction_on generalizing time with
    | zero =>
        have start : time = ⟨⟨1970, 1, 1⟩, 0, 0, 0⟩ :=
          eq_of_toSeconds_eq stands inCalendar_epoch (counted.trans (by decide))
        rw [start]
        exact .epoch
    | succ seconds step =>
        have previous := inCalendar_ofSeconds seconds
        have elapsed := step previous (toSeconds_ofSeconds seconds)
        have next : (ofSeconds seconds).tick = time := by
          apply eq_of_toSeconds_eq previous.tick stands
          rw [toSeconds_tick previous, toSeconds_ofSeconds, counted]
        exact next ▸ elapsed.later
    | pred seconds step =>
        have elapsed := step stands.tick (by rw [toSeconds_tick stands, counted]; omega)
        exact elapsed.earlier stands

end DateTime

end SwapFeed
