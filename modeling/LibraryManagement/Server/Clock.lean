import Mathlib.Algebra.Order.Group.Int

/-! Instants are microseconds and dates are days since the Unix epoch, both integers.
Rails runs in its default zone, UTC, and the database keeps microseconds.
-/

namespace LibraryManagement

def microsecondsPerDay : Int := 86400000000

/-- `Time#to_date`, also `Date.current` for the instant of `Time.current`. -/
def toDate (instant : Int) : Int := instant / microsecondsPerDay

/-- `n.days.from_now`. A day in UTC always has 24 hours. -/
def daysFromNow (days now : Int) : Int := now + days * microsecondsPerDay

/-- `Date#beginning_of_day` -/
def beginningOfDay (date : Int) : Int := date * microsecondsPerDay

/-- `Date#end_of_day`, the last microsecond of the day. -/
def endOfDay (date : Int) : Int := (date + 1) * microsecondsPerDay - 1

/-- The days whose instants a Postgres timestamp can hold: 24 November 4714 BC, the first of the
Julian day numbers, to 31 December 294276.
-/
def inTimestamp (date : Int) : Bool := -2440588 ≤ date && date < 106762940

theorem toDate_daysFromNow (days now : Int)
    : toDate (daysFromNow days now) = toDate now + days := by
  rw [toDate, daysFromNow]
  exact Int.add_mul_ediv_right now days (by decide)

/-- The bounds of a day enclose exactly the instants of that date. -/
theorem toDate_eq_iff {instant date : Int}
    : toDate instant = date
      ↔ beginningOfDay date ≤ instant ∧ instant ≤ endOfDay date := by
  rw [toDate, beginningOfDay, endOfDay, microsecondsPerDay]
  omega

end LibraryManagement
