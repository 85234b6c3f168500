import Mathlib.Data.Rat.Floor

/-! Dates and times of day in a time zone, as a browser computes them. Instants and local times are
milliseconds since the epoch, the first in UTC, and dates are days since the epoch.
-/

namespace Calendar

/-- The milliseconds of a day in UTC. -/
def day : Int := 86400000

theorem day_pos : 0 < day := by decide

/-- The number of whole units that cover a span. -/
def ceilDiv (span unit : Int) : Int := -(-span / unit)

/-- It is the exact quotient, rounded up. -/
theorem ceilDiv_eq_ceil (span : Int) (unit : Nat) : ceilDiv span unit = ⌈(span / unit : ℚ)⌉ :=
  (Rat.ceil_intCast_div_natCast span unit).symm

/-- Whole units are counted as they are. -/
theorem ceilDiv_add_mul {unit : Int} (positive : 0 < unit) (count span : Int)
    : ceilDiv (count * unit + span) unit = count + ceilDiv span unit := by
  have negated : -(count * unit + span) = -span + -count * unit := by
    rw [neg_add, neg_mul, add_comm]
  simp only [ceilDiv, negated, Int.add_mul_ediv_right _ _ positive.ne']
  omega

/-- Until the end of a date, counted in whole days, it is as far as from the date of now. -/
theorem ceilDiv_sub {unit : Int} (positive : 0 < unit) (count now : Int)
    : ceilDiv (count * unit - now) unit = count - now / unit := by
  rw [sub_eq_add_neg, ceilDiv_add_mul positive, ceilDiv, neg_neg, sub_eq_add_neg]

/-- A zone tells by how much its local time is ahead of UTC, and the instant that stands for a local
time: the earliest one at which the clocks show it; a local time that is skipped is read as if
the clocks had not been changed yet.
-/
structure Zone where
  offset : Int → Int
  resolve : Int → Int
  shows : ∀ instant, resolve (instant + offset instant)
      + offset (resolve (instant + offset instant)) = instant + offset instant
  earliest : ∀ instant, resolve (instant + offset instant) ≤ instant
  skipped : ∀ localTime, (∀ instant, instant + offset instant ≠ localTime)
    → ∃ change, change - 1 + offset (change - 1) < localTime ∧ localTime < change + offset change
        ∧ resolve localTime = localTime - offset (change - 1)

namespace Zone

def once (change before after : Int) : Zone where
  offset instant := if instant < change then before else after
  resolve localTime :=
    if localTime < change + max before after then localTime - before else localTime - after
  shows instant := by
    split <;> split <;> split <;> omega
  earliest instant := by
    split <;> split <;> omega
  skipped localTime never := by
    refine ⟨change, ?_⟩
    have early := never (localTime - before)
    have late := never (localTime - after)
    split at early <;> split at late <;> split <;> omega

def fixed (offset : Int) : Zone := once 0 offset offset

@[simp] theorem fixed_offset (ahead instant : Int) : (fixed ahead).offset instant = ahead := by
  simp [fixed, once]

@[simp] theorem fixed_resolve (ahead localTime : Int)
    : (fixed ahead).resolve localTime = localTime - ahead := by
  simp [fixed, once]

variable (zone : Zone)

def localTime (instant : Int) : Int := instant + zone.offset instant

def dateOf (instant : Int) : Int := zone.localTime instant / day

/-- The instant at which a local date begins. -/
def midnight (date : Int) : Int := zone.resolve (date * day)

/-- By how much a local date begins before it does in UTC. -/
def midnightOffset (date : Int) : Int := date * day - zone.midnight date

def addDays (days instant : Int) : Int := zone.resolve (zone.localTime instant + days * day)

/-- The dates by which a local time that is skipped is read too late. -/
def carry (localTime : Int) : Int := zone.dateOf (zone.resolve localTime) - localTime / day

/-- Local times that the clocks show are read as they are. -/
theorem carry_eq_zero (instant : Int) : zone.carry (zone.localTime instant) = 0 := by
  unfold carry dateOf localTime
  rw [zone.shows, Int.sub_self]

/-- The same time of day some days later is on the date so many days later, and one further where
that time is skipped and read on the next date.
-/
theorem dateOf_addDays (days instant : Int)
    : zone.dateOf (zone.addDays days instant)
      = zone.dateOf instant + days + zone.carry (zone.localTime instant + days * day) := by
  have split : (zone.localTime instant + days * day) / day = zone.dateOf instant + days :=
    Int.add_mul_ediv_right _ _ day_pos.ne'
  rw [carry, split, addDays]
  omega

/-- From the beginning of a date to that of another it is as many days as the dates are apart, and
one more for each day or part of a day by which the clocks go back meanwhile.
-/
theorem ceilDiv_midnights (earlier later : Int)
    : ceilDiv (zone.midnight later - zone.midnight earlier) day
      = later - earlier
        + ceilDiv (zone.midnightOffset earlier - zone.midnightOffset later) day := by
  rw [← ceilDiv_add_mul day_pos]
  unfold midnightOffset
  congr 1
  rw [Int.sub_mul]
  omega

@[simp] theorem fixed_localTime (ahead instant : Int)
    : (fixed ahead).localTime instant = instant + ahead := by
  simp [localTime]

@[simp] theorem fixed_midnightOffset (ahead date : Int)
    : (fixed ahead).midnightOffset date = ahead := by
  simp [midnightOffset, midnight]

@[simp] theorem fixed_carry (ahead localTime : Int) : (fixed ahead).carry localTime = 0 := by
  have shown := (fixed ahead).carry_eq_zero (localTime - ahead)
  rwa [fixed_localTime, Int.sub_add_cancel] at shown

/-- UTC midnight of a date is as many local dates later as the zone is whole days ahead. -/
theorem dateOf_mul_day (date : Int)
    : zone.dateOf (date * day) = date + zone.offset (date * day) / day := by
  rw [dateOf, localTime, Int.add_comm, Int.add_mul_ediv_right _ _ day_pos.ne', Int.add_comm]

end Zone
end Calendar
