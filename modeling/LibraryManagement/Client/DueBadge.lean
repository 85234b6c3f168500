import LibraryManagement.Calendar.Zone

/-! `dueBadge` of `frontend/src/pages/member/Dashboard.tsx`. The due date is parsed as midnight in
UTC and read again in the zone of the browser, and dates are subtracted as instants.
-/

namespace LibraryManagement

open Calendar

/-- The badges, with the dates and the number of days they show. -/
inductive DueBadge where
  | overdueSince (date : Int)
  | dueToday
  | dueIn (days : Int)
  | due (date : Int)
  deriving DecidableEq, Repr

/-- The date that `new Date(year, month, day)` takes its arguments for: the years 0 to 99 stand for
1900 to 1999. The year 0 has a 29 February, 1900 has none.
-/
def dateOfFields (date : Int) : Int :=
  if -719528 ≤ date ∧ date < -719468 then
    date + 693961
  else if -719468 ≤ date ∧ date < -683003 then
    date + 693960
  else
    date

def dueBadge (zone : Zone) (now dueDate : Int) : DueBadge :=
  let today := zone.midnight (dateOfFields (zone.dateOf now))
  let due := dueDate * day
  let dueDay := zone.midnight (dateOfFields (zone.dateOf due))
  let diffDays := ceilDiv (dueDay - today) day
  if diffDays < 0 then
    .overdueSince (zone.dateOf due)
  else if diffDays = 0 then
    .dueToday
  else if diffDays ≤ 3 then
    .dueIn diffDays
  else
    .due (zone.dateOf due)

/-- The badge is the one for a due date on a day. -/
structure DueBadge.States (badge : DueBadge) (today dueDate : Int) : Prop where
  overdue : (∃ since, badge = .overdueSince since) ↔ dueDate < today
  dueToday : badge = .dueToday ↔ dueDate = today
  dueIn : ∀ days, badge = .dueIn days ↔ days = dueDate - today ∧ 1 ≤ days ∧ days ≤ 3
  due : (∃ date, badge = .due date) ↔ today + 3 < dueDate

/-- The days by which the years 0 to 99 are read too late. -/
def yearShift (date : Int) : Int := dateOfFields date - date

/-- The days by which a due date is taken to be later than it is, by the offsets of the zone: the
whole days by which it is ahead at the due date's midnight in UTC, and for each day or part of a
day by which its clocks go back from the local midnight of today to that of the date, one more.
-/
def dueDrift (zone : Zone) (now dueDate : Int) : Int :=
  let today := zone.dateOf now
  let ahead := zone.offset (dueDate * day) / day
  ahead + (yearShift (dueDate + ahead) - yearShift today)
  + ceilDiv (zone.midnightOffset (dateOfFields today)
      - zone.midnightOffset (dateOfFields (dueDate + ahead))) day

namespace DueBadge

section Badges

variable {today dueDate : Int}

theorem overdueSince_states_iff (since : Int)
    : (overdueSince since).States today dueDate ↔ dueDate < today := by
  constructor
  · exact fun states => states.overdue.mp ⟨since, rfl⟩
  · intro past
    constructor <;> simp <;> omega

theorem dueToday_states_iff : dueToday.States today dueDate ↔ dueDate = today := by
  constructor
  · exact fun states => states.dueToday.mp rfl
  · intro now
    constructor <;> simp <;> omega

theorem dueIn_states_iff (days : Int)
    : (dueIn days).States today dueDate ↔ days = dueDate - today ∧ 1 ≤ days ∧ days ≤ 3 := by
  constructor
  · exact fun states => (states.dueIn days).mp rfl
  · intro soon
    constructor <;> simp <;> omega

theorem due_states_iff (date : Int)
    : (due date).States today dueDate ↔ today + 3 < dueDate := by
  constructor
  · exact fun states => states.due.mp ⟨date, rfl⟩
  · intro later
    constructor <;> simp <;> omega

/-- The badge for a number of days is that for a due date if it is the number of days until then, or
both are in the past, or both more than three days ahead.
-/
theorem ofDays_states_iff (date days : Int)
    : (if days < 0 then
          overdueSince date
        else if days = 0 then
          dueToday
        else if days ≤ 3 then
          dueIn days
        else
          due date).States today dueDate
      ↔ days = dueDate - today ∨ (days < 0 ∧ dueDate < today)
        ∨ (3 < days ∧ today + 3 < dueDate) := by
  split
  · rw [overdueSince_states_iff]
    omega
  · split
    · rw [dueToday_states_iff]
      omega
    · split
      · rw [dueIn_states_iff]
        omega
      · rw [due_states_iff]
        omega

end Badges

end DueBadge

/-- The badge is right exactly where the due date is not taken for another one, or is taken for one
that is as well in the past, or as well more than three days ahead.
-/
theorem dueBadge_states_iff (zone : Zone) (now dueDate : Int)
    : (dueBadge zone now dueDate).States (zone.dateOf now) dueDate
      ↔ let ahead := dueDate - zone.dateOf now
        let drift := dueDrift zone now dueDate
        drift = 0 ∨ (ahead < 0 ∧ ahead + drift < 0) ∨ (3 < ahead ∧ 3 < ahead + drift) := by
  have taken : ceilDiv (zone.midnight (dateOfFields (zone.dateOf (dueDate * day)))
        - zone.midnight (dateOfFields (zone.dateOf now))) day
      = dueDate - zone.dateOf now + dueDrift zone now dueDate := by
    rw [zone.ceilDiv_midnights, zone.dateOf_mul_day, dueDrift, yearShift, yearShift]
    omega
  simp only [dueBadge, taken, DueBadge.ofDays_states_iff]
  omega

/-- Five hours behind UTC, a due date that is today is shown as overdue. -/
theorem due_today_overdue
    : let zone := Zone.fixed (-18000000)
      zone.dateOf (20000 * day + 61200000) = 20000
        ∧ dueBadge zone (20000 * day + 61200000) 20000 = .overdueSince 19999
        ∧ ¬(dueBadge zone (20000 * day + 61200000) 20000).States
            (zone.dateOf (20000 * day + 61200000)) 20000 := by
  intro zone
  have today : zone.dateOf (20000 * day + 61200000) = 20000 := by decide
  have shown : dueBadge zone (20000 * day + 61200000) 20000 = .overdueSince 19999 := by decide
  refine ⟨today, shown, fun states => ?_⟩
  exact absurd (states.overdue.mp ⟨19999, shown⟩) (by rw [today]; decide)

section Fixed

theorem dateOfFields_eq {date : Int} (fourDigits : -683003 ≤ date) : dateOfFields date = date := by
  rw [dateOfFields]
  split
  · omega
  · split <;> omega

variable {ahead now dueDate : Int} (recent : -683003 ≤ (Zone.fixed ahead).dateOf now)

include recent

/-- East of Greenwich, without changes of the clocks, the badge is right. -/
theorem dueBadge_east (later : -683003 ≤ dueDate) (east : 0 ≤ ahead) (small : ahead < day)
    : (dueBadge (Zone.fixed ahead) now dueDate).States ((Zone.fixed ahead).dateOf now) dueDate := by
  refine (dueBadge_states_iff _ _ _).mpr (Or.inl ?_)
  have none : ceilDiv 0 day = 0 := by decide
  simp only [dueDrift, yearShift, Zone.fixed_offset, Int.ediv_eq_zero_of_lt east small,
    Int.add_zero, Zone.fixed_midnightOffset, dateOfFields_eq recent, dateOfFields_eq later,
    Int.sub_self, none]

/-- West of it, it is right only for due dates in the past and for those more than four days ahead.
-/
theorem dueBadge_west_iff (later : -683003 < dueDate) (west : ahead < 0) (small : -day ≤ ahead)
    : (dueBadge (Zone.fixed ahead) now dueDate).States ((Zone.fixed ahead).dateOf now) dueDate
      ↔ dueDate < (Zone.fixed ahead).dateOf now ∨ (Zone.fixed ahead).dateOf now + 4 < dueDate := by
  have drift : dueDrift (Zone.fixed ahead) now dueDate = -1 := by
    have read : -683003 ≤ dueDate + -1 := by omega
    have behind : ahead / day = -1 := by
      unfold day at small ⊢
      omega
    have none : ceilDiv 0 day = 0 := by decide
    simp only [dueDrift, yearShift, Zone.fixed_offset, behind, Zone.fixed_midnightOffset,
      dateOfFields_eq recent, dateOfFields_eq read, Int.sub_self, none, Int.add_zero]
  rw [dueBadge_states_iff]
  simp only [drift]
  omega

end Fixed

/-- Two hours ahead of UTC, the day before the clocks go back by one hour: two days are three. -/
example
    : dueBadge (.once (20000 * day + 3600000) 7200000 3600000) (19999 * day) 20001 = .dueIn 3 := by
  decide

end LibraryManagement
