import Mathlib.Data.Int.Basic
import Mathlib.Tactic.NormNum

/-! # UTC timestamps

A `datetime` is an integer, the number of microseconds since 0001-01-01T00:00:00 UTC, so that the hour and day buckets
of the source are multiples of an hour and of a day. Arithmetic is exact. What an unbounded setting is added to or
subtracted from (the retention windows, the suppress window, the confirmation of a warning, the freshness of an
observation) can leave the range of `datetime`; the source then raises `OverflowError`. The fixed spans of up to a day
are added and subtracted without it, as the clock stands more than a day inside that range.
-/

namespace MegaraidDashboard

namespace Timestamp

def second : ℤ := 1000000
def minute : ℤ := 60 * second
def hour : ℤ := 60 * minute
def day : ℤ := 24 * hour

/-- `datetime.max`, the last microsecond of 9999-12-31. -/
def datetimeMax : ℤ := 3652059 * day - 1

/-- A value that `datetime` can hold. -/
def Representable (t : ℤ) : Prop := 0 ≤ t ∧ t ≤ datetimeMax

instance (t : ℤ) : Decidable (Representable t) := inferInstanceAs (Decidable (_ ∧ _))

/-- `now - timedelta(days=n)`; an underflow is the `OverflowError` of the source. -/
def minusDays (now : ℤ) (days : ℕ) : Option ℤ :=
  if 0 ≤ now - days * day then some (now - days * day) else none

/-- `timedelta.max`, almost a thousand million days. -/
def timedeltaMax : ℤ := 1000000000 * day - 1

/-- `timedelta(...)` of a duration that is not negative; no value is an `OverflowError`. -/
def timedelta (delta : ℤ) : Option ℤ := if delta ≤ timedeltaMax then some delta else none

/-- `now - delta`; no value is an `OverflowError`. -/
def minus (now delta : ℤ) : Option ℤ := if 0 ≤ now - delta then some (now - delta) else none

/-- `time + delta`; no value is an `OverflowError`. -/
def plus (time delta : ℤ) : Option ℤ := if time + delta ≤ datetimeMax then some (time + delta) else none

theorem timedelta_eq_some {delta duration : ℤ} :
    timedelta delta = some duration ↔ delta ≤ timedeltaMax ∧ delta = duration := by
  rw [timedelta, Option.ite_none_right_eq_some, Option.some.injEq]

theorem timedelta_eq_none {delta : ℤ} : timedelta delta = none ↔ timedeltaMax < delta := by
  rw [timedelta, ite_eq_right_iff, ← not_le]
  exact ⟨fun absent fits => absurd (absent fits) (Option.some_ne_none _), fun above fits => absurd fits above⟩

theorem minus_eq_some {now delta time : ℤ} : minus now delta = some time ↔ delta ≤ now ∧ now - delta = time := by
  rw [minus, Option.ite_none_right_eq_some, Option.some.injEq, sub_nonneg]

theorem minus_eq_none {now delta : ℤ} : minus now delta = none ↔ now < delta := by
  rw [minus, ite_eq_right_iff, sub_nonneg, ← not_le]
  exact ⟨fun absent fits => absurd (absent fits) (Option.some_ne_none _), fun above fits => absurd fits above⟩

theorem plus_eq_some {time delta later : ℤ} :
    plus time delta = some later ↔ time + delta ≤ datetimeMax ∧ time + delta = later := by
  rw [plus, Option.ite_none_right_eq_some, Option.some.injEq]

theorem plus_eq_none {time delta : ℤ} : plus time delta = none ↔ datetimeMax < time + delta := by
  rw [plus, ite_eq_right_iff, ← not_le]
  exact ⟨fun absent fits => absurd (absent fits) (Option.some_ne_none _), fun above fits => absurd fits above⟩

/-- `_hour_bucket` -/
def hourBucket (t : ℤ) : ℤ := t - t % hour

/-- `_day_bucket` -/
def dayBucket (t : ℤ) : ℤ := t - t % day

theorem hour_pos : 0 < hour := by decide

theorem day_pos : 0 < day := by decide

theorem day_eq : day = 24 * hour := rfl

theorem hourBucket_le (t : ℤ) : hourBucket t ≤ t := by
  have := Int.emod_nonneg t (ne_of_gt hour_pos)
  simp only [hourBucket]; omega

theorem dayBucket_le (t : ℤ) : dayBucket t ≤ t := by
  have := Int.emod_nonneg t (ne_of_gt day_pos)
  simp only [dayBucket]; omega

theorem lt_hourBucket_add (t : ℤ) : t < hourBucket t + hour := by
  have := Int.emod_lt_of_pos t hour_pos
  simp only [hourBucket]; omega

theorem lt_dayBucket_add (t : ℤ) : t < dayBucket t + day := by
  have := Int.emod_lt_of_pos t day_pos
  simp only [dayBucket]; omega

theorem hour_dvd_hourBucket (t : ℤ) : hour ∣ hourBucket t := Int.dvd_self_sub_emod

theorem day_dvd_dayBucket (t : ℤ) : day ∣ dayBucket t := Int.dvd_self_sub_emod

theorem hour_dvd_dayBucket (t : ℤ) : hour ∣ dayBucket t :=
  (Dvd.intro_left 24 day_eq.symm).trans (day_dvd_dayBucket t)

private theorem le_of_dvd_le_add {unit bound start t : ℤ} (unitPos : 0 < unit) (aligned : unit ∣ bound)
    (startAligned : unit ∣ start) (within : t < start + unit) (above : bound ≤ t) : bound ≤ start := by
  obtain ⟨a, rfl⟩ := aligned
  obtain ⟨b, rfl⟩ := startAligned
  have step : a < b + 1 := by
    by_contra far
    have : unit * (b + 1) ≤ unit * a := mul_le_mul_of_nonneg_left (not_lt.mp far) unitPos.le
    rw [mul_add, mul_one] at this
    omega
  exact mul_le_mul_of_nonneg_left (by omega) unitPos.le

/-- An aligned cutoff separates whole hours: it never cuts inside a bucket. -/
theorem le_hourBucket_iff {bound : ℤ} (aligned : hour ∣ bound) (t : ℤ) :
    bound ≤ hourBucket t ↔ bound ≤ t :=
  ⟨fun h => h.trans (hourBucket_le t),
    le_of_dvd_le_add hour_pos aligned (hour_dvd_hourBucket t) (lt_hourBucket_add t)⟩

theorem le_dayBucket_iff {bound : ℤ} (aligned : day ∣ bound) (t : ℤ) :
    bound ≤ dayBucket t ↔ bound ≤ t :=
  ⟨fun h => h.trans (dayBucket_le t),
    le_of_dvd_le_add day_pos aligned (day_dvd_dayBucket t) (lt_dayBucket_add t)⟩

theorem dayBucket_mono {s t : ℤ} (le : s ≤ t) : dayBucket s ≤ dayBucket t :=
  (le_dayBucket_iff (day_dvd_dayBucket s) t).mpr ((dayBucket_le s).trans le)

theorem dayBucket_le_hourBucket (t : ℤ) : dayBucket t ≤ hourBucket t :=
  (le_hourBucket_iff (hour_dvd_dayBucket t) t).mpr (dayBucket_le t)

/-- The day of an instant is the day of its hour. -/
theorem dayBucket_hourBucket (t : ℤ) : dayBucket (hourBucket t) = dayBucket t :=
  le_antisymm (dayBucket_mono (hourBucket_le t))
    ((le_dayBucket_iff (day_dvd_dayBucket t) _).mpr (dayBucket_le_hourBucket t))

end Timestamp

end MegaraidDashboard
