import CronSchedule.Proofs.Calendar.Moves
import CronSchedule.Proofs.Outcome
import CronSchedule.Timetable.Search

/-!
# Fire times field by field

A clock is a fire time when it is valid and all fields accept it.  A search looks at one field at a
time, so this module says what each field allows: a set of values, and for the day the days of the
month at hand that the two day fields accept.

* `Timetable.Fires` — a valid clock that all fields accept.
* `Timetable.Allowed` — the values that a timetable allows in a field, given the fields above it.
* `Timetable.DaysDecided` — the day fields have an answer for every date that a search can meet.
* **`fires_iff_allowed`** — a valid clock fires exactly when every field of it is allowed.
-/

namespace CronSchedule.Timetable

open Calendar WallClock

variable {t : Timetable} {c u : WallClock}

/-- A valid clock that a timetable accepts. -/
def Fires (t : Timetable) (c : WallClock) : Prop :=
  c.IsValid ∧ t.accepts c = .ok true

lemma accepts_eq_true_iff : t.accepts c = .ok true ↔
    c.year ∈ t.year.members ∧ c.month ∈ t.month.members ∧
    t.dayMatches ⟨c.year, c.month, c.day⟩ = .ok true ∧ c.hour ∈ t.hour.members ∧
    c.minute ∈ t.minute.members ∧ c.second ∈ t.second.members := by
  unfold accepts ValueSet.contains
  cases h : t.dayMatches ⟨c.year, c.month, c.day⟩ with
  | error e => split_ifs <;> simp
  | ok matched => cases matched <;> split_ifs <;> simp_all [and_assoc]

/-- The days of the month of a clock that the day fields accept. -/
def DayAllowed (t : Timetable) (c : WallClock) (day : Int) : Prop :=
  (1 ≤ day ∧ day ≤ monthLength c.year c.month) ∧ t.dayMatches ⟨c.year, c.month, day⟩ = .ok true

/-- The day fields have an answer for every date of the calendar in a year of the year field. -/
def DaysDecided (t : Timetable) : Prop :=
  ∀ year month day, year ∈ t.year.members → (firstYear ≤ year ∧ year ≤ lastYear) →
    (1 ≤ month ∧ month ≤ 12) → (1 ≤ day ∧ day ≤ monthLength year month) →
    ∃ matched, t.dayMatches ⟨year, month, day⟩ = .ok matched

/-- The values that a timetable allows in a field of a clock, given the fields above it. -/
def Allowed (t : Timetable) (c : WallClock) : TimeUnit → Int → Prop
  | .year => (· ∈ t.year.members)
  | .month => (· ∈ t.month.members)
  | .day => t.DayAllowed c
  | .hour => (· ∈ t.hour.members)
  | .minute => (· ∈ t.minute.members)
  | .second => (· ∈ t.second.members)

/-- **A valid clock fires exactly when every field of it is allowed.** -/
theorem fires_iff_allowed (hc : c.IsValid) :
    t.Fires c ↔ ∀ unit, t.Allowed c unit (c.field unit) := by
  rw [Fires, accepts_eq_true_iff]
  constructor
  · rintro ⟨-, hyear, hmonth, hday, hhour, hminute, hsecond⟩ unit
    cases unit with
    | day => exact ⟨hc.2.1, hday⟩
    | _ => assumption
  · intro h
    exact ⟨hc, h .year, h .month, (h .day).2, h .hour, h .minute, h .second⟩

/-- What is allowed in a field depends on the fields above it only. -/
lemma allowed_congr {unit : TimeUnit} (h : SameAbove c u unit) :
    t.Allowed c unit = t.Allowed u unit := by
  cases unit with
  | day => funext day; simp only [Allowed, DayAllowed, h.1, h.2]
  | _ => rfl

/-- A fire time that agrees with a clock above a field is allowed there in the field. -/
lemma Fires.allowed (hu : t.Fires u) {unit : TimeUnit} (h : SameAbove c u unit) :
    t.Allowed c unit (u.field unit) := by
  rw [allowed_congr h]
  exact (fires_iff_allowed hu.1).1 hu unit

lemma Fires.allowed_below (hu : t.Fires u) {unit : TimeUnit} (h : SameAbove u c unit) :
    t.Allowed c unit (u.field unit) := by
  rw [← allowed_congr h]
  exact (fires_iff_allowed hu.1).1 hu unit

end CronSchedule.Timetable
