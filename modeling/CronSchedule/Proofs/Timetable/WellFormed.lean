import CronSchedule.Proofs.Calendar.Order
import CronSchedule.Proofs.Outcome
import CronSchedule.Proofs.ValueSet
import CronSchedule.Timetable

/-!
# Well-formed constraints

A constraint put together by hand may hold values that its field does not have.  A well-formed one
may not: it is what an expression can say in its field.

* `ValueSet.WellFormed` — values of the field, with the mark of the wildcard only on all of them.
* `DayRule.WellFormed`, `Constraint.WellFormed` — the rules and the constraints of a field.
* `Timetable.WellFormed` — every constraint is well-formed in its field.
* **`dayMatches_ok`** — a well-formed timetable has an answer for every date of the calendar.
-/

namespace CronSchedule

open Calendar

/-! ## Definitions -/

/-- A set of values of a field; a wildcard is the set of all of them. -/
structure ValueSet.WellFormed (field : Field) (set : ValueSet) : Prop where
  inRange : set.toSet ⊆ Set.Icc field.low field.high
  full : set.wildcard = true → set.toSet = Set.Icc field.low field.high

/-- A rule that belongs to a day field, with numbers that a month can have. -/
inductive DayRule.WellFormed : Field → DayRule → Prop
  | lastDay {before : Int} (hnonneg : 0 ≤ before) (hle : before ≤ 30) :
      WellFormed .dayOfMonth (.lastDay before)
  | lastWorkday : WellFormed .dayOfMonth .lastWorkday
  | nearestWorkday {day : Int} (hpos : 1 ≤ day) (hle : day ≤ 31) :
      WellFormed .dayOfMonth (.nearestWorkday day)
  | nthWeekday {weekday occurrence : Int} (hpos : 1 ≤ weekday) (hle : weekday ≤ 7)
      (hfirst : 1 ≤ occurrence) (hlast : occurrence ≤ 5) :
      WellFormed .dayOfWeek (.nthWeekday weekday occurrence)
  | lastWeekday {weekday : Int} (hpos : 1 ≤ weekday) (hle : weekday ≤ 7) :
      WellFormed .dayOfWeek (.lastWeekday weekday)

/-- A constraint that belongs to a field. -/
inductive Constraint.WellFormed (field : Field) : Constraint → Prop
  | values {set : ValueSet} (h : set.WellFormed field) : WellFormed field (.values set)
  | unspecified (h : field.isDay = true) : WellFormed field .unspecified
  | rule {rule : DayRule} (h : rule.WellFormed field) : WellFormed field (.rule rule)

/-- Every constraint of a timetable belongs to its field. -/
def Timetable.WellFormed (t : Timetable) : Prop :=
  ∀ field, (t.constraint field).WellFormed field

/-! ## Sets of values -/

lemma ValueSet.full_wellFormed (field : Field) (wildcard : Bool) :
    (full field wildcard).WellFormed field :=
  have hfull := toSet_full field wildcard
  ⟨hfull.subset, fun _ => hfull⟩

lemma ValueSet.single_wellFormed {field : Field} {value : Int}
    (h : value ∈ Set.Icc field.low field.high) : (single value).WellFormed field := by
  refine ⟨?_, fun hmark => by cases hmark⟩
  rw [toSet_single]
  exact Set.singleton_subset_iff.2 h

/-! ## Constraints -/

/-- A field that is no day field has a set of values. -/
lemma Constraint.WellFormed.exists_set {field : Field} {constraint : Constraint}
    (h : constraint.WellFormed field) (hday : field.isDay = false) :
    ∃ set, constraint = .values set := by
  cases h with
  | @values set h => exact ⟨set, rfl⟩
  | unspecified h => simp [hday] at h
  | rule h => cases h <;> cases hday

lemma Constraint.WellFormed.set {field : Field} {set : ValueSet}
    (h : (Constraint.values set).WellFormed field) : set.WellFormed field := by
  cases h
  assumption

/-! ## Dates -/

namespace Calendar

/-- A day of a month of the years 1 to 9999. -/
structure Date.IsValid (date : Date) : Prop where
  year : firstYear ≤ date.year ∧ date.year ≤ lastYear
  month : 1 ≤ date.month ∧ date.month ≤ 12
  day : 1 ≤ date.day ∧ date.day ≤ monthLength date.year date.month

lemma checkDate_ok {year month day : Int} (h : Date.IsValid ⟨year, month, day⟩) :
    checkDate year month day = .ok () := by
  have hyear : 1 ≤ year ∧ year ≤ 9999 := h.year
  have hmonth : 1 ≤ month ∧ month ≤ 12 := h.month
  have hday : 1 ≤ day ∧ day ≤ monthLength year month := h.day
  have hlength := monthLength_bounds year month
  have hwords : (fitsWord year && fitsWord month && fitsWord day) = true := by
    simp only [fitsWord, Bool.and_eq_true, decide_eq_true_eq]
    omega
  have hyears : ¬(year < firstYear ∨ lastYear < year) := by
    simp only [firstYear, lastYear]
    omega
  simp only [checkDate]
  rw [hwords, if_neg (by decide), if_neg hyears, if_neg (by omega), if_neg (by omega)]

lemma checkMonth_ok {month : Int} (h : 1 ≤ month ∧ month ≤ 12) : checkMonth month = .ok () :=
  if_pos h

lemma checkTime_ok {hour minute second : Int} (hhour : 0 ≤ hour ∧ hour ≤ 23)
    (hminute : 0 ≤ minute ∧ minute ≤ 59) (hsecond : 0 ≤ second ∧ second ≤ 59) :
    checkTime hour minute second = .ok () := by
  simp only [checkTime]
  rw [if_neg (by omega), if_neg (by omega), if_neg (by omega)]

/-- A valid clock in the years of the calendar can be built. -/
lemma WallClock.check_ok {c : WallClock} (hc : c.IsValid)
    (hyear : firstYear ≤ c.year ∧ c.year ≤ lastYear) : c.check = .ok c := by
  obtain ⟨hmonth, hday, hhour, hminute, hsecond⟩ := hc
  have hwords : (fitsWord c.hour && fitsWord c.minute && fitsWord c.second) = true := by
    simp only [fitsWord, Bool.and_eq_true, decide_eq_true_eq]
    omega
  have hdate : checkDate c.year c.month c.day = .ok () := checkDate_ok ⟨hyear, hmonth, hday⟩
  simp [check, hwords, hdate, checkTime_ok hhour hminute hsecond]

end Calendar

/-! ## Answers -/

/-- A well-formed rule can be applied in every month of the calendar. -/
lemma DayRule.WellFormed.check_ok {field : Field} {rule : DayRule} (h : rule.WellFormed field)
    {date : Date} (hdate : date.IsValid) : rule.check date.year date.month = .ok () := by
  have hlength := monthLength_bounds date.year date.month
  have hmonth := checkMonth_ok hdate.month
  have hlast : checkDate date.year date.month (monthLength date.year date.month) = .ok () :=
    checkDate_ok ⟨hdate.year, hdate.month, by dsimp only; omega, le_rfl⟩
  simp only [DayRule.check]
  cases h with
  | lastDay hnonneg hle => exact hmonth
  | lastWorkday => simp [hmonth, hlast]
  | nearestWorkday hpos hle =>
      simp only [hmonth, ok_bind]
      split
      · rename_i hday
        exact checkDate_ok ⟨hdate.year, hdate.month, hpos, hday⟩
      · rfl
  | nthWeekday hpos hle hfirst hlast =>
      exact checkDate_ok ⟨hdate.year, hdate.month, le_rfl, by dsimp only; omega⟩
  | lastWeekday hpos hle => simp [hmonth, hlast]

lemma Constraint.WellFormed.accepts_ok {field : Field} {constraint : Constraint}
    (h : constraint.WellFormed field) (value : Int) {date : Date} (hdate : date.IsValid) :
    ∃ accepted, constraint.accepts value (some date) = .ok accepted := by
  cases h with
  | values h => exact ⟨_, rfl⟩
  | unspecified h => exact ⟨_, rfl⟩
  | @rule rule h =>
      refine ⟨rule.day? date.year date.month == some date.day, ?_⟩
      simp [Constraint.accepts, DayRule.resolve, h.check_ok hdate]

namespace Timetable

variable {t : Timetable}

/-- Where both day fields have an answer for a date of the calendar, the timetable has one. -/
lemma dayMatches_of_answers {date : Date} (hdate : date.IsValid)
    (hmonth : ∀ value, ∃ accepted, t.dayOfMonth.accepts value (some date) = .ok accepted)
    (hweek : ∀ value, ∃ accepted, t.dayOfWeek.accepts value (some date) = .ok accepted) :
    ∃ matched, t.dayMatches date = .ok matched := by
  obtain ⟨byMonth, hmonth⟩ := hmonth date.day
  obtain ⟨byWeek, hweek⟩ := hweek (weekdayOf date.year date.month date.day)
  have hweekday : t.weekdayMatches date = .ok byWeek := by
    rwa [weekdayMatches, checkDate_ok hdate, ok_bind]
  simp only [dayMatches]
  rw [hmonth, hweekday]
  cases byMonth <;> split_ifs <;> simp

/-- **A well-formed timetable has an answer for every date of the calendar.** -/
theorem dayMatches_ok (ht : t.WellFormed) {date : Date} (hdate : date.IsValid) :
    ∃ matched, t.dayMatches date = .ok matched :=
  dayMatches_of_answers hdate (fun value => (ht .dayOfMonth).accepts_ok value hdate)
    fun value => (ht .dayOfWeek).accepts_ok value hdate

end Timetable

end CronSchedule
