import CronSchedule.Calendar.Instant
import CronSchedule.Constraint.Text

/-!
# Timetables: the seven compiled fields

A timetable holds the constraints of the seven fields.  The five fields that are no day fields hold
sets of values; the two day fields hold any constraint.

The day fields are paired: a field that is a literal `*` or `?` leaves the decision to the other
one, and if both are restricted, a day is accepted when either one accepts it.

* `Timetable` — the constraints.
* `Timetable.ofConstraints?` — a timetable from a list of seven constraints.
* `Timetable.dayMatches` — the two day fields on a date.
* `Timetable.accepts` — all fields on a wall clock.
-/

namespace CronSchedule

open Calendar

/-- The constraints of the seven fields. -/
structure Timetable where
  second : ValueSet
  minute : ValueSet
  hour : ValueSet
  dayOfMonth : Constraint
  month : ValueSet
  dayOfWeek : Constraint
  year : ValueSet
  deriving DecidableEq

namespace Timetable

/-! ## Constraints -/

def constraint (t : Timetable) : Field → Constraint
  | .second => .values t.second
  | .minute => .values t.minute
  | .hour => .values t.hour
  | .dayOfMonth => t.dayOfMonth
  | .month => .values t.month
  | .dayOfWeek => t.dayOfWeek
  | .year => .values t.year

def constraints (t : Timetable) : List Constraint :=
  Field.all.map t.constraint

/-- Why constraints do not make a timetable. -/
inductive ConstructionError
  /-- There are not exactly seven of them. -/
  | wrongCount (count : Nat)
  /-- The constraint of a field that is no day field is not a set of values. -/
  | notValues (field : Field) (kind : String)
  deriving DecidableEq, Repr

def ConstructionError.message : ConstructionError → String
  | .wrongCount count => s!"Expected 7 field constraints, got {count}"
  | .notValues field kind => s!"{field.label} field must compile to a value set, got {kind}"

/-- The set of values in a constraint for a field that is no day field. -/
def valuesFor (field : Field) (constraint : Constraint) : Except ConstructionError ValueSet :=
  match constraint.valueSet? with
  | some set => .ok set
  | none => .error (.notValues field constraint.kind)

/-- The timetable of a list of constraints in the order of the fields. -/
def ofConstraints? (constraints : List Constraint) : Except ConstructionError Timetable := do
  match constraints with
  | [second, minute, hour, dayOfMonth, month, dayOfWeek, year] =>
    let second ← valuesFor .second second
    let minute ← valuesFor .minute minute
    let hour ← valuesFor .hour hour
    let month ← valuesFor .month month
    let year ← valuesFor .year year
    return ⟨second, minute, hour, dayOfMonth, month, dayOfWeek, year⟩
  | _ => throw (.wrongCount constraints.length)

/-! ## Matching -/

/-- Whether both day fields are restricted, so that either one may accept a day. -/
def eitherDayMatches (t : Timetable) : Bool :=
  t.dayOfMonth.isRestricted && t.dayOfWeek.isRestricted

/-- Whether the day of week accepts a date, which has to be one of the calendar. -/
def weekdayMatches (t : Timetable) (date : Date) : Except CalendarError Bool := do
  checkDate date.year date.month date.day
  t.dayOfWeek.accepts (weekdayOf date.year date.month date.day) (some date)

/-- Whether the two day fields accept a date.  The day of month is asked first; the day of week is
asked only if the answer is still open. -/
def dayMatches (t : Timetable) (date : Date) : Except CalendarError Bool := do
  if t.dayOfMonth.isRestricted then
    if ← t.dayOfMonth.accepts date.day (some date) then return true
    else if t.dayOfWeek.isRestricted then t.weekdayMatches date
    else return false
  else if t.dayOfWeek.isRestricted then t.weekdayMatches date
  else return true

/-- Whether all fields accept a wall clock. -/
def accepts (t : Timetable) (c : WallClock) : Except CalendarError Bool := do
  if t.year.contains c.year && t.month.contains c.month then
    if ← t.dayMatches ⟨c.year, c.month, c.day⟩ then
      return t.hour.contains c.hour && t.minute.contains c.minute && t.second.contains c.second
    else return false
  else return false

end Timetable

end CronSchedule
