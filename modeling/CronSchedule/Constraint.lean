import CronSchedule.DayRule
import CronSchedule.ValueSet

/-!
# Compiled constraints

Each field of an expression compiles to one constraint: a set of values, the marker `?` that leaves
the day open, or a rule for a day of the month.  A schedule may also be put together by hand from
constraints of a kind that this library does not know; such a constraint accepts everything.

* `Constraint` — the constraints.
* `Constraint.isRestricted` — whether a constraint counts when the two day fields are paired.
* `Constraint.accepts` — whether a constraint accepts a value of its field, given a date for the
  rules.
-/

namespace CronSchedule

open Calendar

/-- What a field requires. -/
inductive Constraint
  /-- One of the values of a set. -/
  | values (set : ValueSet)
  /-- Nothing: the marker `?`. -/
  | unspecified
  /-- The day that a rule selects. -/
  | rule (rule : DayRule)
  /-- A constraint of another kind, which accepts everything. -/
  | foreign (kind : String)
  deriving DecidableEq

namespace Constraint

/-- Whether a constraint is anything but a literal `*` or `?`. -/
def isRestricted : Constraint → Bool
  | .values set => !set.wildcard
  | .unspecified => false
  | .rule _ => true
  | .foreign _ => true

/-- The set of values of a constraint that lists values. -/
def valueSet? : Constraint → Option ValueSet
  | .values set => some set
  | _ => none

def dayRule? : Constraint → Option DayRule
  | .rule r => some r
  | _ => none

/-- Whether a constraint accepts a value of its field.  A rule looks at the date instead of the
value, and accepts nothing without a date. -/
def accepts (constraint : Constraint) (value : Int) (date : Option Date) :
    Except CalendarError Bool :=
  match constraint with
  | .values set => .ok (set.contains value)
  | .unspecified | .foreign _ => .ok true
  | .rule r =>
    match date with
    | none => .ok false
    | some date => do
      let day ← r.resolve date.year date.month
      return day == some date.day

end Constraint

end CronSchedule
