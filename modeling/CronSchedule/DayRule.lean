import CronSchedule.Calendar.Month

/-!
# Rules that select a day of the month

The markers of the day fields select at most one day of each month, which is known only once the
year and the month are.

* `DayRule` — the rules.
* `DayRule.day?` — the day that a rule selects in a month of the calendar.
* `DayRule.check` — the dates that have to exist for the rule to be applied.
* `DayRule.resolve` — the check and the day together.
-/

namespace CronSchedule

open Calendar

/-- A rule for a day of the month.  Weekdays count from Sunday as 1. -/
inductive DayRule
  /-- The day that `before` days follow to the end of the month. -/
  | lastDay (before : Int)
  /-- The last day from Monday to Friday. -/
  | lastWorkday
  /-- The day from Monday to Friday that is nearest to `day`. -/
  | nearestWorkday (day : Int)
  /-- The day on which a weekday occurs for the `occurrence`-th time. -/
  | nthWeekday (weekday occurrence : Int)
  /-- The last day with a given weekday. -/
  | lastWeekday (weekday : Int)
  deriving DecidableEq, Repr

namespace DayRule

/-- The day that a rule selects in a month.  A Saturday is moved to the Friday before it and a
Sunday to the Monday after it, unless that leaves the month; then the move is to the other side. -/
def day? (rule : DayRule) (year month : Int) : Option Int :=
  let last := monthLength year month
  match rule with
  | .lastDay before => if 1 ≤ last - before then some (last - before) else none
  | .lastWorkday =>
    match weekdayOf year month last with
    | 7 => some (last - 1)
    | 1 => some (last - 2)
    | _ => some last
  | .nearestWorkday day =>
    if last < day then none
    else match weekdayOf year month day with
      | 7 => some (if day = 1 then day + 2 else day - 1)
      | 1 => some (if day = last then day - 2 else day + 1)
      | _ => some day
  | .nthWeekday weekday occurrence =>
    let day := 1 + (weekday - weekdayOf year month 1) % 7 + 7 * (occurrence - 1)
    if day ≤ last then some day else none
  | .lastWeekday weekday => some (last - (weekdayOf year month last - weekday) % 7)

/-- Refuses a month in which a rule cannot be applied, because a date whose weekday it needs does
not exist. -/
def check (rule : DayRule) (year month : Int) : Except CalendarError Unit :=
  let last := monthLength year month
  match rule with
  | .lastDay _ => checkMonth month
  | .lastWorkday | .lastWeekday _ => do
    checkMonth month
    checkDate year month last
  | .nearestWorkday day => do
    checkMonth month
    if day ≤ last then checkDate year month day
  | .nthWeekday _ _ => checkDate year month 1

/-- The day that a rule selects in a month, or why the rule cannot be applied there. -/
def resolve (rule : DayRule) (year month : Int) : Except CalendarError (Option Int) := do
  rule.check year month
  return rule.day? year month

end DayRule

end CronSchedule
