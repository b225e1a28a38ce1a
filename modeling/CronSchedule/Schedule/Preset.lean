import CronSchedule.Schedule.Run

/-!
# Presets

Schedules that are known by name.  A name is looked up in either case, with hyphens or underscores.

* `presetExpressions` — the names and the expressions of the presets, in order.
* `findPreset?` — the expression of a preset.
* `Schedule.preset?` — its schedule.
-/

namespace CronSchedule

open Text

def presetExpressions : List (String × String) :=
  [("yearly", "0 0 0 1 1 ?"), ("monthly", "0 0 0 1 * ?"), ("weekly", "0 0 0 ? * SUN"),
   ("daily", "0 0 0 * * ?"), ("hourly", "0 0 * * * ?"), ("every_minute", "0 * * * * ?"),
   ("every_second", "* * * * * ?"), ("weekdays_9am", "0 0 9 ? * MON-FRI"),
   ("weekdays_1015", "0 15 10 ? * MON-FRI"), ("business_hours_30min", "0 0/30 9-17 * * ?"),
   ("first_of_month", "0 0 2 1 * ?"), ("last_of_month", "0 15 10 L * ?"),
   ("last_weekday_of_month", "0 0 18 LW * ?"), ("last_friday", "0 15 10 ? * 6L"),
   ("third_friday", "0 15 10 ? * 6#3"), ("mid_month_weekday", "0 15 10 15W * ?"),
   ("quarterly", "0 0 0 1 1,4,7,10 ?"), ("end_of_quarter", "0 0 0 L 3,6,9,12 ?")]

def presetNames : List String :=
  presetExpressions.map (·.1)

def presetKey (name : List Char) : String :=
  String.ofList ((lower name).map fun c => if c = '-' then '_' else c)

def findPreset? (name : List Char) : Option String :=
  presetExpressions.lookup (presetKey name)

def Schedule.preset? (name : List Char) : Option Schedule := do
  let expression ← findPreset? name
  (Schedule.parse false expression.toList).toOption

end CronSchedule
