import CronSchedule.Text.Case
import CronSchedule.Text.Numeral

/-!
# Log levels

A level is a number; the greater it is, the more a message matters.

* `Level.name` — the name of a level; a number without one is spelled out.
* `Level.ofName?` — the level of a name, in either case.
-/

namespace CronSchedule.Log

open Text

/-- The number of a level.  The named levels are ten apart. -/
abbrev Level := Int

namespace Level

def unset : Level := 0

def debug : Level := 10

def info : Level := 20

def warning : Level := 30

def error : Level := 40

def critical : Level := 50

/-- The levels that have names; of two names for one level the first is written. -/
def names : List (String × Level) :=
  [("CRITICAL", critical), ("FATAL", critical), ("ERROR", error), ("WARNING", warning),
   ("WARN", warning), ("INFO", info), ("DEBUG", debug), ("NOTSET", unset)]

def name (level : Level) : String :=
  match names.find? (·.2 == level) with
  | some (name, _) => name
  | none => s!"Level {level}"

def ofName? (name : String) : Option Level :=
  names.lookup (upperString name)

end Level

end CronSchedule.Log
