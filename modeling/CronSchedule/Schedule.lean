import CronSchedule.Expression.Compile
import CronSchedule.Timetable.Search

/-!
# Schedules

A schedule is a timetable together with the text from which it was made.  Two schedules are equal
when their timetables are, whatever their texts.

* `Schedule` — the text, without blanks at its ends, and the timetable.
* `Schedule.parse` — the schedule of an expression.
* `Schedule.canonical` — the canonical text of a schedule.
* `Direction`, `SearchResult`, `Schedule.search` — a search for a fire time and what it reports.
-/

namespace CronSchedule

open Calendar Text

/-- A timetable with the text from which it was made. -/
structure Schedule where
  text : List Char
  timetable : Timetable
  deriving DecidableEq

namespace Schedule

/-! ## Making and printing schedules -/

def make (text : List Char) (timetable : Timetable) : Schedule :=
  ⟨trim text, timetable⟩

/-- The schedule of an expression. -/
def parse (strict : Bool) (expression : List Char) : Except Expression.Failure Schedule :=
  (Expression.compile strict expression).map (make expression)

/-- The schedule of an expression with what compiling reports. -/
def parseLogged (strict : Bool) (expression : List Char) :
    Log.Logged (Except Expression.Failure Schedule) :=
  ⟨parse strict expression, Expression.compileRecords strict expression⟩

/-- Whether two schedules have the same timetable. -/
def sameTimes (a b : Schedule) : Bool :=
  a.timetable == b.timetable

def display (s : Schedule) : String :=
  s!"CronExpression({quoted s.text})"

def fieldTexts (t : Timetable) : Except Constraint.FormatError (List (List Char)) :=
  Field.all.mapM fun field => (t.constraint field).format field

/-- Texts of fields without a last one that is `*`. -/
def dropOpenYear (texts : List (List Char)) : List (List Char) :=
  if texts.getLast? = some ['*'] then texts.dropLast else texts

/-- The canonical text of a timetable: its fields, the year only where it is restricted. -/
def canonicalText (t : Timetable) : Except Constraint.FormatError (List Char) := do
  return joinWith [' '] (dropOpenYear (← fieldTexts t))

/-- The canonical text of a schedule. -/
def canonical (s : Schedule) : Except Constraint.FormatError (List Char) :=
  canonicalText s.timetable

end Schedule

/-! ## Searching -/

/-- The direction of a search in time. -/
inductive Direction
  | next | previous
  deriving DecidableEq, Repr

def Direction.word : Direction → String
  | .next => "next"
  | .previous => "previous"

/-- The outcome of a search: the fire time that was found, if any, and what was searched for. -/
structure SearchResult where
  instant : Option Instant
  text : List Char
  direction : Direction
  deriving DecidableEq, Repr

/-- There is no fire time in a direction within the range of years. -/
structure Exhausted where
  text : List Char
  direction : String
  deriving DecidableEq, Repr

def Exhausted.message (e : Exhausted) : String :=
  s!"No {e.direction} fire time for {quoted e.text} within the supported year range"

namespace SearchResult

def exhausted (r : SearchResult) : Bool :=
  r.instant.isNone

def unwrap (r : SearchResult) : Except Exhausted Instant :=
  match r.instant with
  | some t => .ok t
  | none => .error ⟨r.text, r.direction.word⟩

/-- What a search from `start` reports: a record if it found nothing. -/
def records (start : Instant) (r : SearchResult) : List Log.Record :=
  if r.exhausted then
    [⟨.debug, "cronexpr.walker",
      s!"No {r.direction.word} fire time for {quoted r.text} from {start.toIsoString}", none⟩]
  else []

end SearchResult

namespace Schedule

/-- The nearest fire time in a direction, not counting the start itself. -/
def nearest (s : Schedule) (start : Instant) : Direction → Except CalendarError (Option Instant)
  | .next => s.timetable.next start
  | .previous => s.timetable.previous start

/-- Searches for a fire time. -/
def search (s : Schedule) (start : Instant) (direction : Direction) :
    Except CalendarError SearchResult := do
  return ⟨← s.nearest start direction, s.text, direction⟩

/-- Searches for a fire time, with what the search reports. -/
def searchLogged (s : Schedule) (start : Instant) (direction : Direction) :
    Log.Logged (Except CalendarError SearchResult) :=
  match s.search start direction with
  | .error e => ⟨.error e, []⟩
  | .ok r => ⟨.ok r, r.records start⟩

/-- Whether an instant is a fire time, to the second. -/
def accepts (s : Schedule) (t : Instant) : Except CalendarError Bool :=
  s.timetable.accepts t.clock

end Schedule

end CronSchedule
