import CronSchedule.Calendar.Month

/-!
# Wall-clock fields and their moves

`WallClock` holds the six fields of an instant to the second.  A search moves such a clock: it sets
one field and puts every finer field on its first value (`startHour`, …) or on its last one
(`endHour`, …).  A value past the end of its unit carries into the next unit.

The fields are plain integers, because a move may be asked for a value that its unit does not have;
`IsValid` says when they are a real date and time.

* `WallClock.IsValid` — a real date of any year and a real time of day.
* `WallClock.Before` — the order of wall clocks, field by field from the year down.
* `WallClock.rank` — a number that grows with the order on valid clocks; it bounds a search.
* `startYear` … `startSecond`, `endYear` … `endSecond` — the moves.
* `Stuck` — a move that met a month without a length, and the fields as it left them.
* `nextSecond`, `previousSecond` — the neighbouring seconds, within the years of the calendar.
-/

namespace CronSchedule.Calendar

/-- The fields of an instant to the second. -/
structure WallClock where
  year : Int
  month : Int
  day : Int
  hour : Int
  minute : Int
  second : Int
  deriving DecidableEq, Repr

namespace WallClock

/-! ## Validity and order -/

/-- The fields are a date of the calendar and a time of day. -/
def IsValid (c : WallClock) : Prop :=
  (1 ≤ c.month ∧ c.month ≤ 12) ∧ (1 ≤ c.day ∧ c.day ≤ monthLength c.year c.month) ∧
  (0 ≤ c.hour ∧ c.hour ≤ 23) ∧ (0 ≤ c.minute ∧ c.minute ≤ 59) ∧ (0 ≤ c.second ∧ c.second ≤ 59)

instance (c : WallClock) : Decidable c.IsValid := by
  unfold IsValid; infer_instance

/-- One clock shows an earlier time than another: the first field that differs decides. -/
def Before (a b : WallClock) : Prop :=
  a.year < b.year ∨ a.year = b.year ∧
  (a.month < b.month ∨ a.month = b.month ∧
  (a.day < b.day ∨ a.day = b.day ∧
  (a.hour < b.hour ∨ a.hour = b.hour ∧
  (a.minute < b.minute ∨ a.minute = b.minute ∧ a.second < b.second))))

instance (a b : WallClock) : Decidable (Before a b) := by
  unfold Before; infer_instance

/-- Seconds counted as if every month had 31 days.  On valid clocks it grows with `Before`. -/
def rank (c : WallClock) : Int :=
  ((((c.year * 12 + c.month) * 31 + c.day) * 24 + c.hour) * 60 + c.minute) * 60 + c.second

/-- The clock itself, if its fields can be built into a date and a time of day. -/
def check (c : WallClock) : Except CalendarError WallClock := do
  if !(fitsWord c.hour && fitsWord c.minute && fitsWord c.second) then throw .beyondWord
  checkDate c.year c.month c.day
  checkTime c.hour c.minute c.second
  return c

/-! ## Moves -/

/-- A move that could not be completed: the reason, and the fields as the move left them. -/
structure Stuck where
  error : CalendarError
  clock : WallClock
  deriving DecidableEq, Repr

/-- The first instant of a year. -/
def startYear (year : Int) (_ : WallClock) : Except Stuck WallClock :=
  .ok ⟨year, 1, 1, 0, 0, 0⟩

/-- The first instant of a month of the same year. -/
def startMonth (month : Int) (c : WallClock) : Except Stuck WallClock :=
  if 12 < month then c.startYear (c.year + 1)
  else if month < 1 then .error ⟨.badMonth month, { c with month := month }⟩
  else .ok ⟨c.year, month, 1, 0, 0, 0⟩

/-- The first instant of a day of the same month. -/
def startDay (day : Int) (c : WallClock) : Except Stuck WallClock :=
  match checkMonth c.month with
  | .error e => .error ⟨e, c⟩
  | .ok () =>
    if monthLength c.year c.month < day then c.startMonth (c.month + 1)
    else .ok { c with day := day, hour := 0, minute := 0, second := 0 }

/-- The first instant of an hour of the same day. -/
def startHour (hour : Int) (c : WallClock) : Except Stuck WallClock :=
  if 23 < hour then c.startDay (c.day + 1)
  else .ok { c with hour := hour, minute := 0, second := 0 }

/-- The first instant of a minute of the same hour. -/
def startMinute (minute : Int) (c : WallClock) : Except Stuck WallClock :=
  if 59 < minute then c.startHour (c.hour + 1)
  else .ok { c with minute := minute, second := 0 }

/-- A second of the same minute. -/
def startSecond (second : Int) (c : WallClock) : Except Stuck WallClock :=
  if 59 < second then c.startMinute (c.minute + 1)
  else .ok { c with second := second }

/-- The last instant of a year. -/
def endYear (year : Int) (_ : WallClock) : Except Stuck WallClock :=
  .ok ⟨year, 12, 31, 23, 59, 59⟩

/-- The last instant of a month of the same year. -/
def endMonth (month : Int) (c : WallClock) : Except Stuck WallClock :=
  if month < 1 then c.endYear (c.year - 1)
  else match checkMonth month with
    | .error e => .error ⟨e, { c with month := month }⟩
    | .ok () => .ok ⟨c.year, month, monthLength c.year month, 23, 59, 59⟩

/-- The last instant of a day of the same month. -/
def endDay (day : Int) (c : WallClock) : Except Stuck WallClock :=
  if day < 1 then c.endMonth (c.month - 1)
  else .ok { c with day := day, hour := 23, minute := 59, second := 59 }

/-- The last instant of an hour of the same day. -/
def endHour (hour : Int) (c : WallClock) : Except Stuck WallClock :=
  if hour < 0 then c.endDay (c.day - 1)
  else .ok { c with hour := hour, minute := 59, second := 59 }

/-- The last instant of a minute of the same hour. -/
def endMinute (minute : Int) (c : WallClock) : Except Stuck WallClock :=
  if minute < 0 then c.endHour (c.hour - 1)
  else .ok { c with minute := minute, second := 59 }

/-- A second of the same minute. -/
def endSecond (second : Int) (c : WallClock) : Except Stuck WallClock :=
  if second < 0 then c.endMinute (c.minute - 1)
  else .ok { c with second := second }

/-! ## The neighbouring seconds -/

/-- The clock itself, unless it has left the years in which a date can be built. -/
def withinCalendar (c : WallClock) : Except CalendarError WallClock :=
  if firstYear ≤ c.year ∧ c.year ≤ lastYear then .ok c else .error .beyondCalendar

/-- The clock one second later. -/
def nextSecond (c : WallClock) : Except CalendarError WallClock := do
  let later ← (c.startSecond (c.second + 1)).mapError (·.error)
  later.withinCalendar

/-- The clock one second earlier. -/
def previousSecond (c : WallClock) : Except CalendarError WallClock := do
  let earlier ← (c.endSecond (c.second - 1)).mapError (·.error)
  earlier.withinCalendar

end WallClock

/-! ## Moves by name -/

/-- The fields that a move can set. -/
inductive TimeUnit
  | year | month | day | hour | minute | second
  deriving DecidableEq, Repr

/-- Whether a move puts the finer fields on their first or on their last values. -/
inductive Edge
  | start | finish
  deriving DecidableEq, Repr

/-- The move that sets `unit` to `value` and the finer fields to the given edge. -/
def WallClock.move (edge : Edge) (unit : TimeUnit) (value : Int) (c : WallClock) :
    Except Stuck WallClock :=
  match edge, unit with
  | .start, .year => c.startYear value
  | .start, .month => c.startMonth value
  | .start, .day => c.startDay value
  | .start, .hour => c.startHour value
  | .start, .minute => c.startMinute value
  | .start, .second => c.startSecond value
  | .finish, .year => c.endYear value
  | .finish, .month => c.endMonth value
  | .finish, .day => c.endDay value
  | .finish, .hour => c.endHour value
  | .finish, .minute => c.endMinute value
  | .finish, .second => c.endSecond value

end CronSchedule.Calendar
