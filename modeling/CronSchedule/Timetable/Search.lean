import CronSchedule.Timetable

/-!
# Searching a timetable for fire times

A search keeps a candidate clock and tests its fields from the year down.  The first field whose
value is not in its set jumps to the nearest member in the direction of the search and puts every
finer field on its edge; if there is no member left, the next coarser field moves on by one.  Then
the tests begin again.  Each jump moves the candidate in the direction of the search and stays on
real dates, so `WallClock.rank` bounds the search within the years that the year field can name.

* `Verdict` — what a set of values says about the value where a field stands.
* `forwardStep`, `backwardStep` — one round of tests.
* `earliestFrom`, `latestFrom` — the first fire time at or after a clock, the last one at or before.
* `next`, `previous` — the first fire time after an instant, the last one before it.

A start before the range of years is not moved by a second, and neither is one after it: there is
no fire time next to it.
-/

namespace CronSchedule

open Calendar

/-! ## One field -/

/-- What a field can do from where it stands: stay, jump to a value, or nothing any more. -/
inductive Verdict
  | stay
  | jump (value : Int)
  | spent
  deriving DecidableEq, Repr

/-- The verdict for a field that stands at `value` and could go to `target`. -/
def Verdict.toward (value : Int) : Option Int → Verdict
  | none => .spent
  | some target => if target = value then .stay else .jump target

/-- The verdict of a set of values for a search forward. -/
def ValueSet.ahead (set : ValueSet) (value : Int) : Verdict :=
  .toward value (set.ceiling value)

/-- The verdict of a set of values for a search backward. -/
def ValueSet.behind (set : ValueSet) (value : Int) : Verdict :=
  .toward value (set.floor value)

/-- The integers from `first` to `last`. -/
def integersFrom (first last : Int) : List Int :=
  (List.range (last - first + 1).toNat).map fun (i : Nat) => first + (i : Int)

/-- The first of the given values that passes a test. -/
def firstPassing (test : Int → Except ε Bool) : List Int → Except ε (Option Int)
  | [] => .ok none
  | value :: rest => do if ← test value then return some value else firstPassing test rest

/-- The outcome of one round of tests. -/
inductive Progress
  /-- Every field accepts the candidate. -/
  | found (clock : WallClock)
  /-- There is no fire time in the direction of the search. -/
  | exhausted
  /-- No fire time lies between the candidate and this clock. -/
  | moved (clock : WallClock)
  deriving DecidableEq, Repr

def moveTo (move : Except WallClock.Stuck WallClock) : Except CalendarError Progress :=
  (move.mapError (·.error)).map .moved

namespace Timetable

/-! ## Rounds -/

/-- The verdict of the day fields for a search forward: the first day of the month, from the day
where the clock stands, that they accept. -/
def dayAhead (t : Timetable) (c : WallClock) : Except CalendarError Verdict := do
  let days := integersFrom c.day (monthLength c.year c.month)
  let found ← firstPassing (fun day => t.dayMatches ⟨c.year, c.month, day⟩) days
  return .toward c.day found

/-- The verdict of the day fields for a search backward. -/
def dayBehind (t : Timetable) (c : WallClock) : Except CalendarError Verdict := do
  let days := (integersFrom 1 c.day).reverse
  let found ← firstPassing (fun day => t.dayMatches ⟨c.year, c.month, day⟩) days
  return .toward c.day found

/-- One round of tests of a search forward. -/
def forwardStep (t : Timetable) (c : WallClock) : Except CalendarError Progress := do
  if Field.year.high < c.year then return .exhausted
  match t.year.ahead c.year with
  | .spent => return .exhausted
  | .jump year => moveTo (c.startYear year)
  | .stay =>
  match t.month.ahead c.month with
  | .spent => moveTo (c.startYear (c.year + 1))
  | .jump month => moveTo (c.startMonth month)
  | .stay =>
  match ← t.dayAhead c with
  | .spent => moveTo (c.startMonth (c.month + 1))
  | .jump day => moveTo (c.startDay day)
  | .stay =>
  match t.hour.ahead c.hour with
  | .spent => moveTo (c.startDay (c.day + 1))
  | .jump hour => moveTo (c.startHour hour)
  | .stay =>
  match t.minute.ahead c.minute with
  | .spent => moveTo (c.startHour (c.hour + 1))
  | .jump minute => moveTo (c.startMinute minute)
  | .stay =>
  match t.second.ahead c.second with
  | .spent => moveTo (c.startMinute (c.minute + 1))
  | .jump second => moveTo (c.startSecond second)
  | .stay => return .found c

/-- One round of tests of a search backward. -/
def backwardStep (t : Timetable) (c : WallClock) : Except CalendarError Progress := do
  if c.year < Field.year.low then return .exhausted
  match t.year.behind c.year with
  | .spent => return .exhausted
  | .jump year => moveTo (c.endYear year)
  | .stay =>
  match t.month.behind c.month with
  | .spent => moveTo (c.endYear (c.year - 1))
  | .jump month => moveTo (c.endMonth month)
  | .stay =>
  match ← t.dayBehind c with
  | .spent => moveTo (c.endMonth (c.month - 1))
  | .jump day => moveTo (c.endDay day)
  | .stay =>
  match t.hour.behind c.hour with
  | .spent => moveTo (c.endDay (c.day - 1))
  | .jump hour => moveTo (c.endHour hour)
  | .stay =>
  match t.minute.behind c.minute with
  | .spent => moveTo (c.endHour (c.hour - 1))
  | .jump minute => moveTo (c.endMinute minute)
  | .stay =>
  match t.second.behind c.second with
  | .spent => moveTo (c.endMinute (c.minute - 1))
  | .jump second => moveTo (c.endSecond second)
  | .stay => return .found c

/-! ## Searches -/

/-- The first instant after the years that a search covers. -/
def rangeEnd : WallClock :=
  ⟨Field.year.high + 1, 1, 1, 0, 0, 0⟩

/-- The last instant before the years that a search covers. -/
def rangeStart : WallClock :=
  ⟨Field.year.low - 1, 12, 31, 23, 59, 59⟩

/-- The first fire time at or after a clock.  The search goes on while the candidate moves later
within the range of years. -/
def earliestFrom (t : Timetable) (c : WallClock) : Except CalendarError (Option WallClock) :=
  match t.forwardStep c with
  | .error e => .error e
  | .ok .exhausted => .ok none
  | .ok (.found clock) => .ok (some clock)
  | .ok (.moved clock) =>
    if c.rank < clock.rank ∧ clock.rank < rangeEnd.rank then earliestFrom t clock else .ok none
termination_by (rangeEnd.rank - c.rank).toNat
decreasing_by omega

/-- The last fire time at or before a clock.  The search goes on while the candidate moves earlier
within the range of years. -/
def latestFrom (t : Timetable) (c : WallClock) : Except CalendarError (Option WallClock) :=
  match t.backwardStep c with
  | .error e => .error e
  | .ok .exhausted => .ok none
  | .ok (.found clock) => .ok (some clock)
  | .ok (.moved clock) =>
    if clock.rank < c.rank ∧ rangeStart.rank < clock.rank then latestFrom t clock else .ok none
termination_by (c.rank - rangeStart.rank).toNat
decreasing_by omega

/-- The first clock that a fire time after an instant can show. -/
def firstCandidate (start : Instant) : Except CalendarError WallClock :=
  if Field.year.low ≤ start.clock.year then start.clock.nextSecond else .ok start.clock

/-- The last clock that a fire time before an instant can show: the instant itself counts as
later than its own second if it has microseconds. -/
def lastCandidate (start : Instant) : Except CalendarError WallClock :=
  if start.micros ≠ 0 then .ok start.clock
  else if start.clock.year ≤ Field.year.high then start.clock.previousSecond
  else .ok start.clock

/-- The instant of a clock that a search has found, with the offset of its start; the clock has to
be a date and a time of day. -/
def instantAt (start : Instant) : Option WallClock → Except CalendarError (Option Instant)
  | none => .ok none
  | some clock => do return some (start.withClock (← clock.check))

/-- The first fire time after an instant, with the offset of the instant. -/
def next (t : Timetable) (start : Instant) : Except CalendarError (Option Instant) := do
  if Field.year.high < start.clock.year then return none
  let candidate ← firstCandidate start
  instantAt start (← t.earliestFrom candidate)

/-- The last fire time before an instant, with the offset of the instant. -/
def previous (t : Timetable) (start : Instant) : Except CalendarError (Option Instant) := do
  if start.clock.year < Field.year.low then return none
  let candidate ← lastCandidate start
  instantAt start (← t.latestFrom candidate)

end Timetable

end CronSchedule
