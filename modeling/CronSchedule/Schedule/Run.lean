import CronSchedule.Schedule

/-!
# Runs of fire times

A run pulls fire times one after the other, each search starting from the result of the one before.
A run that finds nothing stays where it is, so every later pull finds nothing either.

* `Run` — where a run stands and how many fire times it may still give.
* `Run.pull` — the next fire time and the run after it.
* `Schedule.fireTimes` — the first fire times after an instant, at most a given number.
* `Schedule.nextTimes` — the same, refusing a number below one.
-/

namespace CronSchedule

open Calendar

/-- A run through the fire times of a schedule. `limit` bounds how many it gives. -/
structure Run where
  schedule : Schedule
  current : Instant
  direction : Direction
  limit : Option Int
  given : Nat
  deriving DecidableEq

namespace Run

def start (schedule : Schedule) (after : Instant) (direction : Direction) (limit : Option Int) :
    Run :=
  ⟨schedule, after, direction, limit, 0⟩

/-- Whether a run has given as many fire times as it may. -/
def atLimit (run : Run) : Bool :=
  match run.limit with
  | some limit => limit ≤ run.given
  | none => false

/-- The next fire time of a run, if any, and the run after it. -/
def pull (run : Run) : Except CalendarError (Option Instant × Run) := do
  if run.atLimit then return (none, run)
  match ← run.schedule.nearest run.current run.direction with
  | none => return (none, run)
  | some t => return (some t, { run with current := t, given := run.given + 1 })

/-- The next fire time of a run with what the search reports. -/
def pullLogged (run : Run) : Log.Logged (Except CalendarError (Option Instant × Run)) :=
  match run.pull with
  | .ok (none, after) =>
    let result : SearchResult := ⟨none, run.schedule.text, run.direction⟩
    ⟨.ok (none, after), if run.atLimit then [] else result.records run.current⟩
  | outcome => ⟨outcome, []⟩

/-- The first `count` pulls of a run. -/
def pulls : Nat → Run → Except CalendarError (List (Option Instant))
  | 0, _ => .ok []
  | count + 1, run => do
    let (t, after) ← run.pull
    return t :: (← pulls count after)

end Run

namespace Schedule

/-- The first `count` fire times from an instant in a direction; fewer if there are no more. -/
def fireTimes (s : Schedule) (direction : Direction) :
    Nat → Instant → Except CalendarError (List Instant)
  | 0, _ => .ok []
  | count + 1, start => do
    match ← s.nearest start direction with
    | none => return []
    | some t => return t :: (← s.fireTimes direction count t)

/-- What listing fire times reports: the search that found nothing, if there was one. -/
def fireTimesRecords (s : Schedule) (direction : Direction) (count : Nat) (start : Instant)
    (times : List Instant) : List Log.Record :=
  let last := times.getLast?.getD start
  if times.length < count then SearchResult.records last ⟨none, s.text, direction⟩ else []

/-- The first fire times after an instant with what listing them reports. -/
def fireTimesLogged (s : Schedule) (count : Nat) (start : Instant) :
    Log.Logged (Except CalendarError (List Instant)) :=
  match s.fireTimes .next count start with
  | .error e => ⟨.error e, []⟩
  | .ok times => ⟨.ok times, s.fireTimesRecords .next count start times⟩

/-- A number of fire times that is not positive; `name` is what the caller knows it by. -/
structure InvalidCount where
  name : String
  count : Int
  deriving DecidableEq, Repr

/-- The wording of an invalid number of fire times. -/
def InvalidCount.message (e : InvalidCount) : String :=
  s!"{e.name} must be greater than 0, got {e.count}"

/-- A number of fire times, if it is positive. -/
def checkCount (name : String) (count : Int) : Except InvalidCount Nat :=
  if count < 1 then .error ⟨name, count⟩ else .ok count.toNat

/-- Why the first fire times after an instant cannot be listed. -/
inductive ListingError
  | count (e : InvalidCount)
  | calendar (e : CalendarError)
  deriving DecidableEq, Repr

/-- The first fire times after an instant, for a positive number of them. -/
def nextTimes (s : Schedule) (count : Int) (start : Instant) :
    Except ListingError (List Instant) := do
  let count ← (checkCount "n" count).mapError .count
  (s.fireTimes .next count start).mapError .calendar

/-- The first fire times after an instant, for a positive number of them, with what listing them
reports. -/
def nextTimesLogged (s : Schedule) (count : Int) (start : Instant) :
    Log.Logged (Except ListingError (List Instant)) :=
  match s.nextTimes count start with
  | .error e => ⟨.error e, []⟩
  | .ok times => ⟨.ok times, s.fireTimesRecords .next count.toNat start times⟩

end Schedule

end CronSchedule
