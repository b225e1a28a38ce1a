import CronSchedule.Cache.Recent
import CronSchedule.Schedule
import CronSchedule.Value

/-!
# The cache of schedules

Schedules are kept under the texts from which they were made, so that a text that is asked for
again is not compiled again.  Only a text that compiles is kept.

* `ScheduleCache` — the kept schedules, and how often a schedule was found and how often not.
* `ScheduleError` — why there is no schedule.
* `compileValue` — the schedule of a value, which should be a text.
* `ScheduleCache.request` — the schedule of a value through the cache, and the cache after it.
-/

namespace CronSchedule

/-! ## The schedule of a value -/

/-- The failure for a value that is no text. -/
def notTextFailure (value : Value) : Expression.Failure :=
  .malformed (.whole (.notText value.kind) [])

/-- The schedule of a value, which has to be a text, with what compiling it reports. -/
def compileValue (value : Value) : Log.Logged (Except Expression.Failure Schedule) :=
  match value with
  | .text s => Schedule.parseLogged false s.toList
  | _ => pure (.error (notTextFailure value))

@[simp] theorem value_compileValue_text (s : String) :
    (compileValue (.text s)).value = Schedule.parse false s.toList := by
  simp only [compileValue, Schedule.parseLogged]

/-- Why there is no schedule for a value. -/
inductive ScheduleError
  /-- The value does not compile. -/
  | failure (e : Expression.Failure)
  /-- The value is of a kind under which nothing can be kept. -/
  | notKey (kind : String)
  deriving DecidableEq, Repr

/-- The wording for a value that cannot be a key. -/
def notKeyMessage (kind : String) : String :=
  s!"unhashable type: {Text.quotedString kind}"

/-! ## The cache -/

/-- Schedules under their texts, with the number of requests that found one and the number of those
that did not. -/
structure ScheduleCache where
  kept : Recent String Schedule
  hits : Nat
  misses : Nat

namespace ScheduleCache

/-- The number of schedules that are kept. -/
def capacity : Nat := 256

def empty : ScheduleCache :=
  ⟨.empty, 0, 0⟩

def find? (cache : ScheduleCache) : Value → Option Schedule
  | .text s => cache.kept.find? s
  | _ => none

/-- The cache after a value was found in it. -/
def hit (cache : ScheduleCache) (value : Value) (schedule : Schedule) : ScheduleCache :=
  match value with
  | .text s => { cache with kept := cache.kept.touch capacity s schedule, hits := cache.hits + 1 }
  | _ => { cache with hits := cache.hits + 1 }

/-- The cache after a value that was not in it was compiled; a failure is only counted. -/
def miss (cache : ScheduleCache) (value : Value) (outcome : Except Expression.Failure Schedule) :
    ScheduleCache :=
  match value, outcome with
  | .text s, .ok schedule =>
    { cache with kept := cache.kept.touch capacity s schedule, misses := cache.misses + 1 }
  | _, _ => { cache with misses := cache.misses + 1 }

/-- The schedule of a value and the cache after the request.  A value that cannot be a key is
refused before anything is counted. -/
def request (cache : ScheduleCache) (value : Value) :
    Log.Logged (Except ScheduleError Schedule × ScheduleCache) := do
  if !value.isKey then return (.error (.notKey value.kind), cache)
  match cache.find? value with
  | some schedule => return (.ok schedule, cache.hit value schedule)
  | none =>
    let outcome ← compileValue value
    return (outcome.mapError .failure, cache.miss value outcome)

end ScheduleCache

end CronSchedule
