import CronSchedule.Cache.Schedules
import CronSchedule.Calendar.Pattern
import CronSchedule.Schedule.Run

/-!
# Requests by expression text

A request names an expression and asks one question about its schedule.  All questions but that of
validity go through the cache of schedules.

* `Question` — what can be asked.
* `Answer`, `RequestError` — what a request can give.
* `Question.answer` — the answer for a schedule.
* `Request.answer` — the answer to a request and the cache after it.
* `Request.answerFresh` — the answer without a cache.
-/

namespace CronSchedule

open Calendar Log

/-! ## Questions and answers -/

/-- What can be asked about an expression.  Fire times as texts are written by a pattern. -/
inductive Question
  /-- The schedule itself. -/
  | schedule
  /-- Whether there is one. -/
  | isValid
  /-- Its canonical text. -/
  | canonical
  /-- The first fire time after an instant. -/
  | nextTime (after : Instant)
  | nextTimeText (after : Instant) (pattern : String)
  /-- The first fire times after an instant. -/
  | nextTimes (after : Instant) (count : Int)
  | nextTimeTexts (after : Instant) (count : Int) (pattern : String)
  /-- The last fire time before an instant. -/
  | lastTime (before : Instant)
  | lastTimeText (before : Instant) (pattern : String)
  /-- Whether an instant is a fire time. -/
  | accepts (instant : Instant)
  deriving DecidableEq, Repr

/-- What a request gives if nothing is wrong. -/
inductive Answer
  | schedule (s : Schedule)
  | verdict (b : Bool)
  | text (text : List Char)
  | instant (t : Option Instant)
  | instantText (text : Option String)
  | instants (times : List Instant)
  | instantTexts (texts : List String)
  deriving DecidableEq

/-- Why a request has no answer. -/
inductive RequestError
  | schedule (e : ScheduleError)
  | count (e : Schedule.InvalidCount)
  | calendar (e : CalendarError)
  | format (e : Constraint.FormatError)

/-- A question about an expression. -/
structure Request where
  expression : Value
  question : Question

/-! ## Answers for a schedule -/

def Schedule.nearestLogged (s : Schedule) (start : Instant) (direction : Direction) :
    Logged (Except RequestError (Option Instant)) := do
  match ← s.searchLogged start direction with
  | .error e => return .error (.calendar e)
  | .ok result => return .ok result.instant

/-- The record for a list of fire times that is shorter than it should be. -/
def shortfallRecord (expression : Value) (found count : Nat) : Record :=
  ⟨.debug, "cronexpr.api",
    s!"Schedule {expression.display} produced {found} of {count} requested fire times", none⟩

/-- The first fire times after an instant; it is reported when there are fewer than asked for. -/
def Schedule.timesLogged (s : Schedule) (expression : Value) (after : Instant) (count : Nat) :
    Logged (Except RequestError (List Instant)) := do
  match ← s.fireTimesLogged count after with
  | .error e => return .error (.calendar e)
  | .ok times =>
    if times.length < count then Logged.say [shortfallRecord expression times.length count]
    return .ok times

namespace Question

/-- The number of fire times that a question asks for. -/
def count? : Question → Option Int
  | .nextTimes _ count => some count
  | .nextTimeTexts _ count _ => some count
  | _ => none

/-- The question refused for its number of fire times, if it is. -/
def refusal? (question : Question) : Option Schedule.InvalidCount :=
  match question.count? with
  | some count =>
    match Schedule.checkCount "count" count with
    | .error e => some e
    | .ok _ => none
  | none => none

/-- The answer to a question about a schedule that was made from `expression`. -/
def answer (s : Schedule) (expression : Value) : Question → Logged (Except RequestError Answer)
  | .schedule => return .ok (.schedule s)
  | .isValid => return .ok (.verdict true)
  | .canonical => return (s.canonical.mapError .format).map .text
  | .nextTime after => return (← s.nearestLogged after .next).map .instant
  | .nextTimeText after pattern => do
    let found ← s.nearestLogged after .next
    return found.map fun t => .instantText (t.map (·.formatString pattern))
  | .nextTimes after count =>
    return (← s.timesLogged expression after count.toNat).map .instants
  | .nextTimeTexts after count pattern => do
    let found ← s.timesLogged expression after count.toNat
    return found.map fun times => .instantTexts (times.map (·.formatString pattern))
  | .lastTime before => return (← s.nearestLogged before .previous).map .instant
  | .lastTimeText before pattern => do
    let found ← s.nearestLogged before .previous
    return found.map fun t => .instantText (t.map (·.formatString pattern))
  | .accepts t => return (s.accepts t).mapError .calendar |>.map .verdict

end Question

/-! ## Answers to requests -/

/-- Whether a compilation says that the expression is valid.  A numeral that is too long to be read
leaves the question open. -/
def validity : Except Expression.Failure Schedule → Except RequestError Answer
  | .ok _ => .ok (.verdict true)
  | .error (.malformed _) => .ok (.verdict false)
  | .error e => .error (.schedule (.failure e))

namespace Request

/-- The answer that needs no schedule of the cache: whether the expression is valid, or the refusal
of a number of fire times. -/
def direct? (r : Request) : Option (Logged (Except RequestError Answer)) :=
  match r.question with
  | .isValid => some do return validity (← compileValue r.expression)
  | question => question.refusal?.map fun e => pure (.error (.count e))

/-- The answer to a request once it is known whether there is a schedule. -/
def answerWith (r : Request) (outcome : Except ScheduleError Schedule) :
    Logged (Except RequestError Answer) :=
  match outcome with
  | .error e => pure (.error (.schedule e))
  | .ok schedule => r.question.answer schedule r.expression

/-- The answer to a request and the cache after it. -/
def answer (r : Request) (cache : ScheduleCache) :
    Logged (Except RequestError Answer × ScheduleCache) := do
  match r.direct? with
  | some direct => return (← direct, cache)
  | none =>
    let (outcome, after) ← cache.request r.expression
    return (← r.answerWith outcome, after)

/-- The answer to a request for which the expression is compiled anew. -/
def answerFresh (r : Request) : Logged (Except RequestError Answer) := do
  match r.direct? with
  | some direct => direct
  | none =>
    if !r.expression.isKey then r.answerWith (.error (.notKey r.expression.kind))
    else r.answerWith ((← compileValue r.expression).mapError .failure)

end Request

/-- The answers to requests one after the other, each with the cache after it. -/
def answerAll (cache : ScheduleCache) :
    List Request → Logged (List (Except RequestError Answer × ScheduleCache))
  | [] => pure []
  | r :: rest => do
    let (outcome, after) ← r.answer cache
    return (outcome, after) :: (← answerAll after rest)

end CronSchedule
