import CronSchedule.Calendar.Iso
import CronSchedule.Calendar.Pattern
import CronSchedule.CommandLine.Reply
import CronSchedule.Schedule.Run

/-!
# Answering requests

A request is a command that is called under settings and at a moment.  The expression is compiled
before any instant is read.

* `Request` — what is asked of a command.
* `readInstant`, `startOf`, `patternOf`, `countOf` — what the values of a call say.
* `writeTime` — a fire time by a pattern.
* `Request.answer` — the ending of each command.
-/

namespace CronSchedule.CommandLine

open Calendar Text
open Log (Logged)

/-! ## Values -/

/-- The pattern by which fire times are written: the one that is asked for, unless it is empty, or
else that of the settings. -/
def patternOf (settings : Settings) (pattern : Option RawText) : RawText :=
  (pattern.filter (· ≠ .whole "")).getD settings.datetimeFormat

/-- The number of fire times that are listed: the one that is asked for, unless it is zero, or else
that of the settings. -/
def countOf (settings : Settings) (count : Option Int) : Nat :=
  ((count.filter (· ≠ 0)).map Int.toNat).getD settings.defaultCount

/-- A fire time by a pattern. -/
def writeTime (pattern : RawText) (t : Instant) : Except Accident String :=
  match pattern with
  | .whole s => .ok (t.formatString s)
  | .broken _ => .error .brokenPattern

/-! ## Requests -/

/-- What is asked of a command. -/
structure Request where
  invocation : Invocation
  settings : Settings
  now : Instant

namespace Request

variable (front : FrontEnd)

/-- The instant that a text gives; `word` is what the text stands for. -/
def readInstant (q : Request) (word text : String) : Except Ending Instant :=
  match Instant.ofIso? text.toList with
  | some t => .ok t
  | none =>
    let message := s!"expected an ISO 8601 date/time, got {quotedString text}"
    .error (.exited (front.refuse q.invocation word message))

/-- The instant from which fire times are looked for. -/
def startOf (q : Request) (start : Option String) : Except Ending Instant :=
  match start with
  | some text => q.readInstant front "--from" text
  | none => .ok q.now

def schedule (q : Request) : Logged (Except Ending Schedule) := do
  match ← Schedule.parseLogged q.settings.strictDayPairing q.invocation.expression.toList with
  | .ok s => return .ok s
  | .error (.malformed e) => return .error (.replied (.complain .malformed e.describe))
  | .error (.overlong o) => return .error (.failed (.overlong o))

def validate : Ending :=
  .replied (.give ["valid"])

def format (s : Schedule) : Ending :=
  .ofExcept .format (fun text => .replied (.give [String.ofList text])) s.canonical

/-- Fire times as lines, or as one line with a JSON list. -/
def timeLines (json : Bool) (lines : List String) : List String :=
  if json then [Json.writeString (.list (lines.map .text))] else lines

/-- The ending with fire times by a pattern. -/
def listTimes (pattern : RawText) (json : Bool) (times : List Instant) : Ending :=
  .ofExcept id (fun lines => .replied
      (if times.isEmpty then
        ⟨.exhausted, timeLines json lines, some "schedule has no upcoming fire times"⟩
      else .give (timeLines json lines)))
    (times.mapM (writeTime pattern))

def next (q : Request) (s : Schedule) (start : Option String) (count : Option Int)
    (pattern : Option RawText) (json : Bool) : Logged Ending :=
  match q.startOf front start with
  | .error ending => pure ending
  | .ok start => do
    return .ofExcept .calendar (listTimes (patternOf q.settings pattern) json)
      (← s.fireTimesLogged (countOf q.settings count) start)

/-- The ending of a search for an earlier fire time. -/
def lastTime (pattern : RawText) (result : SearchResult) : Ending :=
  match result.instant with
  | some t => .ofExcept id (fun line => .replied (.give [line])) (writeTime pattern t)
  | none => .replied (.complain .exhausted "schedule has no earlier fire time")

def last (q : Request) (s : Schedule) (start : Option String) (pattern : Option RawText) :
    Logged Ending :=
  match q.startOf front start with
  | .error ending => pure ending
  | .ok start => do
    return .ofExcept .calendar (lastTime (patternOf q.settings pattern))
      (← s.searchLogged start .previous)

/-- The reply to whether an instant is a fire time. -/
def verdict (accepted : Bool) : Reply :=
  if accepted then .give ["yes"] else ⟨.notSatisfied, ["no"], none⟩

/-- Whether an instant is a fire time of a schedule. -/
def check (q : Request) (s : Schedule) (time : String) : Ending :=
  match q.readInstant front "WHEN" time with
  | .error ending => ending
  | .ok t => .ofExcept .calendar (.replied <| verdict ·) (s.accepts t)

/-- The cells for a field: its name, its canonical text, and what it means. -/
def explainField (t : Timetable) (field : Field) : Except Accident (List (List Char)) := do
  let text ← ((t.constraint field).format field).mapError .format
  let meaning ← (t.constraint field).describe.mapError .nameless
  return [field.label.toList, text, meaning.toList]

def explainTable (s : Schedule) : Except Accident Table := do
  let canonical ← s.canonical.mapError .format
  let rows ← Field.all.mapM (explainField s.timetable)
  return ⟨"Cron Expression: ".toList ++ canonical,
    ["Field".toList, "Compiled".toList, "Meaning".toList], rows⟩

/-- What is said of a schedule that restricts both day fields. -/
def eitherDayNote (s : Schedule) : List String :=
  if s.timetable.eitherDayMatches then
    ["Both day fields are restricted: a day matching either one fires."]
  else []

def explain (s : Schedule) : Ending :=
  .ofExcept id (fun table => .exited ⟨0, front.draw table (eitherDayNote s), ""⟩) (explainTable s)

/-- The ending of a request about a schedule. -/
def answerAbout (q : Request) (s : Schedule) : Logged Ending :=
  match q.invocation with
  | .validate _ => pure validate
  | .format _ => pure (format s)
  | .next _ start count pattern json => q.next front s start count pattern json
  | .last _ start pattern => q.last front s start pattern
  | .check _ time => pure (q.check front s time)
  | .explain _ => pure (explain front s)

/-- The ending of a request. -/
def answer (q : Request) : Logged Ending := do
  match ← q.schedule with
  | .error ending => return ending
  | .ok s => q.answerAbout front s

end Request

end CronSchedule.CommandLine
