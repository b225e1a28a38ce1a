import CronSchedule.CommandLine.FrontEnd
import CronSchedule.Schedule

/-!
# Replies and endings

* `Status` — the ways in which a command ends, with their exit codes.
* `Reply` — what a command answers.
* `Accident` — an error that nothing reports.
* `Ending` — how a run of the program ends.
-/

namespace CronSchedule.CommandLine

open Calendar Text

/-! ## Replies -/

/-- How a command ends. -/
inductive Status
  | done | malformed | exhausted | notSatisfied | invalidSettings
  deriving DecidableEq, Repr

def Status.code : Status → Nat
  | .done => 0
  | .malformed => 1
  | .exhausted => 2
  | .notSatisfied => 3
  | .invalidSettings => 4

/-- What a command answers: a status, lines, and what it complains about, if anything. -/
structure Reply where
  status : Status
  lines : List String
  complaint : Option String
  deriving DecidableEq, Repr

namespace Reply

def give (lines : List String) : Reply :=
  ⟨.done, lines, none⟩

def complain (status : Status) (message : String) : Reply :=
  ⟨status, [], some message⟩

def complaintLines (reply : Reply) : List String :=
  (reply.complaint.map ("Error: " ++ ·)).toList

end Reply

/-- An error that nothing reports. -/
inductive Accident
  | overlong (o : Overlong)
  | calendar (e : CalendarError)
  | format (e : Constraint.FormatError)
  | nameless (e : Constraint.Nameless)
  | settings (e : SettingsError)
  /-- A fire time is to be written by a pattern in which surrogates occur. -/
  | brokenPattern

def Accident.message : Accident → String
  | .overlong o => o.message
  | .calendar e => e.message
  | .format e => e.message
  | .nameless e => s!"no name for {e.number}"
  | .settings e => e.message
  | .brokenPattern => "surrogates not allowed"

/-- How a run ends: with a reply, as the front end decides, or with an error that nothing
reports. -/
inductive Ending
  | replied (reply : Reply)
  | exited (e : Exit)
  | failed (e : Accident)

/-- The ending for a result, or with its error. -/
def Ending.ofExcept (onError : ε → Accident) (onOk : α → Ending) : Except ε α → Ending
  | .ok a => onOk a
  | .error e => .failed (onError e)

end CronSchedule.CommandLine
