import CronSchedule.Constraint
import CronSchedule.Text.Numeral

/-!
# Constraints as text

* `formatValues` — the canonical text of a set of values.
* `Constraint.format` — the canonical text of a constraint in its field.
* `Constraint.describe` — a constraint in words.
* `Constraint.display` — a constraint as the term that builds it.

In canonical text a wildcard is `*`.  A progression of three or more values with gaps that runs to
the end of its field is `start/step`.  Any other set is the list of its values, in which a run of
three or more consecutive values is written `first-last`.
-/

namespace CronSchedule

open Text

/-! ## Sets of values -/

/-- The maximal runs of consecutive values of an increasing list, each by its first and last
value. -/
def runsOf : List Int → List (Int × Int)
  | [] => []
  | value :: rest =>
    match runsOf rest with
    | [] => [(value, value)]
    | (first, last) :: more =>
      if first = value + 1 then (value, last) :: more
      else (value, value) :: (first, last) :: more

/-- The texts of a run: its ends if it has at least three values, else every value. -/
def runTexts (first last : Int) : List (List Char) :=
  if 2 ≤ last - first then [ofInt first ++ '-' :: ofInt last]
  else if first = last then [ofInt first]
  else [ofInt first, ofInt last]

/-- Whether neighbours in a list differ by `step`. -/
def hasStep (step : Int) : List Int → Bool
  | a :: b :: rest => b - a == step && hasStep step (b :: rest)
  | _ => true

/-- The start and the step of a progression of at least three values, with gaps, that has no
further member up to `high`. -/
def openProgression? (high : Int) (values : List Int) : Option (Int × Int) :=
  match values with
  | a :: b :: c :: rest =>
    let step := b - a
    if 1 < step && hasStep step values && high < (c :: rest).getLastD c + step then some (a, step)
    else none
  | _ => none

/-- The canonical text of a set of values that is no wildcard, in a field with the given greatest
value. -/
def formatValues (high : Int) (values : List Int) : List Char :=
  match openProgression? high values with
  | some (start, step) => ofInt start ++ '/' :: ofInt step
  | none => joinWith [','] ((runsOf values).flatMap fun (first, last) => runTexts first last)

/-! ## Constraints -/

namespace Constraint

def kind : Constraint → String
  | .values _ => "AnySet"
  | .unspecified => "NoSpecificValue"
  | .rule (.lastDay _) => "LastOfPeriod"
  | .rule .lastWorkday => "LastWeekdayOfPeriod"
  | .rule (.nearestWorkday _) => "NearestWeekdayTo"
  | .rule (.nthWeekday _ _) => "NthWeekdayOfMonth"
  | .rule (.lastWeekday _) => "LastWeekdayOccurrence"
  | .foreign kind => kind

/-- The parts from which a constraint is built, by name. -/
def parts : Constraint → List (String × String)
  | .values set =>
    let members := String.ofList (joinWith [',', ' '] (set.members.map ofInt))
    [("values", "frozenset(\x7b" ++ members ++ "\x7d)"),
     ("wildcard", if set.wildcard then "True" else "False")]
  | .rule (.lastDay before) => [("offset", toString before)]
  | .rule (.nearestWorkday day) => [("day", toString day)]
  | .rule (.nthWeekday weekday occurrence) =>
    [("weekday", toString weekday), ("occurrence", toString occurrence)]
  | .rule (.lastWeekday weekday) => [("weekday", toString weekday)]
  | _ => []

def display (constraint : Constraint) : String :=
  let arguments := constraint.parts.map fun (name, value) => s!"{name}={value}"
  s!"{constraint.kind}({listed arguments})"

/-- A constraint of an unknown kind, which has no canonical text. -/
structure FormatError where
  constraint : Constraint
  deriving DecidableEq

def FormatError.message (e : FormatError) : String :=
  s!"Cannot format constraint {e.constraint.display}"

def formatRule : DayRule → List Char
  | .lastDay before => if before = 0 then ['L'] else 'L' :: '-' :: ofInt before
  | .lastWorkday => ['L', 'W']
  | .nearestWorkday day => ofInt day ++ ['W']
  | .nthWeekday weekday occurrence => ofInt weekday ++ '#' :: ofInt occurrence
  | .lastWeekday weekday => ofInt weekday ++ ['L']

/-- The canonical text of a constraint in its field. -/
def format (field : Field) (constraint : Constraint) : Except FormatError (List Char) :=
  match constraint with
  | .values set => .ok (if set.wildcard then ['*'] else formatValues field.high set.members)
  | .unspecified => .ok ['?']
  | .rule r => .ok (formatRule r)
  | .foreign _ => .error ⟨constraint⟩

/-- A number that has no name: a weekday outside 1 to 7 or an occurrence outside 1 to 5. -/
structure Nameless where
  number : Int
  deriving DecidableEq, Repr

def weekdayWord (weekday : Int) : Except Nameless String :=
  match Field.weekdayName? weekday with
  | some name => .ok (String.ofList name)
  | none => .error ⟨weekday⟩

def ordinal : Int → Except Nameless String
  | 1 => .ok "first"
  | 2 => .ok "second"
  | 3 => .ok "third"
  | 4 => .ok "fourth"
  | 5 => .ok "fifth"
  | n => .error ⟨n⟩

def describeRule : DayRule → Except Nameless String
  | .lastDay before =>
    if before = 0 then .ok "last day of the month"
    else .ok s!"{before} day(s) before the last day of the month"
  | .lastWorkday => .ok "last weekday (Mon-Fri) of the month"
  | .nearestWorkday day => .ok s!"weekday nearest to day {day}"
  | .nthWeekday weekday occurrence => do
    let word ← weekdayWord weekday
    let place ← ordinal occurrence
    return s!"{place} {word} of the month"
  | .lastWeekday weekday => do
    let word ← weekdayWord weekday
    return s!"last {word} of the month"

def describe (constraint : Constraint) : Except Nameless String :=
  match constraint with
  | .values set =>
    if set.wildcard then .ok "every value"
    else
      let members := String.ofList (joinWith [',', ' '] (set.members.map ofInt))
      .ok (if set.members.length = 1 then s!"only {members}" else s!"one of {members}")
  | .unspecified => .ok "no specific value"
  | .rule r => describeRule r
  | .foreign _ => .ok constraint.display

end Constraint

end CronSchedule
