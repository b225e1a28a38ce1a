import CronSchedule.Field
import CronSchedule.Text.Numeral
import CronSchedule.Text.Quoted

/-!
# What makes an expression malformed

* `Defect` — what can be wrong with the text of one field.
* `Problem` — what can be wrong with an expression: a defect of a field, or the expression as a
  whole.
* `Malformed` — a problem with the place where it was found.
* `Malformed.message` — its wording; `Malformed.describe` — the wording with a caret under the
  place.
* `Failure` — why an expression does not compile: it is malformed, or one of its numerals is too
  long to be read at all.
-/

namespace CronSchedule.Expression

open Text

/-! ## Causes -/

/-- What is wrong with the text of a field. -/
inductive Defect
  /-- A list with nothing between two commas, before the first or after the last. -/
  | emptyElement
  /-- A character that the field does not permit. -/
  | forbidden (c : Char)
  /-- The marker `?` beside something else. -/
  | unspecifiedCombined
  /-- Another marker in a list of several elements. -/
  | markerCombined (term : List Char)
  /-- More days before the last day than a month can have. -/
  | lastOffset (days : Nat)
  /-- An `L` or `W` in a term of the day of month that is no marker. -/
  | misplacedLetter (term : List Char)
  /-- An occurrence that no weekday can have in a month. -/
  | occurrence (number : Nat)
  /-- A `#` in a term that is no occurrence of a weekday. -/
  | misplacedNth (term : List Char)
  /-- A term with more than one step. -/
  | repeatedStep (term : List Char)
  /-- A step that is no numeral. -/
  | stepNotNumeral (text : List Char)
  /-- The step zero. -/
  | stepNotPositive (step : Nat)
  /-- A step with nothing before it. -/
  | missingStart (term : List Char)
  /-- A range without exactly two ends. -/
  | invalidRange (term : List Char)
  /-- A range that runs backwards. -/
  | reversedRange (first last : Int)
  /-- A text that is neither a numeral nor a name of the field. -/
  | unknownName (text : List Char)
  /-- A text that is no numeral, in a field without names. -/
  | invalidValue (text : List Char)
  /-- A number outside the range of the field. -/
  | outOfRange (value low high : Int)
  /-- Both day fields leave the day open. -/
  | bothDaysOpen
  /-- Neither day field leaves the day open. -/
  | noDayOpen
  deriving DecidableEq, Repr

/-- The greatest number of days before the last day of a month. -/
def maxLastOffset : Nat := 30

/-- The greatest number of times that a weekday occurs in a month. -/
def maxOccurrence : Nat := 5

def Defect.message : Defect → String
  | .emptyElement => "empty list element"
  | .forbidden c => s!"character {quoted [c]} is not allowed in this field"
  | .unspecifiedCombined => "'?' cannot be combined with other values"
  | .markerCombined term => s!"{quoted term} cannot be combined with other values"
  | .lastOffset days => s!"offset from last day must be 0-{maxLastOffset}, got {days}"
  | .misplacedLetter term => s!"invalid use of L/W in {quoted term}"
  | .occurrence number => s!"occurrence after '#' must be 1-{maxOccurrence}, got {number}"
  | .misplacedNth term => s!"invalid '#' expression {quoted term}"
  | .repeatedStep term => s!"invalid step {quoted term}"
  | .stepNotNumeral text => s!"step must be a positive integer, got {quoted text}"
  | .stepNotPositive step => s!"step must be a positive integer, got {step}"
  | .missingStart term => s!"missing start value in {quoted term}"
  | .invalidRange term => s!"invalid range {quoted term}"
  | .reversedRange first last =>
    s!"range start {first} is greater than end {last} (wrap-around ranges are not supported)"
  | .unknownName text => s!"unknown name {quoted text}"
  | .invalidValue text => s!"invalid value {quoted text}"
  | .outOfRange value low high => s!"value {value} out of range [{low}-{high}]"
  | .bothDaysOpen => "'?' may not be used for both day-of-month and day-of-week"
  | .noDayOpen => "one of day-of-month and day-of-week should be '?'"

/-- What is wrong with an expression. -/
inductive Problem
  /-- It is no text but something of another kind. -/
  | notText (kind : String)
  /-- It does not have six or seven words. -/
  | wordCount (count : Nat)
  /-- The text of a field has a defect at a position. -/
  | inField (field : Field) (text : List Char) (position : Int) (defect : Defect)
  /-- A problem stated in words. -/
  | stated (message : String)
  deriving DecidableEq, Repr

def Problem.message : Problem → String
  | .notText kind => s!"Expression must be a string, got {kind}"
  | .wordCount count =>
    s!"Invalid number of fields: {count}. Expected 6 or 7 fields "
      ++ "(second minute hour day-of-month month day-of-week [year])."
  | .inField field text position defect =>
    s!"Invalid {field.label} field {quoted text} (position {position}): {defect.message}"
  | .stated message => message

/-! ## Errors -/

/-- A problem, the expression in which it was found, the position of the character that shows it
(-1 if there is none) and its field. -/
structure Malformed where
  problem : Problem
  expression : List Char
  position : Int
  field : Option Field
  deriving DecidableEq, Repr

namespace Malformed

def whole (problem : Problem) (expression : List Char) : Malformed :=
  ⟨problem, expression, -1, none⟩

def message (e : Malformed) : String :=
  e.problem.message

/-- The wording with the expression below it and a caret under the position, if there is one. -/
def describe (e : Malformed) : String :=
  if e.expression.isEmpty || e.position < 0 then e.message
  else
    let margin := String.ofList (List.replicate e.position.toNat ' ')
    s!"{e.message}\n  {String.ofList e.expression}\n  {margin}^"

end Malformed

/-- Why an expression does not compile. -/
inductive Failure
  | malformed (e : Malformed)
  | overlong (o : Overlong)
  deriving DecidableEq, Repr

end CronSchedule.Expression
