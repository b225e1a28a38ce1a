import CronSchedule.Expression.Term
import CronSchedule.Log.Record
import CronSchedule.Timetable

/-!
# Compiling expressions

* `Tokens.compile` — the fields one by one; a year that is left out is a literal `*`.
* `Timetable.pairingDefect?` — the convention that exactly one day field is `?`.
* `compile` — an expression; in strict mode the convention is enforced.
* `compileRecords` — what compiling an expression reports.
-/

namespace CronSchedule

open Text

/-- What is wrong with a timetable if exactly one of the day fields ought to be `?`. -/
def Timetable.pairingDefect? (t : Timetable) : Option Expression.Defect :=
  match t.dayOfMonth, t.dayOfWeek with
  | .unspecified, .unspecified => some .bothDaysOpen
  | .unspecified, _ => none
  | _, .unspecified => none
  | _, _ => some .noDayOpen

namespace Expression

/-- The timetable of the tokens; the first field that does not compile decides the failure. -/
def Tokens.compile (t : Tokens) : Except Failure Timetable := do
  let second ← t.second.compileValues
  let minute ← t.minute.compileValues
  let hour ← t.hour.compileValues
  let dayOfMonth ← t.dayOfMonth.compileDay
  let month ← t.month.compileValues
  let dayOfWeek ← t.dayOfWeek.compileDay
  let year ← match t.year with
    | some token => token.compileValues
    | none => pure (.full .year true)
  return ⟨second, minute, hour, dayOfMonth, month, dayOfWeek, year⟩

/-- The timetable of an expression.  In strict mode exactly one of the day fields must be `?`; the
error otherwise points at the day of week. -/
def compile (strict : Bool) (expression : List Char) : Except Failure Timetable := do
  let tokens ← (tokenize expression).mapError .malformed
  let timetable ← tokens.compile
  match strict, timetable.pairingDefect? with
  | true, some defect => tokens.dayOfWeek.fail defect 0
  | _, _ => return timetable

/-! ## Records -/

def loggerName : String := "cronexpr.compiler"

/-- The record for a defect of the pairing of the day fields that is let pass. -/
def pairingRecord (expression : List Char) (defect : Defect) : Log.Record :=
  match defect with
  | .bothDaysOpen =>
    ⟨.warning, loggerName, s!"{defect.message} in {quoted expression}; every day will match", none⟩
  | _ => ⟨.debug, loggerName, s!"{defect.message} in {quoted expression}", none⟩

/-- What compiling an expression reports: nothing if it fails, else a defect of the pairing that was
let pass, and the success. -/
def compileRecords (strict : Bool) (expression : List Char) : List Log.Record :=
  match compile strict expression with
  | .error _ => []
  | .ok timetable =>
    (timetable.pairingDefect?.map (pairingRecord expression)).toList
      ++ [⟨.debug, loggerName, s!"Compiled cron expression {quoted expression}", none⟩]

def compileLogged (strict : Bool) (expression : List Char) :
    Log.Logged (Except Failure Timetable) :=
  ⟨compile strict expression, compileRecords strict expression⟩

end Expression

end CronSchedule
