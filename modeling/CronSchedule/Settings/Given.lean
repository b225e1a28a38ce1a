import CronSchedule.Settings.Entries

/-!
# Settings given without conversion

A caller may give a value for each setting by name.  Such values are checked as they are: only the
log level is put into upper case, and any value passes that the check does not refuse.

* `GivenError` — why values are refused.
* `SettingValues.check` — the check.
* `SettingValues.ofArguments` — the values of named arguments, checked.
-/

namespace CronSchedule

open Text

/-- Why given values are refused. -/
inductive GivenError
  /-- There is no setting of this name. -/
  | unknownArgument (name : String)
  /-- The log level is neither a text nor a byte string, so it has no upper case. -/
  | levelNotText
  /-- The number of fire times is nothing that can be compared with a number. -/
  | countNotNumber (kind : String)
  /-- The values are not allowed. -/
  | invalid (faults : List Fault)
  deriving DecidableEq, Repr

def GivenError.message : GivenError → String
  | .unknownArgument name =>
    "CronConfig.__init__() got an unexpected keyword argument " ++ s!"'{name}'"
  | .levelNotText => "the log level has no upper case"
  | .countNotNumber kind => "'<' not supported between instances of " ++ s!"'{kind}' and 'int'"
  | .invalid faults => (SettingsError.invalid faults).message

/-- Whether a number is below one; the number that is none is not. -/
def belowOne? : Datum → Option Bool
  | .bool b => some (!b)
  | .integer n => some (decide (n < 1))
  | .real .nan => some false
  | .real (.infinite negative) => some negative
  | .real (.finite negative mantissa exponent) =>
    let (numerator, denominator) := Binary64.ratio mantissa exponent
    some (negative || decide (numerator < denominator))
  | _ => none

namespace SettingValues

def wholeText? (d : Datum) : Option String :=
  d.text?.bind (·.whole?)

/-- Whether data has an upper case. -/
def hasUpperCase : Datum → Bool
  | .text _ | .other (.broken _) | .other (.bytes _) => true
  | _ => false

def check (v : SettingValues) : Except GivenError SettingValues := do
  if !hasUpperCase v.logLevel then throw .levelNotText
  match belowOne? v.defaultCount with
  | none => throw (.countNotNumber v.defaultCount.qualifiedKind)
  | some tooSmall =>
    let level := (wholeText? v.logLevel).getD ""
    let style? := (wholeText? v.logFormat).bind Log.Style.ofName?
    let faults : List Fault :=
      (if (Threshold.ofName? level).isNone then [.logLevel] else [])
        ++ (if style?.isNone then [.logFormat] else [])
        ++ (if tooSmall then [.defaultCount] else [])
        ++ (if v.datetimeFormat.isEmptyLike then [.datetimeFormat] else [])
    if faults.isEmpty then return { v with logLevel := .text (upperString level) }
    else throw (.invalid faults)

/-- The values of named arguments on top of other values. -/
def setNamed (v : SettingValues) : List (String × Datum) → Except GivenError SettingValues
  | [] => .ok v
  | (name, value) :: rest =>
    match Setting.ofName? name with
    | some setting => (v.set setting value).setNamed rest
    | none => .error (.unknownArgument name)

/-- The values of named arguments, if they are allowed; what is not named has its initial value. -/
def ofArguments (arguments : List (String × Datum)) : Except GivenError SettingValues := do
  (← Settings.initial.values.setNamed arguments).check

end SettingValues

end CronSchedule
