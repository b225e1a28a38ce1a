import CronSchedule.Calendar.Pattern
import CronSchedule.Log.Style
import CronSchedule.Text.RawText

/-!
# Settings

* `Setting` — the names of the settings.
* `Threshold` — the log levels that can be chosen by a setting.
* `Settings` — valid settings: there is a pattern, and at least one fire time is listed.
* `Draft`, `Draft.check` — settings that are still to be checked, and the check.
* `Fault` — what can be wrong with a draft.
-/

namespace CronSchedule

open Text

/-! ## Names -/

/-- A setting. -/
inductive Setting
  | datetimeFormat | strictDayPairing | logLevel | logFormat | defaultCount
  deriving DecidableEq, Repr

namespace Setting

def all : List Setting :=
  [.datetimeFormat, .strictDayPairing, .logLevel, .logFormat, .defaultCount]

def name : Setting → String
  | .datetimeFormat => "datetime_format"
  | .strictDayPairing => "strict_day_pairing"
  | .logLevel => "log_level"
  | .logFormat => "log_format"
  | .defaultCount => "default_count"

def ofName? (name : String) : Option Setting :=
  all.find? (·.name == name)

end Setting

/-- A log level that can be chosen by a setting. -/
inductive Threshold
  | debug | info | warning | error | critical
  deriving DecidableEq, Repr

namespace Threshold

def all : List Threshold :=
  [.debug, .info, .warning, .error, .critical]

def level : Threshold → Log.Level
  | .debug => Log.Level.debug
  | .info => Log.Level.info
  | .warning => Log.Level.warning
  | .error => Log.Level.error
  | .critical => Log.Level.critical

def name : Threshold → String
  | .debug => "DEBUG"
  | .info => "INFO"
  | .warning => "WARNING"
  | .error => "ERROR"
  | .critical => "CRITICAL"

def ofName? (name : String) : Option Threshold :=
  all.find? (·.name == upperString name)

end Threshold

/-! ## Valid settings -/

/-- Valid settings. -/
structure Settings where
  /-- The pattern by which fire times are written.  A broken one is only found out when one is. -/
  datetimeFormat : RawText
  /-- Whether exactly one of the day fields must be `?`. -/
  strictDayPairing : Bool
  logLevel : Threshold
  logFormat : Log.Style
  /-- The number of fire times that are listed unless another is asked for. -/
  defaultCount : Nat
  datetimeFormat_ne_empty : datetimeFormat ≠ .whole ""
  defaultCount_pos : 0 < defaultCount
  deriving DecidableEq, Repr

/-! ## Checking -/

/-- What is wrong with settings. -/
inductive Fault
  | logLevel | logFormat | defaultCount | datetimeFormat
  deriving DecidableEq, Repr

def Fault.message : Fault → String
  | .logLevel => s!"log_level must be one of {listed (Threshold.all.map (·.name))}"
  | .logFormat => s!"log_format must be one of {listed (Log.Style.all.map (·.name))}"
  | .defaultCount => "default_count must be greater than 0"
  | .datetimeFormat => "datetime_format must not be empty"

/-- Settings of the right kinds that are still to be checked. -/
structure Draft where
  datetimeFormat : RawText
  strictDayPairing : Bool
  logLevel : RawText
  logFormat : RawText
  defaultCount : Int
  deriving DecidableEq, Repr

namespace Draft

def initial : Draft where
  datetimeFormat := .whole Calendar.defaultPattern
  strictDayPairing := false
  logLevel := .whole "WARNING"
  logFormat := .whole "console"
  defaultCount := 5

/-- The log level of a draft, if it names one. -/
def threshold? (d : Draft) : Option Threshold :=
  d.logLevel.whole?.bind Threshold.ofName?

def style? (d : Draft) : Option Log.Style :=
  d.logFormat.whole?.bind Log.Style.ofName?

/-- What is wrong with a draft, in the order in which it is reported. -/
def faults (d : Draft) : List Fault :=
  (if d.threshold?.isNone then [.logLevel] else [])
    ++ (if d.style?.isNone then [.logFormat] else [])
    ++ (if d.defaultCount < 1 then [.defaultCount] else [])
    ++ (if d.datetimeFormat = .whole "" then [.datetimeFormat] else [])

/-- The settings of a draft, or everything that is wrong with it. -/
def check (d : Draft) : Except (List Fault) Settings :=
  match d.threshold?, d.style? with
  | some level, some style =>
    if h : d.datetimeFormat ≠ .whole "" ∧ 1 ≤ d.defaultCount then
      .ok {
        datetimeFormat := d.datetimeFormat
        strictDayPairing := d.strictDayPairing
        logLevel := level
        logFormat := style
        defaultCount := d.defaultCount.toNat
        datetimeFormat_ne_empty := h.1
        defaultCount_pos := by omega }
    else .error d.faults
  | _, _ => .error d.faults

end Draft

def Settings.initial : Settings where
  datetimeFormat := .whole Calendar.defaultPattern
  strictDayPairing := false
  logLevel := .warning
  logFormat := .console
  defaultCount := 5
  datetimeFormat_ne_empty := by decide
  defaultCount_pos := by decide

end CronSchedule
