import CronSchedule.Datum
import CronSchedule.Settings.Basic

/-!
# Settings from entries

Entries name settings and give values for them.  A value is converted to the kind of its setting: a
truth value may be spelled as a word and a number as a text, but a text is never made from anything
else.  The error for a refused value shows it, which can fail as well; `depth` is how deeply nested
the data is that messages can show.

* `SettingsError` — why there are no settings; `SettingsError.kindOf` — the classes of errors.
* `readBool?`, `readCount` — the conversions; `Misfit` — why a value is not converted.
* `Settings.ofEntries` — the settings of entries.
* `SettingValues` — a value for every setting, as a caller may give them without conversion.
* `Settings.merge` — settings with entries in place of some of them.
-/

namespace CronSchedule

open Text

/-! ## Errors -/

/-- Why there are no settings. -/
inductive SettingsError
  /-- There are entries for no setting; their keys in order. -/
  | unknownKeys (keys : List RawText)
  /-- The first key of an entry for no setting is not even a text. -/
  | keyNotText (kind : String)
  /-- Keys of entries for no setting cannot be put in order. -/
  | keysNotComparable (first second : String)
  /-- A value is of the wrong kind for its setting, or spells nothing of the right kind. -/
  | refused (setting : Setting) (value : Datum)
  /-- A value is refused and cannot even be shown. -/
  | hidden (obstacle : Obstacle)
  /-- Making an integer of a value fails otherwise, as it does for an infinite number. -/
  | unconverted (kind : ErrorKind)
  /-- The values are of the right kinds but not allowed. -/
  | invalid (faults : List Fault)
  /-- There is no file at a path. -/
  | fileNotFound (path : RawText)
  /-- It cannot be found out what is at a path. -/
  | pathRefused (path : RawText)
  /-- A file cannot be read, or breaks the rules of its format. -/
  | fileUnreadable (path : RawText)
  /-- A file is not encoded in UTF-8. -/
  | fileUndecodable
  /-- A file is of a format that is not known. -/
  | unsupportedFormat (suffix : RawText)
  /-- A file does not hold a mapping. -/
  | notMapping (path : RawText)
  /-- The reader of a format fails with an error that is not its own. -/
  | readerFailed (kind : ErrorKind) (message : String)

def SettingsError.kindOf : SettingsError → ErrorKind
  | .keyNotText _ | .keysNotComparable _ _ => .wrongType
  | .hidden obstacle => obstacle.kind
  | .unconverted kind => kind
  | .fileUndecodable => .encoding
  | .pathRefused _ => .system
  | .readerFailed kind _ => kind
  | _ => .configuration

def listedFaults (faults : List Fault) : String :=
  String.intercalate "; " (faults.map (·.message))

/-- What a value of a setting must be. -/
def Setting.noun : Setting → String
  | .strictDayPairing => "a boolean"
  | .defaultCount => "an integer"
  | _ => "a string"

def Obstacle.message : Obstacle → String
  | .digits =>
    s!"Exceeds the limit ({maxDigits} digits) for integer string conversion; "
      ++ "use sys.set_int_max_str_digits() to increase the limit"
  | .depth => "maximum recursion depth exceeded while getting the repr of an object"
  | .object _ => "an object cannot be shown"

def SettingsError.message : SettingsError → String
  | .unknownKeys keys => s!"Unknown configuration keys: {listed (keys.map (·.plain))}"
  | .keyNotText kind => s!"sequence item 0: expected str instance, {kind} found"
  | .keysNotComparable first second =>
    "'<' not supported between instances of " ++ s!"'{first}' and '{second}'"
  | .refused setting value => s!"{setting.name} must be {setting.noun}, got {value.display}"
  | .hidden obstacle => obstacle.message
  | .unconverted .overflow => "cannot convert float infinity to integer"
  | .unconverted _ => "no integer can be made of an object"
  | .invalid faults => s!"Invalid configuration: {listedFaults faults}"
  | .fileNotFound path => s!"Configuration file not found: {path.plain}"
  | .pathRefused path => s!"{path.plain} cannot be looked up"
  | .fileUnreadable path => s!"Failed to load config {path.plain}"
  | .fileUndecodable => "invalid UTF-8"
  | .unsupportedFormat suffix => s!"Unsupported file format: {suffix.plain}"
  | .notMapping path => s!"Configuration file {path.plain} must contain a mapping"
  | .readerFailed _ message => message

/-! ## Conversions -/

def trueWords : List String := ["true", "yes", "1", "on"]

def falseWords : List String := ["false", "no", "0", "off"]

/-- The truth value of a word, in either case and with blanks around it. -/
def readBoolWord? (word : List Char) : Option Bool :=
  let word := String.ofList (lower (trim word))
  if trueWords.contains word then some true
  else if falseWords.contains word then some false
  else none

/-- The truth value that data is or spells. -/
def readBool? : Datum → Option Bool
  | .bool b => some b
  | .text s => readBoolWord? s.toList
  | _ => none

/-- Why a value is not converted to the kind of its setting. -/
inductive Misfit
  /-- It is of the wrong kind, or spells nothing of the right kind. -/
  | refused
  /-- Converting it fails with an error of another class. -/
  | failed (kind : ErrorKind)
  deriving DecidableEq, Repr

/-- An error that says that something is of the wrong type or has the wrong value is a refusal. -/
def Misfit.ofKind (kind : ErrorKind) : Misfit :=
  if kind.isMismatch then .refused else .failed kind

/-- The integer that data is, spells, or has as its integer part. -/
def readCount : Datum → Except Misfit Int
  | .integer n => .ok n
  | .text s => spelled (readInteger s.toList)
  | .real (.finite negative mantissa exponent) =>
    .ok (Binary64.truncate negative mantissa exponent)
  | .real (.infinite _) => .error (.failed .overflow)
  | .other (.bytes b) => spelled (Foreign.readBytes b)
  | .other (.object o) => o.integer.mapError .ofKind
  | _ => .error .refused
where
  spelled : Option Int → Except Misfit Int
    | some n => .ok n
    | none => .error .refused

def readText (d : Datum) : Except Misfit RawText :=
  match d.text? with
  | some text => .ok text
  | none => .error .refused

/-- A draft in which one setting has a new value. -/
def Draft.set (d : Draft) (setting : Setting) (value : Datum) : Except Misfit Draft :=
  match setting with
  | .datetimeFormat => do return { d with datetimeFormat := ← readText value }
  | .strictDayPairing =>
    match readBool? value with
    | some b => .ok { d with strictDayPairing := b }
    | none => .error .refused
  | .logLevel => do return { d with logLevel := ← readText value }
  | .logFormat => do return { d with logFormat := ← readText value }
  | .defaultCount => do return { d with defaultCount := ← readCount value }

/-- The error for a value of a setting that is not converted.  It shows a refused value. -/
def Misfit.error (depth : Nat) (setting : Setting) (value : Datum) : Misfit → SettingsError
  | .refused =>
    match value.obstacle? depth with
    | none => .refused setting value
    | some obstacle => .hidden obstacle
  | .failed kind => .unconverted kind

/-! ## Keys -/

def settingOf? : Datum → Option Setting
  | .text s => Setting.ofName? s
  | _ => none

/-- Whether two keys can be put in order. -/
def comparable (a b : Datum) : Bool :=
  (a.text?.isSome && b.text?.isSome) || (isNumber a && isNumber b) ||
    match a, b with
    | .date _, .date _ => true
    | .moment s, .moment t => s.offset.isSome == t.offset.isSome
    | .other (.bytes _), .other (.bytes _) => true
    | _, _ => false
where
  isNumber : Datum → Bool
    | .bool _ | .integer _ | .real _ => true
    | _ => false

/-- The first two neighbours that cannot be put in order. -/
def firstIncomparable? : List Datum → Option (Datum × Datum)
  | a :: b :: rest => if comparable a b then firstIncomparable? (b :: rest) else some (a, b)
  | _ => none

/-- The error for the keys of entries for no setting, of which there must be some. -/
def unknownKeysError (keys : List Datum) : SettingsError :=
  match firstIncomparable? keys, keys.mapM Data.text? with
  | some (a, b), _ => .keysNotComparable b.qualifiedKind a.qualifiedKind
  | none, some texts => .unknownKeys (texts.mergeSort RawText.notAfter)
  | none, none => .keyNotText ((keys.headD .null).qualifiedKind)

def checkKeys (entries : List (Datum × Datum)) : Except SettingsError Unit :=
  let unknown := (entries.map (·.1)).filter fun key => (settingOf? key).isNone
  if unknown.isEmpty then .ok () else .error (unknownKeysError unknown)

/-! ## Entries -/

/-- A draft with the values of entries, the first of which that cannot be converted decides the
error. -/
def Draft.setAll (depth : Nat) (d : Draft) : List (Datum × Datum) → Except SettingsError Draft
  | [] => .ok d
  | (key, value) :: rest => do
    match settingOf? key with
    | some setting =>
      let d ← (d.set setting value).mapError (·.error depth setting value)
      d.setAll depth rest
    | none => d.setAll depth rest

/-- The settings of entries; what no entry names keeps its initial value. -/
def Settings.ofEntries (depth : Nat) (entries : List (Datum × Datum)) :
    Except SettingsError Settings := do
  checkKeys entries
  let draft ← Draft.initial.setAll depth entries
  draft.check.mapError .invalid

/-! ## Values of settings -/

/-- A value for every setting. -/
structure SettingValues where
  datetimeFormat : Datum
  strictDayPairing : Datum
  logLevel : Datum
  logFormat : Datum
  defaultCount : Datum

def Settings.values (s : Settings) : SettingValues where
  datetimeFormat := s.datetimeFormat.datum
  strictDayPairing := .bool s.strictDayPairing
  logLevel := .text s.logLevel.name
  logFormat := .text s.logFormat.name
  defaultCount := .integer s.defaultCount

namespace SettingValues

def get (v : SettingValues) : Setting → Datum
  | .datetimeFormat => v.datetimeFormat
  | .strictDayPairing => v.strictDayPairing
  | .logLevel => v.logLevel
  | .logFormat => v.logFormat
  | .defaultCount => v.defaultCount

def set (v : SettingValues) (setting : Setting) (value : Datum) : SettingValues :=
  match setting with
  | .datetimeFormat => { v with datetimeFormat := value }
  | .strictDayPairing => { v with strictDayPairing := value }
  | .logLevel => { v with logLevel := value }
  | .logFormat => { v with logFormat := value }
  | .defaultCount => { v with defaultCount := value }

/-- The values as entries, in the order of the settings. -/
def entries (v : SettingValues) : List (Datum × Datum) :=
  Setting.all.map fun setting => (.text setting.name, v.get setting)

def mapping (v : SettingValues) : Datum :=
  .mapping v.entries

/-- The settings of values, with entries in place of some of them. -/
def merge (depth : Nat) (v : SettingValues) (overrides : List (Datum × Datum)) :
    Except SettingsError Settings :=
  Settings.ofEntries depth (putAll v.entries overrides)

end SettingValues

/-- Settings with entries in place of some of them. -/
def Settings.merge (depth : Nat) (s : Settings) (overrides : List (Datum × Datum)) :
    Except SettingsError Settings :=
  s.values.merge depth overrides

end CronSchedule
