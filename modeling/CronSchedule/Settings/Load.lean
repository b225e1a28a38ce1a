import CronSchedule.Settings.Given
import CronSchedule.Settings.Path

/-!
# Loading settings

Settings come from a file in YAML or JSON and from the environment; the environment has precedence.
How a text of either format is read is a parameter.

* `environmentEntries` — the entries of environment variables.
* `Format`, `Reader` — the formats, and what reads them.
* `FileEntry`, `readFileEntries` — what is found at a path, and the entries of a file.
* `chosenPath?` — the path of the file, from the caller or from the environment.
* `Settings.load` — the settings of a file and an environment.
-/

namespace CronSchedule

open Text

/-! ## The environment -/

/-- What the names of the variables begin with. -/
def variableStart : List Char :=
  "CRONEXPR_".toList

/-- The variable that names a file. -/
def pathVariable : String := "CRONEXPR_CONFIG"

/-- The setting that a variable is for; what follows the common start may be in either case. -/
def variableSetting? (name : String) : Option Setting :=
  if name = pathVariable then none
  else if variableStart.isPrefixOf name.toList then
    Setting.ofName? (String.ofList (lower (name.toList.drop variableStart.length)))
  else none

/-- The entries of environment variables; a later variable has precedence over an earlier one for
the same setting.  Names with surrogates are left out: they are for nothing. -/
def environmentEntries (environment : List (String × RawText)) : List (Datum × Datum) :=
  putAll [] (environment.filterMap fun (name, text) =>
    (variableSetting? name).map fun setting => (.text setting.name, text.datum))

/-! ## Formats -/

/-- A format of files. -/
inductive Format
  | yaml | json
  deriving DecidableEq, Repr

namespace Format

def ofSuffix? (suffix : RawText) : Option Format :=
  if suffix = ".yaml" ∨ suffix = ".yml" then some .yaml
  else if suffix = ".json" then some .json
  else none

/-- Whether the data of a document stands for an empty mapping. -/
def isNothing (format : Format) (d : Datum) : Bool :=
  format == .yaml && d.isEmptyLike

end Format

/-- Why a reader gives no data. -/
inductive ReadFailure
  /-- The text breaks the rules of the format, which is the reader's own error. -/
  | malformed
  /-- The reader fails with an error that is not its own. -/
  | foreign (kind : ErrorKind) (message : String)
  deriving DecidableEq, Repr

/-- Reads the one document of a text in a format. -/
abbrev Reader := Format → List Char → Except ReadFailure Datum

/-! ## Files -/

/-- What is found at a path. -/
inductive FileEntry
  | absent
  /-- It cannot be found out: a name is too long, or a directory on the way may not be entered. -/
  | inaccessible
  | directory
  /-- Something that may not be read. -/
  | denied
  | file (bytes : ByteArray)

/-- A text in which every end of a line is a line feed. -/
def normalLines : List Char → List Char
  | [] => []
  | '\r' :: '\n' :: rest => '\n' :: normalLines rest
  | '\r' :: rest => '\n' :: normalLines rest
  | c :: rest => c :: normalLines rest

/-- The entries of data: those of a mapping; `path` is named in the error. -/
def mappingEntries (path : RawText) : Datum → Except SettingsError (List (Datum × Datum))
  | .mapping entries => .ok entries
  | _ => .error (.notMapping path)

/-- The error of a document in a file at a path.  An error of the system counts as one of reading
the file. -/
def documentError (path : RawText) : ReadFailure → SettingsError
  | .malformed | .foreign .system _ => .fileUnreadable path
  | .foreign kind message => .readerFailed kind message

/-- The data of a text in the format of a suffix, which may stand for an empty mapping. -/
def readDocument (read : Reader) (path suffix : RawText) (text : List Char) :
    Except SettingsError Datum :=
  match Format.ofSuffix? suffix with
  | none => .error (.unsupportedFormat suffix)
  | some format => do
    let d ← (read format text).mapError (documentError path)
    return if format.isNothing d then .mapping [] else d

/-- The entries of what is found at a path. -/
def readFileEntries (read : Reader) (path : RawText) (found : FileEntry) :
    Except SettingsError (List (Datum × Datum)) :=
  match found with
  | .absent => .error (.fileNotFound path)
  | .inaccessible => .error (.pathRefused path)
  | .directory | .denied => .error (.fileUnreadable path)
  | .file bytes =>
    match String.fromUTF8? bytes with
    | none => .error .fileUndecodable
    | some text => do
      mappingEntries path (← readDocument read path (lowerSuffix path) (normalLines text.toList))

/-! ## Loading -/

/-- The path of the file, in its simplest form: the one that the caller gives, or else the one that
the environment names, if it is not empty. -/
def chosenPath? (path : Option RawText) (environment : List (String × RawText)) : Option RawText :=
  let named := (environment.lookup pathVariable).filter (· ≠ .whole "")
  (path.or named).map normalPath

def fileEntries (read : Reader) (path : Option RawText) (lookup : RawText → FileEntry) :
    Except SettingsError (List (Datum × Datum)) :=
  match path with
  | none => .ok []
  | some path => readFileEntries read path (lookup path)

namespace Settings

/-- The settings of the file at a path. -/
def ofFile (read : Reader) (depth : Nat) (path : RawText) (lookup : RawText → FileEntry) :
    Except SettingsError Settings := do
  ofEntries depth (← fileEntries read (some (normalPath path)) lookup)

/-- The settings of an environment alone. -/
def ofEnvironment (depth : Nat) (environment : List (String × RawText)) :
    Except SettingsError Settings :=
  ofEntries depth (environmentEntries environment)

/-- The settings of a file, if there is one, and of an environment, which has precedence. -/
def load (read : Reader) (depth : Nat) (path : Option RawText)
    (environment : List (String × RawText)) (lookup : RawText → FileEntry) :
    Except SettingsError Settings := do
  let entries ← fileEntries read (chosenPath? path environment) lookup
  ofEntries depth (putAll entries (environmentEntries environment))

end Settings

end CronSchedule
