/-!
# Commands and switches

* `Switch` — what an argument that starts with a dash can set.
* `Command` — the commands with their switches and operands.
-/

namespace CronSchedule.CommandLine

/-! ## Switches -/

/-- Something that an argument starting with a dash can set. -/
inductive Switch
  | config | logLevel | start | count | pattern | json | help
  deriving DecidableEq, Repr

namespace Switch

def spellings : Switch → List String
  | .config => ["--config", "-c"]
  | .logLevel => ["--log-level"]
  | .start => ["--from", "-f"]
  | .count => ["--count", "-n"]
  | .pattern => ["--format", "-F"]
  | .json => ["--json"]
  | .help => ["--help"]

/-- The word for the value that a switch takes, if it takes one. -/
def valueWord? : Switch → Option String
  | .config => some "PATH"
  | .logLevel | .start | .pattern => some "TEXT"
  | .count => some "INTEGER"
  | .json | .help => none

def takesValue (s : Switch) : Bool :=
  s.valueWord?.isSome

def summary : Switch → String
  | .config => "YAML or JSON configuration file"
  | .logLevel => "Log level (DEBUG, INFO, WARNING, ...)"
  | .start => "Start instant (ISO 8601, default: now)"
  | .count => "Number of fire times"
  | .pattern => "Pattern for output, such as %Y-%m-%d"
  | .json => "Print a JSON array"
  | .help => "Show this message and exit."

/-- Whether a switch is among others and may be spelled in a given way. -/
def find? (switches : List Switch) (spelling : String) : Option Switch :=
  switches.find? fun s => s.spellings.contains spelling

end Switch

/-! ## Commands -/

/-- A command. -/
inductive Command
  | validate | format | next | last | check | explain
  deriving DecidableEq, Repr

namespace Command

def all : List Command :=
  [.validate, .format, .next, .last, .check, .explain]

def name : Command → String
  | .validate => "validate"
  | .format => "format"
  | .next => "next"
  | .last => "last"
  | .check => "check"
  | .explain => "explain"

def ofName? (name : String) : Option Command :=
  all.find? (·.name == name)

def summary : Command → String
  | .validate => "Check that an expression is valid."
  | .format => "Print the canonical form of an expression."
  | .next => "List the next fire times of an expression."
  | .last => "Print the latest fire time before the reference instant."
  | .check => "Exit 0 if the instant is a fire time, 3 otherwise."
  | .explain => "Show how each field of an expression was compiled."

def switches : Command → List Switch
  | .next => [.start, .count, .pattern, .json, .help]
  | .last => [.start, .pattern, .help]
  | _ => [.help]

def operands : Command → List String
  | .check => ["EXPRESSION", "WHEN"]
  | _ => ["EXPRESSION"]

end Command

def commonSwitches : List Switch :=
  [.config, .logLevel, .help]

end CronSchedule.CommandLine
