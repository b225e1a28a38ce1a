import CronSchedule.CommandLine.Arguments
import CronSchedule.Text.Frame
import CronSchedule.Text.Quoted

/-!
# Help and refusals

* `usageLine` — how the program or a command is called.
* `helpPage` — what the program or a command does.
* `Refusal.message`, `Refusal.report` — what is said about arguments that are not understood.
-/

namespace CronSchedule.CommandLine

open Text

def programName : String := "cronexpr"

/-! ## Help -/

def usageLine : Option Command → String
  | none => s!"Usage: {programName} [OPTIONS] COMMAND [ARGS]..."
  | some c =>
    let operands := String.intercalate " " c.operands
    s!"Usage: {programName} {c.name} [OPTIONS] {operands}"

def helpLine (word summary : String) : String :=
  let word := String.ofList (padRight 24 ' ' word.toList)
  s!"  {word}{summary}"

def switchLine (s : Switch) : String :=
  helpLine (listed s.spellings ++ ((s.valueWord?.map (" " ++ ·)).getD "")) s.summary

/-- What the program or a command does, line by line. -/
def helpPage : Option Command → List String
  | none =>
    [usageLine none, "", "Validate cron expressions and compute their fire times.", "", "Options:"]
      ++ commonSwitches.map switchLine
      ++ ["", "Commands:"] ++ Command.all.map fun c => helpLine c.name c.summary
  | some c =>
    [usageLine (some c), "", c.summary, "", "Options:"] ++ c.switches.map switchLine

/-! ## Refusals -/

namespace Refusal

def message : Refusal → String
  | .unknownSwitch spelling => s!"No such option: {spelling}"
  | .missingValue spelling => s!"Option {quotedString spelling} requires an argument."
  | .unwantedValue spelling => s!"Option {quotedString spelling} does not take a value."
  | .missingCommand => "Missing command."
  | .unknownCommand name => s!"No such command {quotedString name}."
  | .missingOperand word => s!"Missing argument {quotedString word}."
  | .extraOperands operands =>
    let spaced := String.intercalate " " operands
    let noun := if operands.length = 1 then "argument" else "arguments"
    s!"Got unexpected extra {noun} ({spaced})"
  | .badValue hint message => s!"Invalid value for {hint}: {message}"

/-- Whether the call is explained above the wording; it is not where just the value of a switch is
missing or not wanted. -/
def explainsUsage : Refusal → Bool
  | .missingValue _ | .unwantedValue _ => false
  | _ => true

def preamble (e : Refusal) (command : Option Command) : List String :=
  if e.explainsUsage then
    let call := String.intercalate " " (programName :: (command.map (·.name)).toList)
    [usageLine command, "Try " ++ quotedString (call ++ " --help") ++ " for help."]
  else []

/-- What is said about arguments, of the program or of a command, that are not understood. -/
def report (e : Refusal) (width : Nat) (command : Option Command) : List String :=
  e.preamble command ++ (panel width "Error".toList e.message.toList).map String.ofList

end Refusal

end CronSchedule.CommandLine
