import CronSchedule.CommandLine.FrontEnd
import CronSchedule.CommandLine.Report
import CronSchedule.Settings.Documents
import CronSchedule.Text.Terminal

/-!
# The standard front end

Arguments are read by the usual rules for switches, and text is printed without its control
sequences, as it is where the output is no terminal.

* `Refusal.exit`, `helpExit` — the exits of the front end itself.
* `Command.bind` — the call of a command with arguments.
* `FrontEnd.standard`, `Platform.standard` — what programs usually rest on.
-/

namespace CronSchedule.CommandLine

open Text

/-! ## Exits -/

/-- The exit for arguments, of the program or of a command, that are not understood; the standard
error has `width` columns. -/
def Refusal.exit (e : Refusal) (width : Nat) (command : Option Command) : Exit :=
  ⟨2, "", printed (e.report width command)⟩

def helpExit (code : Nat) (command : Option Command) : Exit :=
  ⟨code, printed (helpPage command), ""⟩

/-! ## Commands -/

/-- How a switch is named where its value is refused. -/
def Switch.hint (s : Switch) : String :=
  String.intercalate " / " (s.spellings.map quotedString)

def Invocation.command : Invocation → Command
  | .validate _ => .validate
  | .format _ => .format
  | .next _ _ _ _ _ => .next
  | .last _ _ _ => .last
  | .check _ _ => .check
  | .explain _ => .explain

namespace Command

/-- What is wrong with the number of operands, if anything. -/
def operandRefusal? (command : Command) (given : List String) : Option Refusal :=
  let words := command.operands
  match words.drop given.length, given.drop words.length with
  | word :: _, _ => some (.missingOperand word)
  | [], [] => none
  | [], extra => some (.extraOperands extra)

/-- The number of fire times that is asked for, if any. -/
def readCount (a : Arguments) : Except Refusal (Option Int) :=
  match a.value? .count with
  | none => .ok none
  | some text =>
    match readInteger text.toList with
    | none =>
      .error (.badValue Switch.count.hint s!"{quotedString text} is not a valid integer.")
    | some n =>
      if n < 1 then .error (.badValue Switch.count.hint s!"{n} is not in the range x>=1.")
      else .ok (some n)

/-- The call of a command with arguments, of which there are as many as it takes. -/
def invocation (command : Command) (a : Arguments) (count : Option Int) : Invocation :=
  let expression := a.operands.getD 0 ""
  let pattern := (a.value? .pattern).map RawText.whole
  match command with
  | .validate => .validate expression
  | .format => .format expression
  | .next => .next expression (a.value? .start) count pattern (a.sets .json)
  | .last => .last expression (a.value? .start) pattern
  | .check => .check expression (a.operands.getD 1 "")
  | .explain => .explain expression

/-- The call of a command with arguments.  Help has precedence over what is wrong with operands and
values. -/
def bind (command : Command) (width : Nat) (a : Arguments) : Except Exit Invocation :=
  if a.sets .help then .error (helpExit 0 (some command))
  else
    match command.operandRefusal? a.operands, readCount a with
    | some e, _ | none, .error e => .error (e.exit width (some command))
    | none, .ok count => .ok (command.invocation a count)

end Command

/-! ## Reading -/

/-- What is wrong with the path of a file, if anything: there is something that may not be read. -/
def pathRefusal? (lookup : RawText → FileEntry) (path : Option String) : Option Refusal :=
  match path with
  | none => none
  | some path =>
    match lookup (normalPath path) with
    | .denied =>
      some (.badValue Switch.config.hint s!"Path {quotedString path} is not readable.")
    | _ => none

/-- The command that the first operand names, and what follows it. -/
def chooseCommand : List String → Except Refusal (Command × List String)
  | [] => .error .missingCommand
  | name :: rest =>
    match Command.ofName? name with
    | some command => .ok (command, rest)
    | none => .error (.unknownCommand name)

/-- What arguments ask for.  Help has precedence, and a path is looked up before the command. -/
def readArguments (width : Nat) (lookup : RawText → FileEntry) (arguments : List String) :
    Except Exit (Options × Except Exit Invocation) :=
  let refuse := fun (e : Refusal) => e.exit width none
  if arguments.isEmpty then .error (helpExit 2 none)
  else do
    let common ← (Arguments.read commonSwitches false arguments).mapError refuse
    if common.sets .help then .error (helpExit 0 none)
    else
      let config := common.value? .config
      match pathRefusal? lookup config with
      | some e => .error (refuse e)
      | none =>
        let (command, rest) ← (chooseCommand common.operands).mapError refuse
        let bound := ((Arguments.read command.switches true rest).mapError
          fun e => e.exit width (some command)) >>= command.bind width
        return (⟨config.map .whole, common.value? .logLevel⟩, bound)

/-! ## The front end -/

/-- The front end for a standard error with `width` columns. -/
def FrontEnd.standard (width : Nat) : FrontEnd where
  read := readArguments width
  refuse invocation hint message := (Refusal.badValue hint message).exit width invocation.command
  echo message := printed [message]
  draw table notes := printed (table.lines.map String.ofList ++ notes)

def Platform.standard (width : Nat) : Platform where
  read := .standard
  depth := messageDepth
  front := .standard width
  unlogged obstacle := s!"--- Logging error ---\n{obstacle.message}\n"

end CronSchedule.CommandLine
