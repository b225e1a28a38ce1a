import CronSchedule.Settings.Load
import CronSchedule.Text.Frame

/-!
# The front end

What reads the arguments of a run and prints is a parameter, as is what reads documents: the program
only declares its commands, and is told with which values they are called.

* `Options`, `Invocation` — what the arguments say: the common options, and a command with its
  values.
* `Exit` — an end of a run that is wholly up to the front end.
* `FrontEnd` — what reads arguments and prints.
* `Platform` — everything that a run rests on.
-/

namespace CronSchedule.CommandLine

open Text

/-! ## What is asked for -/

/-- The options that all commands have in common. -/
structure Options where
  config : Option RawText
  logLevel : Option String
  deriving DecidableEq, Repr

/-- A command with the values that it is called with. -/
inductive Invocation
  | validate (expression : String)
  | format (expression : String)
  | next (expression : String) (start : Option String) (count : Option Int)
      (pattern : Option RawText) (json : Bool)
  | last (expression : String) (start : Option String) (pattern : Option RawText)
  | check (expression time : String)
  | explain (expression : String)
  deriving DecidableEq, Repr

def Invocation.expression : Invocation → String
  | .validate expression | .format expression | .next expression _ _ _ _
  | .last expression _ _ | .check expression _ | .explain expression => expression

/-! ## Front ends -/

/-- An exit code with what is written to the standard output and to the standard error. -/
structure Exit where
  code : Nat
  output : String
  complaint : String
  deriving DecidableEq, Repr

/-- What reads the arguments of a run and prints. -/
structure FrontEnd where
  /-- Reads arguments: the common options, and the command that is called.  An error in the call of
  the command only ends the run after the options have taken effect.  The files matter because a
  path may be looked at right away. -/
  read : (RawText → FileEntry) → List String → Except Exit (Options × Except Exit Invocation)
  /-- The exit for a value that the command itself refuses; the texts say which value it is and what
  is wrong with it. -/
  refuse : Invocation → String → String → Exit
  /-- What is written for one message. -/
  echo : String → String
  /-- What is written for a table and the notes below it. -/
  draw : Table → List String → String

namespace FrontEnd

/-- What is written for messages, one after the other. -/
def written (front : FrontEnd) (messages : List String) : String :=
  String.join (messages.map front.echo)

end FrontEnd

/-- Everything that a run rests on. -/
structure Platform where
  /-- Reads documents. -/
  read : Reader
  /-- How deeply nested the data is that messages can show. -/
  depth : Nat
  front : FrontEnd
  /-- What is written to the standard error in place of a record that cannot be shown. -/
  unlogged : Obstacle → String

end CronSchedule.CommandLine
