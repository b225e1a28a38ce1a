import CronSchedule.CommandLine.Command
import CronSchedule.Text.Blank

/-!
# Reading arguments

An argument that starts with a dash names switches, unless it is a dash alone.  It is looked up as a
whole first; failing that, an argument with a single dash is a cluster of switches of one letter.  A
switch takes its value from the rest of its argument or else from the next argument, whatever that
looks like.  Two dashes end the switches.

* `Refusal` — why arguments are not understood.
* `Arguments` — the switches that are set, in order, and the operands.
* `Naming`, `readNaming` — what one argument sets.
* `Arguments.read` — the switches and operands of all arguments.
-/

namespace CronSchedule.CommandLine

open Text

/-! ## Refusals -/

/-- Why arguments are not understood. -/
inductive Refusal
  | unknownSwitch (spelling : String)
  | missingValue (spelling : String)
  | unwantedValue (spelling : String)
  | missingCommand
  | unknownCommand (name : String)
  | missingOperand (word : String)
  | extraOperands (operands : List String)
  /-- What is wrong with a value; `hint` says which one it is. -/
  | badValue (hint message : String)
  deriving DecidableEq, Repr

/-! ## Arguments -/

/-- The switches that are set, with their values (empty for those that take none), and the
operands. -/
structure Arguments where
  settings : List (Switch × String)
  operands : List String
  deriving DecidableEq, Repr

namespace Arguments

def afterSettings (settings : List (Switch × String)) (a : Arguments) : Arguments :=
  { a with settings := settings ++ a.settings }

def afterOperand (operand : String) (a : Arguments) : Arguments :=
  { a with operands := operand :: a.operands }

/-- The value of a switch: the last one that it is set to. -/
def value? (a : Arguments) (s : Switch) : Option String :=
  a.settings.reverse.lookup s

def sets (a : Arguments) (s : Switch) : Bool :=
  (a.value? s).isSome

end Arguments

/-! ## One argument -/

def namesSwitches (argument : String) : Bool :=
  argument.startsWith "-" && argument != "-"

/-- What an argument sets, and the switch, as it is spelled, that takes the next argument as its
value, if there is one. -/
structure Naming where
  settings : List (Switch × String)
  waiting : Option (Switch × String)
  deriving DecidableEq, Repr

def cutAtEquals (argument : List Char) : List Char × Option (List Char) :=
  match argument.dropWhile (· ≠ '=') with
  | [] => (argument, none)
  | _ :: value => (argument.takeWhile (· ≠ '='), some value)

/-- What a switch sets, whose spelling is the whole argument up to an equals sign. -/
def readWhole (s : Switch) (spelling : String) (value : Option (List Char)) :
    Except Refusal Naming :=
  match s.takesValue, value with
  | true, some value => .ok ⟨[(s, String.ofList value)], none⟩
  | true, none => .ok ⟨[], some (s, spelling)⟩
  | false, some _ => .error (.unwantedValue spelling)
  | false, none => .ok ⟨[(s, "")], none⟩

def readCluster (switches : List Switch) : List Char → Except Refusal Naming
  | [] => .ok ⟨[], none⟩
  | letter :: rest =>
    let spelling := String.ofList ['-', letter]
    match Switch.find? switches spelling with
    | none => .error (.unknownSwitch spelling)
    | some s =>
      if s.takesValue then
        if rest.isEmpty then .ok ⟨[], some (s, spelling)⟩
        else .ok ⟨[(s, String.ofList rest)], none⟩
      else do
        let after ← readCluster switches rest
        return { after with settings := (s, "") :: after.settings }

/-- What an argument that names switches sets.  A switch of one letter is never looked up as a
whole, so an equals sign after it belongs to its value. -/
def readNaming (switches : List Switch) (argument : String) : Except Refusal Naming :=
  let (name, value) := cutAtEquals argument.toList
  let spelling := String.ofList name
  match if name.length = 2 then none else Switch.find? switches spelling with
  | some s => readWhole s spelling value
  | none =>
    match argument.toList with
    | '-' :: '-' :: _ => .error (.unknownSwitch spelling)
    | _ :: letters => readCluster switches letters
    | [] => .error (.unknownSwitch spelling)

/-! ## All arguments -/

/-- The switches and operands of arguments.  If switches and operands are not `mixed`, all arguments
from the first operand on are operands. -/
def Arguments.read (switches : List Switch) (mixed : Bool) :
    List String → Except Refusal Arguments
  | [] => .ok ⟨[], []⟩
  | argument :: rest =>
    if argument = "--" then .ok ⟨[], rest⟩
    else if namesSwitches argument then
      match readNaming switches argument with
      | .error e => .error e
      | .ok ⟨settings, none⟩ =>
        (Arguments.read switches mixed rest).map (·.afterSettings settings)
      | .ok ⟨settings, some (s, spelling)⟩ =>
        match rest with
        | [] => .error (.missingValue spelling)
        | value :: rest =>
          (Arguments.read switches mixed rest).map (·.afterSettings (settings ++ [(s, value)]))
    else if mixed then (Arguments.read switches mixed rest).map (·.afterOperand argument)
    else .ok ⟨[], argument :: rest⟩

end CronSchedule.CommandLine
