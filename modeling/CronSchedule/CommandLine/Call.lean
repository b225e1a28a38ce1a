import CronSchedule.CommandLine.Request
import CronSchedule.Log.Hub

/-!
# Runs of the program

A run has its arguments, an environment, files and a moment.  It ends with an exit code, text on the
standard output, and text on the standard error: log records first, then at most one complaint.

* `Call` — a run of the program in its surroundings.
* `settingsLog`, `logText` — what is logged.
* `Call.settings` — the settings that are in force.
* `Call.run` — how a run ends and what it logs.
* `Outcome.exitCode`, `Outcome.output`, `Outcome.complaints` — what a run leaves behind.
-/

namespace CronSchedule.CommandLine

open Calendar Text
open Log (Logged)

/-! ## Runs -/

/-- A run of the program: its arguments and its surroundings. -/
structure Call where
  arguments : List String
  environment : List (String × RawText)
  lookup : RawText → FileEntry
  now : Instant
  stamp : Log.Stamp

/-- How a run ended, and what was logged. -/
structure Outcome where
  log : String
  ending : Ending

/-- The hub that settings ask for. -/
def hubOf (settings : Settings) : Log.Hub :=
  Log.Hub.initial.install settings.logLevel.level settings.logFormat 0

def logText (settings : Settings) (stamp : Log.Stamp) (records : List Log.Record) : String :=
  Log.textOf 0 ((hubOf settings).emitAll stamp records)

/-- The logger of the program. -/
def programLogger : String := "cronexpr.cli"

variable (platform : Platform)

/-- What is logged about the settings that are in force. -/
def settingsLog (settings : Settings) (stamp : Log.Stamp) : String :=
  let mapping := settings.values.mapping
  match mapping.obstacle? platform.depth with
  | none =>
    let message := s!"Loaded configuration {mapping.display}"
    logText settings stamp [⟨.debug, programLogger, message, none⟩]
  | some obstacle =>
    if (hubOf settings).accepts programLogger .debug then platform.unlogged obstacle else ""

namespace Call

/-- The settings of a run: those of its file and environment, with the log level that its options
ask for. -/
def settings (call : Call) (options : Options) : Except SettingsError Settings := do
  let loaded ←
    Settings.load platform.read platform.depth options.config call.environment call.lookup
  match options.logLevel with
  | none => return loaded
  | some level => loaded.merge platform.depth [(.text Setting.logLevel.name, .text level)]

def settingsEnding (e : SettingsError) : Ending :=
  match e.kindOf with
  | .configuration => .replied (.complain .invalidSettings e.message)
  | _ => .failed (.settings e)

/-- The ending of what is asked for under settings. -/
def commandEnding (call : Call) (settings : Settings) : Except Exit Invocation → Logged Ending
  | .error e => pure (.exited e)
  | .ok invocation => Request.answer platform.front ⟨invocation, settings, call.now⟩

/-- Runs what is asked for, once the options have taken effect. -/
def runCommand (call : Call) (options : Options) (asked : Except Exit Invocation) : Outcome :=
  match call.settings platform options with
  | .error e => ⟨"", settingsEnding e⟩
  | .ok settings =>
    let ending := call.commandEnding platform settings asked
    let log := settingsLog platform settings call.stamp
    ⟨log ++ logText settings call.stamp ending.records, ending.value⟩

/-- Runs the program. -/
def run (call : Call) : Outcome :=
  match platform.front.read call.lookup call.arguments with
  | .error e => ⟨"", .exited e⟩
  | .ok (options, asked) => call.runCommand platform options asked

end Call

/-! ## What a run leaves behind -/

namespace Outcome

def exitCode (o : Outcome) : Nat :=
  match o.ending with
  | .replied reply => reply.status.code
  | .exited e => e.code
  | .failed _ => 1

variable (front : FrontEnd)

def output (o : Outcome) : String :=
  match o.ending with
  | .replied reply => front.written reply.lines
  | .exited e => e.output
  | .failed _ => ""

/-- The text on the standard error. -/
def complaints (o : Outcome) : String :=
  match o.ending with
  | .replied reply => o.log ++ front.written reply.complaintLines
  | .exited e => o.log ++ e.complaint
  | .failed _ => o.log

end Outcome

end CronSchedule.CommandLine
