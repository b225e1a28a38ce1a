import CronSchedule.CommandLine.Call
import CronSchedule.Proofs.Settings.LogLevel

/-!
# How a run begins

Once its arguments are read, a run loads its settings and passes on what is asked for.

* `Call.settings_ok`, `Call.settings_error` — the settings that are in force.
* `Call.run_ending`, `Call.run_of_settings_error` — how a run ends, with its settings and without.
-/

namespace CronSchedule.CommandLine

namespace Call

variable {platform : Platform} {call : Call} {options : Options} {asked : Except Exit Invocation}
  {c : Settings}

/-- The settings in force are those of the file and the environment, but for a log level that is
asked for and known. -/
lemma settings_ok
    (hload : Settings.load platform.read platform.depth options.config call.environment
      call.lookup = .ok c)
    (hlevel : ∀ text, options.logLevel = some text → (Threshold.ofName? text).isSome = true) :
    ∃ level, call.settings platform options = .ok { c with logLevel := level } := by
  rw [settings, hload, ok_bind]
  cases htext : options.logLevel with
  | none => exact ⟨c.logLevel, rfl⟩
  | some text =>
      obtain ⟨level, hname⟩ := Option.isSome_iff_exists.1 (hlevel text htext)
      exact ⟨level, c.merge_logLevel hname⟩

/-- A log level that is asked for but not known is an error of configuration. -/
lemma settings_error {text : String}
    (hload : Settings.load platform.read platform.depth options.config call.environment
      call.lookup = .ok c)
    (htext : options.logLevel = some text) (hlevel : Threshold.ofName? text = none) :
    ∃ e, call.settings platform options = .error e ∧ e.kindOf = .configuration := by
  rw [settings, hload, ok_bind, htext]
  exact c.merge_logLevel_unknown hlevel

variable (hread : platform.front.read call.lookup call.arguments = .ok (options, asked))
include hread

lemma run_eq : call.run platform = call.runCommand platform options asked := by
  rw [run, hread]

/-- A run with settings ends as its request does. -/
lemma run_ending {settings : Settings} {invocation : Invocation}
    (hsettings : call.settings platform options = .ok settings) (hasked : asked = .ok invocation) :
    (call.run platform).ending =
      (Request.answer platform.front ⟨invocation, settings, call.now⟩).value := by
  rw [run_eq hread, runCommand, hsettings, hasked]
  dsimp only
  rw [commandEnding]

/-- Without settings, every command ends with the exit code for the configuration. -/
lemma run_of_settings_error {e : SettingsError}
    (hsettings : call.settings platform options = .error e) (he : e.kindOf = .configuration) :
    (call.run platform).exitCode = 4 := by
  rw [run_eq hread, runCommand, hsettings]
  dsimp only
  rw [settingsEnding, he]
  rfl

end Call

end CronSchedule.CommandLine
