import CronSchedule.Proofs.Settings.Failures

/-!
# Settings with another log level

* `Settings.withLogLevel` — the entries of settings with another log level.
* **`Settings.merge_logLevel`** — a log level that is known changes nothing else.
* **`Settings.merge_logLevel_unknown`** — any other is an error of configuration.
-/

namespace CronSchedule

open Text

namespace Settings

variable {text : String} {depth : Nat}

/-- The entries of settings with another log level. -/
def withLogLevel (s : Settings) (text : String) : List (Datum × Datum) :=
  putAll s.values.entries [(.text Setting.logLevel.name, .text text)]

lemma distinct_withLogLevel (s : Settings) (text : String) : DistinctKeys (s.withLogLevel text) :=
  (distinct_values s).putAll

lemma known_withLogLevel (s : Settings) (text : String) : KnownKeys (s.withLogLevel text) := by
  rw [withLogLevel, knownKeys_putAll]
  refine ⟨known_values s, List.forall_mem_singleton.2 ?_⟩
  exact Option.isSome_of_eq_some (settingOf?_name .logLevel)

lemma find?_withLogLevel (s : Settings) (text : String) (setting : Setting) :
    find? setting.name (s.withLogLevel text)
      = some (if setting = .logLevel then .text text else s.values.get setting) := by
  rw [withLogLevel, find?_putAll, find?_values, List.reverse_singleton, find?_cons, find?_nil]
  cases setting <;> rfl

/-- **Merging a log level that is known changes nothing but the log level.** -/
theorem merge_logLevel (s : Settings) {level : Threshold}
    (h : Threshold.ofName? text = some level) :
    s.merge depth [(.text Setting.logLevel.name, .text text)] =
      .ok { s with logLevel := level } := by
  have hlevel : Setting.logLevel.allow? (.text text) = some (.text level.name) := by
    rw [Setting.allow?, h]
    rfl
  refine (ofEntries_eq_ok_iff (s.distinct_withLogLevel text)).2
    ⟨s.known_withLogLevel text, fun setting => ?_⟩
  rw [find?_withLogLevel]
  cases setting with
  | logLevel => exact Setting.accept?_eq_some_iff.2 ⟨.text text, rfl, hlevel⟩
  | _ => exact Setting.accept?_values s _

/-- Every value can be converted: the level is a text, and the others come from settings. -/
lemma converts_withLogLevel (s : Settings) (text : String) {setting : Setting} {raw : Datum}
    (h : find? setting.name (s.withLogLevel text) = some raw) :
    ∃ value, setting.convert raw = .ok value := by
  rw [find?_withLogLevel, Option.some_inj] at h
  subst h
  split
  case isTrue hlevel =>
    subst hlevel
    exact ⟨.text text, rfl⟩
  case isFalse =>
    obtain ⟨value, hvalue, -⟩ :=
      Setting.accept?_eq_some_iff.1 (Setting.accept?_values s setting)
    exact ⟨value, hvalue⟩

/-- **A log level that is not known is an error of configuration.** -/
theorem merge_logLevel_unknown (s : Settings) (h : Threshold.ofName? text = none) :
    ∃ e, s.merge depth [(.text Setting.logLevel.name, .text text)] = .error e ∧
      e.kindOf = .configuration := by
  have hdistinct := s.distinct_withLogLevel text
  show ∃ e, Settings.ofEntries depth (s.withLogLevel text) = .error e ∧ _
  cases hmerge : Settings.ofEntries depth (s.withLogLevel text) with
  | ok s' =>
      have htaken := ((ofEntries_eq_ok_iff hdistinct).1 hmerge).2 .logLevel
      rw [find?_withLogLevel, if_pos rfl] at htaken
      obtain ⟨_, hconvert, hallow⟩ := Setting.accept?_eq_some_iff.1 htaken
      cases hconvert
      have hnone : Setting.logLevel.allow? (.text text) = none := by
        rw [Setting.allow?, h]
        rfl
      cases hnone.symm.trans hallow
  | error e =>
      refine ⟨e, rfl, ?_⟩
      obtain hkeys | ⟨-, ⟨setting, raw, hfirst, _, hraw, -⟩ | ⟨faults, rfl⟩⟩ :=
        ofEntries_eq_error hmerge
      · rw [checkKeys_eq_ok_iff.2 (s.known_withLogLevel text)] at hkeys
        cases hkeys
      · obtain ⟨before, after, heq, -⟩ := hfirst
        have hmem : (.text setting.name, raw) ∈ s.withLogLevel text := by
          rw [heq]
          exact List.mem_append_right _ List.mem_cons_self
        obtain ⟨value, hvalue⟩ := s.converts_withLogLevel text (hdistinct.find?_of_mem hmem)
        rw [hvalue] at hraw
        cases hraw
      · rfl

end Settings

end CronSchedule
