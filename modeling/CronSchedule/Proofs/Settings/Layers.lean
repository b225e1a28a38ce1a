import CronSchedule.Proofs.Settings.Entries
import CronSchedule.Proofs.Settings.StandardReader

/-!
# Settings in layers

Settings are loaded from a file and an environment, of which the environment has precedence.  The
values are put in layers as they are given, while entries that are merged into settings come on top
of values that have been converted and checked.  Both give the same because an accepted value is
accepted again as it is, and no setting depends on the value of another one.

* `variableSetting?_eq_some_iff` — the variables for a setting.
* `lastVariable?`, `given` — what an environment, and what both layers give for a setting.
* `load_eq_ok_iff`, `exists_load_iff` — the settings that are loaded.
* `load_of_overridden` — values in a file that the environment overrides do not matter.
* `load_eq_merge` — loading is merging the environment into the settings of the file.
* `merge_nil`, `merge_merge` — merging nothing, and merging twice.
* **`layered_settings`** — all of this together.
-/

namespace CronSchedule

open Text

variable {setting : Setting} {name : String} {environment : List (String × RawText)}
  {s s' : Settings} {depth : Nat} {entries a b : List (Datum × Datum)}

/-! ## Variables -/

/-- A variable is for a setting if what follows the common start is the name of the setting in
either case. -/
def isVariableOf (setting : Setting) (name : String) : Bool :=
  variableStart.isPrefixOf name.toList &&
    String.ofList (lower (name.toList.drop variableStart.length)) == setting.name

lemma variableSetting?_eq_some_iff :
    variableSetting? name = some setting ↔ isVariableOf setting name := by
  rw [variableSetting?, isVariableOf]
  split
  case isTrue hpath =>
    -- the variable for the path is for no setting
    subst hpath
    cases setting <;> decide
  case isFalse => split <;> simp [*, ofName?_eq_some_iff]

/-- The text of the last variable for a setting. -/
def lastVariable? (setting : Setting) (environment : List (String × RawText)) : Option RawText :=
  (environment.reverse.find? fun entry => isVariableOf setting entry.1).map (·.2)

/-- What is given for a setting: by the environment, or else by the entries of a file. -/
def given (entries : List (Datum × Datum)) (environment : List (String × RawText))
    (setting : Setting) : Option Datum :=
  ((lastVariable? setting environment).map RawText.datum).or (find? setting.name entries)

/-- The entry of a variable, if it is for a setting. -/
def entryOfVariable? (entry : String × RawText) : Option (Datum × Datum) :=
  (variableSetting? entry.1).map fun setting => (.text setting.name, entry.2.datum)

lemma environmentEntries_eq (environment : List (String × RawText)) :
    environmentEntries environment = putAll [] (environment.filterMap entryOfVariable?) := rfl

lemma distinct_environment (environment : List (String × RawText)) :
    DistinctKeys (environmentEntries environment) :=
  DistinctKeys.putAll List.Pairwise.nil

lemma knownKeys_putAll : KnownKeys (putAll a b) ↔ KnownKeys a ∧ KnownKeys b :=
  forall_keys_putAll (p := fun key => (settingOf? key).isSome) fun h => by rw [settingOf?_congr h]

/-- Variables are only taken into account if they are for settings. -/
lemma known_environment (environment : List (String × RawText)) :
    KnownKeys (environmentEntries environment) := by
  rw [environmentEntries_eq, knownKeys_putAll]
  refine ⟨knownKeys_nil, fun entry hentry => ?_⟩
  obtain ⟨variable', -, hentry⟩ := List.mem_filterMap.1 hentry
  obtain ⟨setting, -, rfl⟩ := Option.map_eq_some_iff.1 hentry
  exact Option.isSome_of_eq_some (settingOf?_name setting)

lemma find?_entriesOfVariables (environment : List (String × RawText)) :
    find? setting.name (environment.filterMap entryOfVariable?) =
      (environment.find? fun entry => isVariableOf setting entry.1).map (·.2.datum) := by
  induction environment with
  | nil => rfl
  | cons entry rest ih =>
      obtain ⟨name, text⟩ := entry
      rw [List.filterMap_cons, List.find?_cons]
      cases hname : variableSetting? name with
      | none =>
          have hother : isVariableOf setting name = false := by
            rw [← Bool.not_eq_true, ← variableSetting?_eq_some_iff, hname]
            simp
          simp [entryOfVariable?, hname, hother, ih]
      | some other =>
          simp only [entryOfVariable?, hname, Option.map_some, find?_cons]
          by_cases hsetting : other = setting
          · subst hsetting
            rw [variableSetting?_eq_some_iff.1 hname, if_pos (same_text.2 rfl)]
            rfl
          · have hother : isVariableOf setting name = false := by
              rw [← Bool.not_eq_true, ← variableSetting?_eq_some_iff, hname]
              simpa using hsetting
            have hkey : ¬(Data.text other.name : Datum).same (.text setting.name) = true := by
              intro hsame
              exact hsetting (name_injective (Data.text.inj (same_text.1 hsame)))
            rw [hother, if_neg hkey, ih]

/-- **The last variable for a setting is the one that counts.** -/
theorem find?_environment (setting : Setting) (environment : List (String × RawText)) :
    find? setting.name (environmentEntries environment) =
      (lastVariable? setting environment).map RawText.datum := by
  rw [environmentEntries_eq, find?_putAll, ← List.filterMap_reverse,
    find?_entriesOfVariables, find?_nil, Option.or_none, lastVariable?, Option.map_map]
  rfl

lemma find?_layers (entries : List (Datum × Datum)) (environment : List (String × RawText))
    (setting : Setting) :
    find? setting.name (putAll entries (environmentEntries environment)) =
      given entries environment setting := by
  rw [find?_putAll, (distinct_environment environment).find?_reverse, find?_environment, given]

/-! ## Loading -/

section Load

variable {read : Reader} {path : Option RawText} {lookup lookup' : RawText → FileEntry}
  {entries' : List (Datum × Datum)}

lemma load_eq (hfile : fileEntries read (chosenPath? path environment) lookup = .ok entries) :
    Settings.load read depth path environment lookup =
      Settings.ofEntries depth (putAll entries (environmentEntries environment)) := by
  rw [Settings.load, hfile]
  rfl

lemma distinct_layers (hread : read.KeysOnce)
    (hfile : fileEntries read (chosenPath? path environment) lookup = .ok entries) :
    DistinctKeys (putAll entries (environmentEntries environment)) :=
  ((fileEntries_distinct hread _ lookup).of_eq_ok hfile).putAll

lemma known_layers : KnownKeys (putAll entries (environmentEntries environment)) ↔
    KnownKeys entries := by
  rw [knownKeys_putAll, and_iff_left (known_environment environment)]

/-- **Each loaded setting has the accepted value of what is given for it.** -/
theorem load_eq_ok_iff (hread : read.KeysOnce)
    (hfile : fileEntries read (chosenPath? path environment) lookup = .ok entries) :
    Settings.load read depth path environment lookup = .ok s ↔ KnownKeys entries ∧
      ∀ setting : Setting, setting.taken? (given entries environment setting) =
        some (s.values.get setting) := by
  rw [load_eq hfile, ofEntries_eq_ok_iff (distinct_layers hread hfile), known_layers]
  simp only [find?_layers]

lemma exists_load_iff (hread : read.KeysOnce)
    (hfile : fileEntries read (chosenPath? path environment) lookup = .ok entries) :
    (∃ s, Settings.load read depth path environment lookup = .ok s) ↔ KnownKeys entries ∧
      ∀ setting : Setting, (setting.taken? (given entries environment setting)).isSome := by
  rw [load_eq hfile, exists_ofEntries_iff (distinct_layers hread hfile), known_layers]
  simp only [find?_layers]

/-- What a file gives for settings that the environment overrides does not matter. -/
theorem load_of_overridden (hread : read.KeysOnce)
    (hfile : fileEntries read (chosenPath? path environment) lookup = .ok entries)
    (hfile' : fileEntries read (chosenPath? path environment) lookup' = .ok entries')
    (hknown : KnownKeys entries ↔ KnownKeys entries')
    (hagree : ∀ setting, lastVariable? setting environment = none →
      find? setting.name entries = find? setting.name entries') :
    (Settings.load read depth path environment lookup).toOption =
      (Settings.load read depth path environment lookup').toOption := by
  rw [load_eq hfile, load_eq hfile']
  refine ofEntries_congr (distinct_layers hread hfile) (distinct_layers hread hfile')
    (by rw [known_layers, known_layers, hknown]) fun setting => congrArg setting.taken? ?_
  rw [find?_layers, find?_layers, given, given]
  cases hlast : lastVariable? setting environment with
  | none => rw [hagree setting hlast]
  | some text => rfl

/-- A value that a setting has taken can be put in place of what it was taken from. -/
lemma taken?_or {old : Option Datum} (new : Option Datum)
    (h : setting.taken? old = some (s.values.get setting)) :
    setting.taken? (new.or old) = setting.taken? (new.or (some (s.values.get setting))) := by
  cases new with
  | some raw => rfl
  | none => exact h.trans (Setting.accept?_values s setting).symm

/-- **Loading a file and an environment is merging the environment into the settings of the
file**, if the file alone gives settings. -/
theorem load_eq_merge {chosen : RawText} (hread : read.KeysOnce)
    (hpath : path.or ((environment.lookup pathVariable).filter (· ≠ "")) = some chosen)
    (hfile : Settings.ofFile read depth chosen lookup = .ok s) :
    (Settings.load read depth path environment lookup).toOption =
      (s.merge depth (environmentEntries environment)).toOption := by
  obtain ⟨entries, hentries, hsettings⟩ := bind_eq_ok_iff.1 hfile
  have hdistinct := (fileEntries_distinct hread _ lookup).of_eq_ok hentries
  obtain ⟨hknown, hvalues⟩ := (ofEntries_eq_ok_iff hdistinct).1 hsettings
  have hchosen : fileEntries read (chosenPath? path environment) lookup = .ok entries := by
    rw [chosenPath?, hpath]
    exact hentries
  rw [load_eq hchosen, Settings.merge, SettingValues.merge]
  refine ofEntries_congr (distinct_layers hread hchosen) (distinct_values s).putAll ?_
    fun setting => ?_
  · simp only [knownKeys_putAll, hknown, known_values]
  · rw [find?_putAll, find?_putAll, find?_values]
    exact taken?_or _ (hvalues setting)

end Load

/-! ## Merging -/

/-- Merging nothing changes nothing. -/
theorem merge_nil (s : Settings) : s.merge depth [] = .ok s :=
  (ofEntries_eq_ok_iff (distinct_values s)).2 ⟨known_values s, fun setting => by
    rw [find?_values]
    exact Setting.accept?_values s setting⟩

/-- **Merging twice is merging what the second overrides in the first.** -/
theorem merge_merge (ha : DistinctKeys a) (hs' : s.merge depth a = .ok s') :
    (s'.merge depth b).toOption = (s.merge depth (putAll a b)).toOption := by
  have hdistinct : DistinctKeys (putAll s.values.entries a) := (distinct_values s).putAll
  obtain ⟨hknown, hvalues⟩ := (ofEntries_eq_ok_iff hdistinct).1 hs'
  refine ofEntries_congr (distinct_values s').putAll (distinct_values s).putAll ?_
    fun setting => ?_
  · simp only [knownKeys_putAll, known_values, true_and] at hknown ⊢
    exact (and_iff_right hknown).symm
  · have htaken := hvalues setting
    rw [find?_putAll, ha.find?_reverse] at htaken
    rw [find?_putAll, find?_values, find?_putAll, ha.putAll.find?_reverse, find?_putAll,
      Option.or_assoc]
    exact (taken?_or _ htaken).symm

/-! ## All layers -/

lemma isSome_taken?_iff {value? : Option Datum} : (setting.taken? value?).isSome ↔
    ∀ raw, value? = some raw → ∃ value, setting.accept? raw = some value := by
  cases value? with
  | none => simp [Setting.taken?]
  | some raw => simp [Setting.taken?, Option.isSome_iff_exists]

/-- **Settings come in layers.**  For the entries of a file, whatever reads it as long as no key
stands twice, and any environment, in which the last variable for a setting counts and
`CRONEXPR_CONFIG` is for no setting:

* there are settings exactly if the keys of the file are known and each setting accepts what is
  given for it, by the environment or else by the file;
* each setting then has the accepted value, in which a log level is in upper case, or its initial
  value if nothing is given;
* another file gives the same if its keys are known too and it has the same values for the settings
  that the environment does not override;
* if the file alone gives settings, merging the environment into them gives the same, or fails too.

Merging nothing into any settings changes nothing.  Merging a mapping, in which no key stands twice,
and then other entries gives the same as merging once the mapping with the other entries put into
it, or both fail. -/
theorem layered_settings {read : Reader} (hread : read.KeysOnce) (depth : Nat)
    (path : Option RawText) (environment : List (String × RawText)) (lookup : RawText → FileEntry) :
    (∀ entries, fileEntries read (chosenPath? path environment) lookup = .ok entries →
      ((∃ s, Settings.load read depth path environment lookup = .ok s) ↔ KnownKeys entries ∧
        ∀ setting raw, given entries environment setting = some raw →
          ∃ value, setting.accept? raw = some value) ∧
      (∀ s, Settings.load read depth path environment lookup = .ok s → ∀ setting : Setting,
        setting.taken? (given entries environment setting) = some (s.values.get setting)) ∧
      (∀ lookup' entries', fileEntries read (chosenPath? path environment) lookup' = .ok entries' →
        (KnownKeys entries ↔ KnownKeys entries') →
        (∀ setting, lastVariable? setting environment = none →
          find? setting.name entries = find? setting.name entries') →
        (Settings.load read depth path environment lookup).toOption =
          (Settings.load read depth path environment lookup').toOption) ∧
      ∀ chosen s, path.or ((environment.lookup pathVariable).filter (· ≠ "")) = some chosen →
        Settings.ofFile read depth chosen lookup = .ok s →
        (Settings.load read depth path environment lookup).toOption =
          (s.merge depth (environmentEntries environment)).toOption) ∧
    ∀ s : Settings, s.merge depth [] = .ok s ∧
      ∀ a b s', DistinctKeys a → s.merge depth a = .ok s' →
        (s'.merge depth b).toOption = (s.merge depth (putAll a b)).toOption := by
  refine ⟨fun entries hfile => ⟨?_, ?_, ?_, ?_⟩, fun s => ⟨merge_nil s, ?_⟩⟩
  · simp only [exists_load_iff hread hfile, isSome_taken?_iff]
  · intro s hs
    exact ((load_eq_ok_iff hread hfile).1 hs).2
  · intro lookup' entries' hfile' hknown hagree
    exact load_of_overridden hread hfile hfile' hknown hagree
  · intro chosen s hpath hs
    exact load_eq_merge hread hpath hs
  · intro a b s' ha hs'
    exact merge_merge ha hs'

/-- A file gives a log level that is none, but the environment overrides it, even twice; a number of
fire times is merged as a byte string. -/
theorem layered_settings_overridden :
    let environment : List (String × RawText) :=
      [("CRONEXPR_LOG_LEVEL", "loud"), ("CRONEXPR_Log_Level", "debug")]
    let wrong : RawText → FileEntry := fun _ => .file "\x7b\"log_level\": 12\x7d".toUTF8
    let blank : RawText → FileEntry := fun _ => .file "\x7b\x7d".toUTF8
    let load := Settings.load .standard messageDepth (some "c.json") environment
    let count : List (Datum × Datum) := [(.text "default_count", .other (.bytes [0x37]))]
    (∃ s, load wrong = .ok s) ∧ (load wrong).toOption = (load blank).toOption ∧
      (∃ s, Settings.ofFile .standard messageDepth "c.json" blank = .ok s ∧ (load blank).toOption =
        (s.merge messageDepth (environmentEntries environment)).toOption) ∧
      ∃ s, Settings.initial.merge messageDepth count = .ok s ∧ s.defaultCount = 7 ∧
        (s.merge messageDepth count).toOption =
          (Settings.initial.merge messageDepth (putAll count count)).toOption := by
  intro environment wrong blank load count
  have hblank : fileEntries .standard (chosenPath? (some "c.json") environment) blank = .ok [] :=
    rfl
  obtain ⟨entries, hwrong, hentries⟩ := exists_ok_of_any
    (x := fileEntries .standard (chosenPath? (some "c.json") environment) wrong)
    (p := fun entries => entries.all (fun entry => (settingOf? entry.1).isSome) &&
      Setting.all.all fun setting =>
        (lastVariable? setting environment).isSome || (find? setting.name entries).isNone)
    (by decide +kernel)
  simp only [Bool.and_eq_true, List.all_eq_true, Bool.or_eq_true] at hentries
  obtain ⟨s, hs⟩ := exists_ok_of_isSome
    (x := Settings.ofFile .standard messageDepth "c.json" blank) (by decide +kernel)
  obtain ⟨s', hs', hcount⟩ := exists_ok_of_any
    (x := Settings.initial.merge messageDepth count) (p := (·.defaultCount == 7))
    (by decide +kernel)
  obtain ⟨hlayers, hmerge⟩ := layered_settings Reader.standard_keysOnce messageDepth
    (some "c.json") environment wrong
  obtain ⟨-, -, hsame, -⟩ := hlayers entries hwrong
  obtain ⟨hlayers', -⟩ := layered_settings Reader.standard_keysOnce messageDepth
    (some "c.json") environment blank
  obtain ⟨-, -, -, hfile⟩ := hlayers' [] hblank
  refine ⟨exists_ok_of_isSome (by decide +kernel), ?_, ⟨s, hs, hfile "c.json" s rfl hs⟩,
    s', hs', beq_iff_eq.1 hcount, ?_⟩
  · refine hsame blank [] hblank (iff_of_true hentries.1 knownKeys_nil) fun setting hlast => ?_
    have hnone := hentries.2 setting (by cases setting <;> decide)
    simpa [hlast] using hnone
  · exact (hmerge Settings.initial).2 count count s' (List.pairwise_singleton _ _) hs'

end CronSchedule
