import CronSchedule.Proofs.Settings.Layers

/-!
# Files that hold no mapping

A file of a known format whose text can be read holds data, which need not be a mapping.  Such a
file is refused, except that the data of a YAML document that counts as nothing stands for an empty
mapping: not only that of an empty document, but also `[]`, `false`, `0`, and empty texts, byte
strings and sets.

* `ofEntries_nil` — the settings of no entries.
* **`without_mapping`** — which files without a mapping are refused.
-/

namespace CronSchedule

open Text

variable {read : Reader} {path : RawText} {format : Format} {d : Datum} {depth : Nat}

lemma mappingEntries_of_not_mapping (h : ∀ entries, d ≠ .mapping entries) :
    mappingEntries path d = .error (.notMapping path) := by
  cases d with
  | mapping entries => exact absurd rfl (h entries)
  | _ => rfl

lemma ofEntries_nil : Settings.ofEntries depth [] = .ok Settings.initial := by
  exact (ofEntries_eq_ok_iff List.Pairwise.nil).2 ⟨knownKeys_nil, fun setting => rfl⟩

/-- **A file without a mapping is refused, unless it is a YAML document whose data counts as
nothing**, which gives the initial settings, or those of the environment.  This does not depend on
how documents are read. -/
theorem without_mapping (depth : Nat) {lookup : RawText → FileEntry}
    (hmapping : ∀ entries, d ≠ .mapping entries)
    (hholds : Holds read path (lookup path) format d) :
    (∀ file, normalPath file = path →
      Settings.ofFile read depth file lookup =
        if format.isNothing d then .ok Settings.initial else .error (.notMapping path)) ∧
    ∀ asked environment, chosenPath? asked environment = some path →
      Settings.load read depth asked environment lookup =
        if format.isNothing d then Settings.ofEnvironment depth environment
        else .error (.notMapping path) := by
  have hentries : fileEntries read (some path) lookup =
      if format.isNothing d then .ok [] else .error (.notMapping path) := by
    rw [fileEntries, readFileEntries_of_holds hholds, mappingEntries_of_not_mapping hmapping]
  constructor
  · rintro file rfl
    rw [Settings.ofFile, hentries]
    split
    case isTrue =>
      rw [ok_bind]
      exact ofEntries_nil
    case isFalse => rfl
  · intro asked environment hchosen
    rw [Settings.load, hchosen, hentries]
    split
    case isTrue =>
      rw [ok_bind, (distinct_environment environment).putAll_nil]
      rfl
    case isFalse => rfl

/-- An empty list is refused in JSON. -/
theorem without_mapping_json :
    let lookup : RawText → FileEntry := fun _ => .file "[]".toUTF8
    Settings.ofFile .standard messageDepth "./c.json" lookup = .error (.notMapping "c.json") ∧
      Settings.load .standard messageDepth none [("CRONEXPR_CONFIG", "c.json")] lookup =
        .error (.notMapping "c.json") := by
  intro lookup
  have hholds : Holds .standard "c.json" (lookup "c.json") .json (.list []) :=
    ⟨_, "[]", rfl, rfl, rfl, rfl⟩
  obtain ⟨hfile, hload⟩ := without_mapping messageDepth (by simp) hholds
  exact ⟨hfile "./c.json" (by decide +kernel), hload none _ (by decide +kernel)⟩

/-- An empty list and an empty set give the initial settings in YAML, but an empty list is refused
in JSON. -/
theorem without_mapping_empty_list :
    let outcome := fun (path text : String) =>
      (Settings.ofFile .standard messageDepth path fun _ => .file text.toUTF8).toOption
    outcome "c.yaml" "[]" = some Settings.initial ∧
      outcome "c.yaml" "!!set \x7b\x7d" = some Settings.initial ∧ outcome "c.json" "[]" = none := by
  decide +kernel

end CronSchedule
