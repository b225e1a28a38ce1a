import CronSchedule.Proofs.Settings.Conversion

/-!
# What entries make of settings

Entries are converted one after the other, and the first value that is refused decides the error.
With distinct keys no entry is in the way of another one, so that each setting depends on what is
found for it alone.

* `FirstRefused` — the first entry whose value cannot be converted.
* **`setAll_eq_error_iff`**, `setAll_eq_ok` — what converting entries makes of a draft.
* `exists_check_eq_ok`, `allow?_of_check` — what checking makes of a draft.
* `KnownKeys` — every entry is for a setting.
* **`ofEntries_eq_ok_iff`**, `exists_ofEntries_iff` — the settings of entries.
* `ofEntries_congr` — entries that give the same settings.
-/

namespace CronSchedule

open Text

variable {setting : Setting} {raw : Datum} {d d' : Draft} {s s' : Settings} {depth : Nat}
  {entry : Datum × Datum} {entries entries' : List (Datum × Datum)} {e : SettingsError}

/-! ## Converting entries -/

/-- The value of an entry can be converted, if the entry is for a setting. -/
def Converts (entry : Datum × Datum) : Prop :=
  ∀ setting, settingOf? entry.1 = some setting → ∃ value, setting.convert entry.2 = .ok value

/-- The first entry whose value cannot be converted is for `setting` and has the value `raw`. -/
def FirstRefused (entries : List (Datum × Datum)) (setting : Setting) (raw : Datum) : Prop :=
  ∃ before after, entries = before ++ (.text setting.name, raw) :: after ∧
    (∀ entry ∈ before, Converts entry) ∧ ¬Converts (.text setting.name, raw)

lemma settingOf?_name (setting : Setting) : settingOf? (.text setting.name) = some setting :=
  settingOf?_eq_some_iff.2 rfl

lemma converts_name : Converts (.text setting.name, raw) ↔
    ∃ value, setting.convert raw = .ok value := by
  constructor
  · intro h
    exact h setting (settingOf?_name setting)
  · intro h other hother
    obtain rfl := Option.some.inj ((settingOf?_name setting).symm.trans hother)
    exact h

lemma firstRefused_cons : FirstRefused (entry :: entries) setting raw ↔
    (entry = (.text setting.name, raw) ∧ ¬Converts entry) ∨
      (Converts entry ∧ FirstRefused entries setting raw) := by
  constructor
  · rintro ⟨before, after, heq, hbefore, hrefused⟩
    cases before with
    | nil =>
        obtain ⟨rfl, -⟩ := List.cons.inj heq
        exact Or.inl ⟨rfl, hrefused⟩
    | cons first before =>
        obtain ⟨rfl, hrest⟩ := List.cons.inj heq
        obtain ⟨hfirst, hbefore⟩ := List.forall_mem_cons.1 hbefore
        exact Or.inr ⟨hfirst, before, after, hrest, hbefore, hrefused⟩
  · rintro (⟨rfl, hrefused⟩ | ⟨hentry, before, after, rfl, hbefore, hrefused⟩)
    · exact ⟨[], entries, rfl, by simp, hrefused⟩
    · exact ⟨entry :: before, after, rfl, List.forall_mem_cons.2 ⟨hentry, hbefore⟩, hrefused⟩

/-- A value of a setting gives an error. -/
def Setting.Refuses (setting : Setting) (depth : Nat) (raw : Datum) (e : SettingsError) : Prop :=
  ∃ misfit, setting.convert raw = .error misfit ∧ misfit.error depth setting raw = e

/-- **The first refused value decides the error**, and without one there is a draft. -/
theorem setAll_eq_error_iff : d.setAll depth entries = .error e ↔
    ∃ setting raw, FirstRefused entries setting raw ∧ setting.Refuses depth raw e := by
  induction entries generalizing d with
  | nil =>
      refine iff_of_false (by simp [Draft.setAll]) ?_
      rintro ⟨setting, raw, ⟨before, after, heq, -⟩, -⟩
      exact List.append_ne_nil_of_right_ne_nil _ (List.cons_ne_nil _ _) heq.symm
  | cons entry rest ih =>
      obtain ⟨key, raw⟩ := entry
      simp only [Draft.setAll, firstRefused_cons]
      cases hkey : settingOf? key with
      | none =>
          have hconverts : Converts (key, raw) := fun setting h => by simp [hkey] at h
          simp [hconverts, ih]
      | some setting =>
          obtain rfl := settingOf?_eq_some_iff.1 hkey
          have hset := set_outcome d setting raw
          cases hd : d.set setting raw with
          | error misfit =>
              have hraw : setting.convert raw = .error misfit := hset.of_eq_error hd
              have hrefused : ¬Converts (.text setting.name, raw) := by simp [converts_name, hraw]
              simp only [hd, hrefused, mapError_error, error_bind, Except.error.injEq,
                not_false_eq_true, and_true, false_and, or_false, Prod.mk.injEq, Data.text.injEq]
              constructor
              · intro he
                exact ⟨setting, raw, ⟨rfl, rfl⟩, misfit, hraw, he⟩
              · rintro ⟨other, raw', ⟨hname, rfl⟩, misfit', he', he⟩
                obtain rfl := name_injective hname
                obtain rfl := Except.error.inj (hraw.symm.trans he')
                exact he
          | ok d₁ =>
              have hconverts : Converts (.text setting.name, raw) :=
                converts_name.2 ⟨_, (hset.of_eq_ok hd).1⟩
              simp [hd, hconverts, ih]

lemma exists_setAll_eq_ok (depth : Nat) (d : Draft) (h : ∀ entry ∈ entries, Converts entry) :
    ∃ d', d.setAll depth entries = .ok d' := by
  cases hd : d.setAll depth entries with
  | ok d' => exact ⟨d', rfl⟩
  | error e =>
      obtain ⟨setting, raw, ⟨before, after, rfl, -, hrefused⟩, -⟩ := setAll_eq_error_iff.1 hd
      exact absurd (h _ (List.mem_append_right _ List.mem_cons_self)) hrefused

/-- A value that cannot be converted is refused for a reason. -/
lemma FirstRefused.exists_misfit (h : FirstRefused entries setting raw) :
    ∃ misfit, setting.convert raw = .error misfit := by
  obtain ⟨-, -, -, -, hrefused⟩ := h
  cases hraw : setting.convert raw with
  | error misfit => exact ⟨misfit, rfl⟩
  | ok value => exact absurd (converts_name.2 ⟨value, hraw⟩) hrefused

lemma exists_firstRefused (h : ¬∀ entry ∈ entries, Converts entry) :
    ∃ setting raw, FirstRefused entries setting raw := by
  induction entries with
  | nil => exact absurd (by simp) h
  | cons entry rest ih =>
      obtain ⟨key, raw⟩ := entry
      by_cases hentry : Converts (key, raw)
      · obtain ⟨setting, raw', hfirst⟩ := ih fun hrest =>
          h (List.forall_mem_cons.2 ⟨hentry, hrest⟩)
        exact ⟨setting, raw', firstRefused_cons.2 (Or.inr ⟨hentry, hfirst⟩)⟩
      · obtain ⟨setting, hsetting, -⟩ : ∃ setting, settingOf? key = some setting ∧
            ¬∃ value, setting.convert raw = .ok value := by
          simpa [Converts] using hentry
        obtain rfl := settingOf?_eq_some_iff.1 hsetting
        exact ⟨setting, raw, firstRefused_cons.2 (Or.inl ⟨rfl, hentry⟩)⟩

/-- With distinct keys a setting has the value that is found for it, or the one that it had. -/
lemma setAll_eq_ok (hdistinct : DistinctKeys entries) (h : d.setAll depth entries = .ok d')
    (setting : Setting) :
    (find? setting.name entries).elim (.ok (d.get setting)) setting.convert =
      .ok (d'.get setting) := by
  induction entries generalizing d with
  | nil =>
      obtain rfl := Except.ok.inj h
      exact rfl
  | cons entry rest ih =>
      obtain ⟨key, raw⟩ := entry
      have hrest := (List.pairwise_cons.1 hdistinct).2
      rw [find?_cons]
      simp only [Draft.setAll] at h
      cases hkey : settingOf? key with
      | none =>
          rw [hkey] at h
          have hother : ¬key.same (.text setting.name) = true := fun hsame => by
            rw [same_text.1 hsame, settingOf?_name] at hkey
            cases hkey
          rw [if_neg hother]
          exact ih hrest h
      | some changed =>
          obtain rfl := settingOf?_eq_some_iff.1 hkey
          simp only [hkey, bind_eq_ok_iff, mapError_eq_ok_iff] at h
          obtain ⟨d₁, hd₁, h⟩ := h
          obtain ⟨hconverted, hkept⟩ := (set_outcome d changed raw).of_eq_ok hd₁
          have hlater := ih hrest h
          by_cases hsetting : setting = changed
          · subst hsetting
            rw [if_pos (same_text.2 rfl)]
            rw [hdistinct.find?_tail] at hlater
            exact hconverted.trans hlater
          · have hother : ¬(Data.text changed.name : Datum).same (.text setting.name) = true :=
              fun hsame => hsetting (name_injective (Data.text.inj (same_text.1 hsame)).symm)
            rw [if_neg hother]
            rw [hkept setting hsetting] at hlater
            exact hlater

/-! ## Checking -/

/-- A text for a setting that is chosen among names is allowed exactly if it names something. -/
lemma allow?_chosen {α : Type} {name : α → String} {find : String → Option α} (text : RawText)
    (h : ∀ s, setting.allow? (.text s) = (find s).map (.text ∘ name))
    (hbroken : ∀ t, setting.allow? (.other (.broken t)) = none) :
    setting.allow? text.datum = (text.whole?.bind find).map (.text ∘ name) := by
  cases text with
  | whole s => exact h s
  | broken t => exact hbroken t

lemma allow?_logLevel (d : Draft) :
    Setting.logLevel.allow? d.logLevel.datum = d.threshold?.map (.text ∘ Threshold.name) :=
  allow?_chosen _ (fun _ => rfl) fun _ => rfl

lemma allow?_logFormat (d : Draft) :
    Setting.logFormat.allow? d.logFormat.datum = d.style?.map (.text ∘ Log.Style.name) :=
  allow?_chosen _ (fun _ => rfl) fun _ => rfl

/-- A draft becomes settings if each of its values is allowed. -/
lemma exists_check_eq_ok (h : ∀ setting : Setting, (setting.allow? (d.get setting)).isSome) :
    ∃ s, d.check = .ok s := by
  have hformat : d.datetimeFormat ≠ .whole "" := fun hempty => by
    have hsome := h .datetimeFormat
    rw [Draft.get, Setting.allow?_datum, if_pos hempty] at hsome
    cases hsome
  have hcount : 1 ≤ d.defaultCount := by
    have hsome := h .defaultCount
    simp only [Draft.get, Setting.allow?] at hsome
    by_contra hsmall
    simp [hsmall] at hsome
  obtain ⟨level, hlevel⟩ : ∃ level, d.threshold? = some level := by
    have hsome := h .logLevel
    rw [Draft.get, allow?_logLevel, Option.isSome_map] at hsome
    exact Option.isSome_iff_exists.1 hsome
  obtain ⟨style, hstyle⟩ : ∃ style, d.style? = some style := by
    have hsome := h .logFormat
    rw [Draft.get, allow?_logFormat, Option.isSome_map] at hsome
    exact Option.isSome_iff_exists.1 hsome
  simp [Draft.check, hlevel, hstyle, hformat, hcount]

/-- The settings of a draft have the values that are allowed. -/
lemma allow?_of_check (h : d.check = .ok s) (setting : Setting) :
    setting.allow? (d.get setting) = some (s.values.get setting) := by
  simp only [Draft.check] at h
  split at h
  case h_2 => cases h
  case h_1 level style hlevel hstyle =>
    split at h
    case isFalse => cases h
    case isTrue hallowed =>
      obtain rfl := Except.ok.inj h
      cases setting with
      | datetimeFormat =>
          rw [Draft.get, Setting.allow?_datum, if_neg hallowed.1]
          rfl
      | strictDayPairing => rfl
      | logLevel =>
          rw [Draft.get, allow?_logLevel, hlevel]
          rfl
      | logFormat =>
          rw [Draft.get, allow?_logFormat, hstyle]
          rfl
      | defaultCount =>
          have hcount : max d.defaultCount 0 = d.defaultCount := by omega
          simp [Draft.get, Setting.allow?, Settings.values, SettingValues.get, hallowed.2, hcount]

lemma datum_injective {a b : RawText} (h : a.datum = b.datum) : a = b := by
  have htext := congrArg Data.text? h
  cases a <;> cases b <;> simp_all [RawText.datum, Data.text?]

/-- Settings are known by their values. -/
lemma values_injective
    (h : ∀ setting, s.values.get setting = s'.values.get setting) : s = s' := by
  have hformat : s.datetimeFormat = s'.datetimeFormat := datum_injective (h .datetimeFormat)
  have hstrict : s.strictDayPairing = s'.strictDayPairing := Data.bool.inj (h .strictDayPairing)
  have hlevel : s.logLevel = s'.logLevel := by
    have hname := congrArg Threshold.ofName? (Data.text.inj (h .logLevel))
    simpa [Setting.ofName?_name] using hname
  have hstyle : s.logFormat = s'.logFormat := by
    have hname := congrArg Log.Style.ofName? (Data.text.inj (h .logFormat))
    simpa [Setting.ofName?_name_style] using hname
  have hcount : s.defaultCount = s'.defaultCount :=
    Int.ofNat.inj (Data.integer.inj (h .defaultCount))
  cases s
  cases s'
  simp_all

/-! ## Settings of entries -/

/-- Every entry is for a setting. -/
def KnownKeys (entries : List (Datum × Datum)) : Prop :=
  ∀ entry ∈ entries, (settingOf? entry.1).isSome

lemma knownKeys_nil : KnownKeys [] := List.forall_mem_nil _

lemma checkKeys_eq_ok_iff : checkKeys entries = .ok () ↔ KnownKeys entries := by
  have hunknown : ((entries.map (·.1)).filter fun key => (settingOf? key).isNone).isEmpty ↔
      KnownKeys entries := by
    simp [KnownKeys, List.isEmpty_iff, List.filter_eq_nil_iff, Option.isSome_iff_ne_none]
  rw [← hunknown, checkKeys]
  split <;> simp [*]

/-- With distinct keys, settings are what the check makes of the values that are found. -/
lemma ofEntries_of_converts (hdistinct : DistinctKeys entries) (hknown : KnownKeys entries)
    (hconverts : ∀ entry ∈ entries, Converts entry) :
    ∃ d : Draft, Settings.ofEntries depth entries = d.check.mapError .invalid ∧
      ∀ setting : Setting, setting.taken? (find? setting.name entries) =
        setting.allow? (d.get setting) := by
  obtain ⟨d, hd⟩ := exists_setAll_eq_ok depth Draft.initial hconverts
  refine ⟨d, ?_, fun setting => ?_⟩
  · rw [Settings.ofEntries, checkKeys_eq_ok_iff.2 hknown, hd]
    rfl
  · have hget := setAll_eq_ok hdistinct hd setting
    cases hfind : find? setting.name entries with
    | none =>
        rw [hfind] at hget
        rw [← Except.ok.inj hget]
        cases setting <;> rfl
    | some raw =>
        rw [hfind] at hget
        change setting.convert raw = .ok (d.get setting) at hget
        rw [Setting.taken?, Setting.accept?, hget]
        rfl

/-- Entries with distinct keys are all converted if what is found for each setting is. -/
lemma converts_of_taken (hdistinct : DistinctKeys entries)
    (h : ∀ setting : Setting, (setting.taken? (find? setting.name entries)).isSome)
    (hentry : entry ∈ entries) : Converts entry := by
  intro setting hsetting
  obtain ⟨key, raw⟩ := entry
  obtain rfl := settingOf?_eq_some_iff.1 hsetting
  have htaken := h setting
  rw [hdistinct.find?_of_mem hentry] at htaken
  obtain ⟨value, hvalue⟩ := Option.isSome_iff_exists.1 htaken
  obtain ⟨converted, hconverted, -⟩ := Setting.accept?_eq_some_iff.1 hvalue
  exact ⟨converted, hconverted⟩

/-- If each setting accepts what is found for it, there are settings with the accepted values. -/
lemma ofEntries_of_taken (hdistinct : DistinctKeys entries) (hknown : KnownKeys entries)
    (h : ∀ setting : Setting, (setting.taken? (find? setting.name entries)).isSome) :
    ∃ s, Settings.ofEntries depth entries = .ok s ∧ ∀ setting : Setting,
      setting.taken? (find? setting.name entries) = some (s.values.get setting) := by
  obtain ⟨d, hd, htaken⟩ :=
    ofEntries_of_converts hdistinct hknown fun entry => converts_of_taken hdistinct h
  obtain ⟨s, hs⟩ := exists_check_eq_ok (d := d) fun setting => htaken setting ▸ h setting
  refine ⟨s, hd.trans (mapError_eq_ok_iff.2 hs), fun setting => ?_⟩
  rw [htaken, allow?_of_check hs]

/-- Settings come from entries that are all for settings and are all converted. -/
lemma of_ofEntries_eq_ok (h : Settings.ofEntries depth entries = .ok s) :
    KnownKeys entries ∧ ∀ entry ∈ entries, Converts entry := by
  simp only [Settings.ofEntries, bind_eq_ok_iff] at h
  obtain ⟨⟨⟩, hkeys, d, hd, -⟩ := h
  refine ⟨checkKeys_eq_ok_iff.1 hkeys, by_contra fun hrefused => ?_⟩
  obtain ⟨setting, raw, hfirst⟩ := exists_firstRefused hrefused
  obtain ⟨misfit, hmisfit⟩ := hfirst.exists_misfit
  rw [setAll_eq_error_iff.2 ⟨setting, raw, hfirst, misfit, hmisfit, rfl⟩] at hd
  cases hd

/-- **Settings come from entries exactly if each entry is for a setting and each setting accepts
what is found for it**, and they have the values that are accepted. -/
theorem ofEntries_eq_ok_iff (hdistinct : DistinctKeys entries) :
    Settings.ofEntries depth entries = .ok s ↔ KnownKeys entries ∧
      ∀ setting : Setting, setting.taken? (find? setting.name entries) =
        some (s.values.get setting) := by
  constructor
  · intro h
    obtain ⟨hknown, hconverts⟩ := of_ofEntries_eq_ok h
    obtain ⟨d, hd, htaken⟩ := ofEntries_of_converts hdistinct hknown hconverts
    rw [hd, mapError_eq_ok_iff] at h
    exact ⟨hknown, fun setting => (htaken setting).trans (allow?_of_check h setting)⟩
  · rintro ⟨hknown, hvalues⟩
    have hsome : ∀ setting : Setting, (setting.taken? (find? setting.name entries)).isSome :=
      fun setting => Option.isSome_of_eq_some (hvalues setting)
    obtain ⟨s', hs', hvalues'⟩ := ofEntries_of_taken hdistinct hknown hsome
    rw [hs', values_injective fun setting => Option.some.inj ((hvalues' setting).symm.trans
      (hvalues setting))]

lemma exists_ofEntries_iff (hdistinct : DistinctKeys entries) :
    (∃ s, Settings.ofEntries depth entries = .ok s) ↔ KnownKeys entries ∧
      ∀ setting : Setting, (setting.taken? (find? setting.name entries)).isSome := by
  constructor
  · rintro ⟨s, hs⟩
    obtain ⟨hknown, hvalues⟩ := (ofEntries_eq_ok_iff hdistinct).1 hs
    exact ⟨hknown, fun setting => Option.isSome_of_eq_some (hvalues setting)⟩
  · rintro ⟨hknown, hsome⟩
    obtain ⟨s, hs, -⟩ := ofEntries_of_taken hdistinct hknown hsome
    exact ⟨s, hs⟩

/-- Entries of which each setting takes the same value give the same settings. -/
lemma ofEntries_congr (hdistinct : DistinctKeys entries) (hdistinct' : DistinctKeys entries')
    (hknown : KnownKeys entries ↔ KnownKeys entries')
    (htaken : ∀ setting : Setting, setting.taken? (find? setting.name entries) =
      setting.taken? (find? setting.name entries')) :
    (Settings.ofEntries depth entries).toOption = (Settings.ofEntries depth entries').toOption := by
  ext s
  rw [toOption_eq_some_iff, toOption_eq_some_iff, ofEntries_eq_ok_iff hdistinct,
    ofEntries_eq_ok_iff hdistinct', hknown]
  simp only [htaken]

/-! ## Entries of settings -/

lemma distinct_values (s : Settings) : DistinctKeys s.values.entries := by
  simp [DistinctKeys, SettingValues.entries, Setting.all, Setting.name, Data.same, Data.ratio?]

lemma known_values (s : Settings) : KnownKeys s.values.entries := by
  intro entry hentry
  obtain ⟨setting, -, rfl⟩ := List.mem_map.1 hentry
  exact Option.isSome_of_eq_some (settingOf?_name setting)

lemma find?_values (s : Settings) (setting : Setting) :
    find? setting.name s.values.entries = some (s.values.get setting) := by
  refine (distinct_values s).find?_of_mem (List.mem_map.2 ⟨setting, ?_, rfl⟩)
  cases setting <;> decide

end CronSchedule
