import CronSchedule.Proofs.Outcome
import CronSchedule.Proofs.Value
import CronSchedule.Settings.Entries

/-!
# What settings accept

A raw value becomes that of a setting in two steps: it is converted to the kind of the setting, and
the result is checked.  Both steps look at one setting at a time.

* `Setting.convert`, `Setting.allow?`, `Setting.accept?` — the two steps, for one setting.
* `Setting.taken?` — the value of a setting, for which something may be given.
* **`Setting.accept?_values`** — the values that settings hold are accepted as they are.
* `settingOf?_eq_some_iff` — the keys of settings are their names.
* `set_outcome` — changing a draft is converting a value for one setting.
-/

namespace CronSchedule

open Text

variable {setting : Setting} {raw value key : Datum}

/-! ## One setting -/

namespace Setting

/-- The value of the kind of a setting that a raw value is or stands for. -/
def convert (setting : Setting) (raw : Datum) : Except Misfit Datum :=
  match setting with
  | .strictDayPairing =>
    match readBool? raw with
    | some b => .ok (.bool b)
    | none => .error .refused
  | .defaultCount => (readCount raw).map .integer
  | _ => (readText raw).map RawText.datum

/-- What becomes of a value of the kind of a setting, if it is allowed: a log level is put into
upper case. -/
def allow? (setting : Setting) (value : Datum) : Option Datum :=
  match setting, value with
  | .datetimeFormat, .text text => if text = "" then none else some value
  | .datetimeFormat, .other (.broken _) => some value
  | .strictDayPairing, .bool _ => some value
  | .logLevel, .text text => (Threshold.ofName? text).map (.text ·.name)
  | .logFormat, .text text => (Log.Style.ofName? text).map (.text ·.name)
  | .defaultCount, .integer n => if 1 ≤ n then some value else none
  | _, _ => none

/-- The value of a setting that a raw value gives, if it can be converted and is allowed. -/
def accept? (setting : Setting) (raw : Datum) : Option Datum :=
  (setting.convert raw).toOption.bind setting.allow?

/-- The value of a setting when nothing is given for it. -/
def initial (setting : Setting) : Datum :=
  Settings.initial.values.get setting

/-- The value of a setting for what is given for it, if anything is. -/
def taken? (setting : Setting) (given : Option Datum) : Option Datum :=
  match given with
  | some raw => setting.accept? raw
  | none => some setting.initial

lemma accept?_eq_some_iff : setting.accept? raw = some value ↔
    ∃ converted, setting.convert raw = .ok converted ∧ setting.allow? converted = some value := by
  simp only [accept?, Option.bind_eq_some_iff, toOption_eq_some_iff]

/-- A threshold is recognised by its name. -/
lemma ofName?_name (t : Threshold) : Threshold.ofName? t.name = some t := by
  cases t <;> decide

lemma ofName?_name_style (style : Log.Style) : Log.Style.ofName? style.name = some style := by
  cases style <;> decide

/-- A text is converted as it is. -/
lemma readText_datum (text : RawText) : readText text.datum = .ok text := by
  cases text <;> rfl

lemma allow?_datum (text : RawText) : Setting.datetimeFormat.allow? text.datum =
    if text = .whole "" then none else some text.datum := by
  cases text with
  | whole s => simp [allow?, RawText.datum]
  | broken t => rfl

/-- **What settings hold is accepted as it is.** -/
theorem accept?_values (s : Settings) (setting : Setting) :
    setting.accept? (s.values.get setting) = some (s.values.get setting) := by
  rw [accept?_eq_some_iff]
  cases setting with
  | datetimeFormat =>
      refine ⟨s.datetimeFormat.datum, ?_, ?_⟩
      · exact congrArg (Except.map RawText.datum) (readText_datum s.datetimeFormat)
      · exact (allow?_datum _).trans (if_neg s.datetimeFormat_ne_empty)
  | strictDayPairing => exact ⟨.bool s.strictDayPairing, rfl, rfl⟩
  | logLevel =>
      refine ⟨.text s.logLevel.name, rfl, ?_⟩
      simp [allow?, Settings.values, SettingValues.get, ofName?_name]
  | logFormat =>
      refine ⟨.text s.logFormat.name, rfl, ?_⟩
      simp [allow?, Settings.values, SettingValues.get, ofName?_name_style]
  | defaultCount =>
      have hpos := s.defaultCount_pos
      have hcount : (1 : Int) ≤ s.defaultCount := by omega
      exact ⟨.integer s.defaultCount, rfl, if_pos hcount⟩

end Setting

/-! ## Names -/

lemma ofName?_eq_some_iff {name : String} :
    Setting.ofName? name = some setting ↔ name = setting.name := by
  constructor
  · intro h
    have hname := List.find?_some (p := fun setting : Setting => setting.name == name) h
    exact (beq_iff_eq.1 hname).symm
  · rintro rfl
    cases setting <;> decide

lemma settingOf?_eq_some_iff : settingOf? key = some setting ↔ key = .text setting.name := by
  cases key with
  | text name => simp [settingOf?, ofName?_eq_some_iff]
  | _ => simp [settingOf?]

/-- Keys that are the same stand for the same setting. -/
lemma settingOf?_congr {key' : Datum} (h : key.same key' = true) :
    settingOf? key = settingOf? key' := by
  ext setting
  rw [settingOf?_eq_some_iff, settingOf?_eq_some_iff, text_iff_of_same h]

lemma name_injective {other : Setting} (h : setting.name = other.name) : setting = other := by
  have hsome : Setting.ofName? setting.name = some other := ofName?_eq_some_iff.2 h
  exact Option.some.inj ((ofName?_eq_some_iff.2 rfl).symm.trans hsome)

/-! ## Converting -/

/-- What a draft holds for a setting. -/
def Draft.get (d : Draft) : Setting → Datum
  | .datetimeFormat => d.datetimeFormat.datum
  | .strictDayPairing => .bool d.strictDayPairing
  | .logLevel => d.logLevel.datum
  | .logFormat => d.logFormat.datum
  | .defaultCount => .integer d.defaultCount

/-- A value is converted for its setting, and no other setting changes. -/
lemma set_outcome (d : Draft) (setting : Setting) (raw : Datum) :
    Outcome (fun misfit => setting.convert raw = .error misfit)
      (fun d' => setting.convert raw = .ok (d'.get setting) ∧
        ∀ other, other ≠ setting → d'.get other = d.get other) (d.set setting raw) := by
  cases setting with
  | strictDayPairing =>
      simp only [Draft.set, Setting.convert]
      cases readBool? raw with
      | none => exact rfl
      | some b =>
          refine ⟨rfl, fun other hother => ?_⟩
          cases other <;> first | rfl | exact absurd rfl hother
  | defaultCount =>
      simp only [Draft.set, Setting.convert]
      cases readCount raw with
      | error misfit => exact rfl
      | ok n =>
          refine ⟨rfl, fun other hother => ?_⟩
          cases other <;> first | rfl | exact absurd rfl hother
  | _ =>
      simp only [Draft.set, Setting.convert]
      cases readText raw with
      | error misfit => exact rfl
      | ok text =>
          refine ⟨rfl, fun other hother => ?_⟩
          cases other <;> first | rfl | exact absurd rfl hother

end CronSchedule
