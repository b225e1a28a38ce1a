import CronSchedule.Proofs.Settings.Layers
import Mathlib.Data.Set.List

/-!
# Errors that are not about the configuration

Where there are no settings, the error should be one of configuration.  A few others escape, each
from one step: looking at the path, decoding the file, a reader that fails with an error that is not
its own, listing the keys that are not known, and converting or showing a value.

* `Misfit.errorKind`, `convert_eq_failed_iff` — the class of the error for a value that is not
  converted.
* `kindOf_unknownKeysError` — that for keys that are not known.
* `ofEntries_eq_error` — why entries give no settings.
* `EntriesEscape`, `ofEntries_escapes` — the errors of entries that are not of configuration.
* `FileEscapes`, `readFileEntries_escapes` — those of a file.
* **`settings_escapes`** — those of loading settings.
-/

namespace CronSchedule

open Text

variable {setting : Setting} {raw : Datum} {kind : ErrorKind} {e : SettingsError} {depth : Nat}
  {misfit : Misfit} {entries : List (Datum × Datum)}

/-! ## Values that are not converted -/

/-- The class of the error for a value that is not converted. -/
def Misfit.errorKind (depth : Nat) (raw : Datum) : Misfit → ErrorKind
  | .refused => (raw.obstacle? depth).elim .configuration Obstacle.kind
  | .failed kind => kind

lemma kindOf_error (depth : Nat) (setting : Setting) (raw : Datum) (misfit : Misfit) :
    (misfit.error depth setting raw).kindOf = misfit.errorKind depth raw := by
  cases misfit with
  | refused =>
      rw [Misfit.error, Misfit.errorKind]
      cases raw.obstacle? depth <;> rfl
  | failed kind => rfl

lemma spelled_ne_failed (n? : Option Int) : readCount.spelled n? ≠ .error (.failed kind) := by
  cases n? <;> exact nofun

/-- Only making an integer of an infinite number or of an object fails otherwise than by refusing
the value. -/
lemma convert_eq_failed_iff : setting.convert raw = .error (.failed kind) ↔
    setting = .defaultCount ∧
      ((∃ negative, raw = .real (.infinite negative) ∧ kind = .overflow) ∨
        ∃ o, raw = .other (.object o) ∧ o.integer = .error kind ∧ kind.isMismatch = false) := by
  constructor
  · intro h
    cases setting with
    | defaultCount =>
        have hcount : readCount raw = .error (.failed kind) := by
          simp only [Setting.convert] at h
          cases hcount : readCount raw with
          | ok n => simp [hcount, Except.map] at h
          | error misfit => simpa [hcount, Except.map] using h
        refine ⟨rfl, ?_⟩
        unfold readCount at hcount
        split at hcount
        case h_1 | h_3 | h_7 => cases hcount
        case h_2 | h_5 => exact absurd hcount (spelled_ne_failed _)
        case h_4 negative =>
          cases hcount
          exact Or.inl ⟨negative, rfl, rfl⟩
        case h_6 o =>
          refine Or.inr ⟨o, rfl, ?_⟩
          cases hinteger : o.integer with
          | ok n => simp [hinteger] at hcount
          | error kind' =>
              simp only [hinteger, mapError_error, Except.error.injEq, Misfit.ofKind] at hcount
              split at hcount
              case isTrue => cases hcount
              case isFalse hmismatch =>
                cases hcount
                exact ⟨rfl, Bool.eq_false_iff.2 hmismatch⟩
    | strictDayPairing =>
        simp only [Setting.convert] at h
        split at h <;> cases h
    | _ =>
        simp only [Setting.convert, readText] at h
        split at h <;> cases h
  · rintro ⟨rfl, ⟨negative, rfl, rfl⟩ | ⟨o, rfl, hinteger, hmismatch⟩⟩
    · rfl
    · simp [Setting.convert, readCount, hinteger, Except.map, Misfit.ofKind, hmismatch]

/-! ## Keys that are not known -/

lemma text?_datum (text : RawText) : text.datum.text? = some text := by
  cases text <;> rfl

lemma exists_datum {d : Datum} (h : d.text? ≠ none) : ∃ text : RawText, text.datum = d := by
  cases d with
  | text s => exact ⟨.whole s, rfl⟩
  | other x =>
      cases x with
      | broken t => exact ⟨.broken t, rfl⟩
      | _ => exact absurd rfl h
  | _ => exact absurd rfl h

lemma comparable_texts (a b : RawText) : comparable a.datum b.datum = true := by
  simp [comparable, text?_datum]

lemma firstIncomparable?_texts (texts : List RawText) :
    firstIncomparable? (texts.map RawText.datum) = none := by
  induction texts with
  | nil => rfl
  | cons first rest ih =>
      cases rest with
      | nil => rfl
      | cons second rest =>
          rw [List.map_cons, List.map_cons, firstIncomparable?, if_pos (comparable_texts _ _)]
          exact ih

lemma mapM_text?_texts (texts : List RawText) :
    (texts.map RawText.datum).mapM Data.text? = some texts := by
  induction texts with
  | nil => rfl
  | cons first rest ih => simp [List.mapM_cons, ih, text?_datum]

/-- Texts can be put in order and listed. -/
lemma kindOf_unknownKeysError_texts {keys : List Datum} (h : ∀ key ∈ keys, key.text? ≠ none) :
    (unknownKeysError keys).kindOf = .configuration := by
  obtain ⟨texts, rfl⟩ : keys ∈ Set.range (List.map RawText.datum) := by
    rw [Set.range_list_map]
    intro key hkey
    exact exists_datum (h key hkey)
  rw [unknownKeysError, firstIncomparable?_texts, mapM_text?_texts]
  rfl

/-- Keys of which one is no text cannot be put in order or cannot be listed. -/
lemma kindOf_unknownKeysError_other {keys : List Datum} {key : Datum} (hkey : key ∈ keys)
    (h : key.text? = none) : (unknownKeysError keys).kindOf = .wrongType := by
  have hnone : keys.mapM Data.text? = none := by
    obtain ⟨before, after, rfl⟩ := List.append_of_mem hkey
    simp [List.mapM_append, List.mapM_cons, h]
  rw [unknownKeysError, hnone]
  cases firstIncomparable? keys <;> rfl

lemma settingOf?_of_not_text {key : Datum} (h : key.text? = none) : settingOf? key = none := by
  cases key with
  | text text => cases h
  | _ => rfl

lemma checkKeys_kind (h : checkKeys entries = .error e) :
    ((∀ entry ∈ entries, entry.1.text? ≠ none) ∧ e.kindOf = .configuration) ∨
      ((∃ entry ∈ entries, entry.1.text? = none) ∧ e.kindOf = .wrongType) := by
  simp only [checkKeys] at h
  split at h
  case isTrue => cases h
  case isFalse =>
    obtain rfl := Except.error.inj h
    by_cases htexts : ∀ entry ∈ entries, entry.1.text? ≠ none
    · refine Or.inl ⟨htexts, kindOf_unknownKeysError_texts fun key hkey => ?_⟩
      obtain ⟨entry, hentry, rfl⟩ := List.mem_map.1 (List.mem_of_mem_filter hkey)
      exact htexts entry hentry
    · push Not at htexts
      obtain ⟨entry, hentry, hother⟩ := htexts
      refine Or.inr ⟨⟨entry, hentry, hother⟩, kindOf_unknownKeysError_other ?_ hother⟩
      rw [List.mem_filter, settingOf?_of_not_text hother]
      exact ⟨List.mem_map_of_mem hentry, rfl⟩

/-! ## Errors of entries -/

lemma ofEntries_of_firstRefused (hknown : KnownKeys entries)
    (hfirst : FirstRefused entries setting raw) (hmisfit : setting.convert raw = .error misfit) :
    Settings.ofEntries depth entries = .error (misfit.error depth setting raw) := by
  rw [Settings.ofEntries, checkKeys_eq_ok_iff.2 hknown, ok_bind,
    setAll_eq_error_iff.2 ⟨setting, raw, hfirst, misfit, hmisfit, rfl⟩, error_bind]

/-- Entries give no settings because of a key, because of a value, or because of the check. -/
lemma ofEntries_eq_error (h : Settings.ofEntries depth entries = .error e) :
    checkKeys entries = .error e ∨ (KnownKeys entries ∧
      ((∃ setting raw, FirstRefused entries setting raw ∧ setting.Refuses depth raw e) ∨
        ∃ faults, e = .invalid faults)) := by
  rw [Settings.ofEntries] at h
  cases hkeys : checkKeys entries with
  | error e' => exact Or.inl (by simpa [hkeys] using h)
  | ok _ =>
      refine Or.inr ⟨checkKeys_eq_ok_iff.1 hkeys, ?_⟩
      rw [hkeys, ok_bind] at h
      cases hdraft : Draft.initial.setAll depth entries with
      | error e' =>
          rw [hdraft] at h
          exact Or.inl (setAll_eq_error_iff.1 (Except.error.inj h ▸ hdraft))
      | ok d =>
          rw [hdraft, ok_bind] at h
          cases hcheck : d.check with
          | ok s => simp [hcheck] at h
          | error faults =>
              rw [hcheck] at h
              exact Or.inr ⟨faults, (Except.error.inj h).symm⟩

/-- Entries give no settings, and the error is of a class other than that of configuration. -/
inductive EntriesEscape (depth : Nat) (entries : List (Datum × Datum)) : ErrorKind → Prop
  /-- A key is no text. -/
  | key {entry : Datum × Datum} : entry ∈ entries → entry.1.text? = none →
      EntriesEscape depth entries .wrongType
  /-- The first value that is not converted is an infinite number of fire times. -/
  | infinite {negative : Bool} : KnownKeys entries →
      FirstRefused entries .defaultCount (.real (.infinite negative)) →
      EntriesEscape depth entries .overflow
  /-- It is an object of which no integer can be made, and not because of its type or its value. -/
  | integer {o : Object} {kind : ErrorKind} : KnownKeys entries →
      FirstRefused entries .defaultCount (.other (.object o)) →
      o.integer = .error kind → kind.isMismatch = false → EntriesEscape depth entries kind
  /-- It is refused and cannot be shown: it has an integer with too many digits, is nested too
  deeply, or has an object that cannot be shown. -/
  | hidden {setting : Setting} {raw : Datum} {obstacle : Obstacle} : KnownKeys entries →
      FirstRefused entries setting raw → setting.convert raw = .error .refused →
      raw.obstacle? depth = some obstacle → EntriesEscape depth entries obstacle.kind

lemma EntriesEscape.of_firstRefused (hknown : KnownKeys entries)
    (hfirst : FirstRefused entries setting raw) (hmisfit : setting.convert raw = .error misfit)
    (hkind : misfit.errorKind depth raw ≠ .configuration) :
    EntriesEscape depth entries (misfit.errorKind depth raw) := by
  cases misfit with
  | refused =>
      rw [Misfit.errorKind] at hkind ⊢
      cases hobstacle : raw.obstacle? depth with
      | none => simp [hobstacle] at hkind
      | some obstacle => exact .hidden hknown hfirst hmisfit hobstacle
  | failed kind =>
      obtain ⟨rfl, ⟨negative, rfl, rfl⟩ | ⟨o, rfl, hinteger, hmismatch⟩⟩ :=
        convert_eq_failed_iff.1 hmisfit
      · exact .infinite hknown hfirst
      · exact .integer hknown hfirst hinteger hmismatch

/-- The error for the first value that is not converted is of the class of its misfit. -/
lemma exists_error_of_firstRefused (hknown : KnownKeys entries)
    (hfirst : FirstRefused entries setting raw) (hmisfit : setting.convert raw = .error misfit) :
    ∃ e, Settings.ofEntries depth entries = .error e ∧ e.kindOf = misfit.errorKind depth raw :=
  ⟨_, ofEntries_of_firstRefused hknown hfirst hmisfit, kindOf_error depth setting raw misfit⟩

/-- **Entries are refused with an error of configuration, unless a key is no text, or the first
value that is not converted is an infinite number of fire times, an object that fails, or cannot be
shown.** -/
theorem ofEntries_escapes (hkind : kind ≠ .configuration) :
    (∃ e, Settings.ofEntries depth entries = .error e ∧ e.kindOf = kind) ↔
      EntriesEscape depth entries kind := by
  constructor
  · rintro ⟨e, he, rfl⟩
    obtain hkeys | ⟨hknown, ⟨setting, raw, hfirst, misfit, hmisfit, rfl⟩ | ⟨faults, rfl⟩⟩ :=
      ofEntries_eq_error he
    · obtain ⟨-, hconfiguration⟩ | ⟨⟨entry, hentry, hother⟩, hwrong⟩ := checkKeys_kind hkeys
      · exact absurd hconfiguration hkind
      · rw [hwrong]
        exact .key hentry hother
    · rw [kindOf_error] at hkind ⊢
      exact .of_firstRefused hknown hfirst hmisfit hkind
    · exact absurd rfl hkind
  · intro h
    cases h with
    | key hentry hother =>
        cases hkeys : checkKeys entries with
        | ok _ =>
            have hknown := checkKeys_eq_ok_iff.1 hkeys _ hentry
            rw [settingOf?_of_not_text hother] at hknown
            cases hknown
        | error e =>
            obtain ⟨htexts, -⟩ | ⟨-, hwrong⟩ := checkKeys_kind hkeys
            · exact absurd hother (htexts _ hentry)
            · exact ⟨e, by rw [Settings.ofEntries, hkeys, error_bind], hwrong⟩
    | @infinite negative hknown hfirst =>
        have hfailed := convert_eq_failed_iff.2 ⟨rfl, Or.inl ⟨negative, rfl, rfl⟩⟩
        exact exists_error_of_firstRefused hknown hfirst hfailed
    | @integer o _ hknown hfirst hinteger hmismatch =>
        have hfailed := convert_eq_failed_iff.2 ⟨rfl, Or.inr ⟨o, rfl, hinteger, hmismatch⟩⟩
        exact exists_error_of_firstRefused hknown hfirst hfailed
    | @hidden setting raw obstacle hknown hfirst hrefused hobstacle =>
        have hclass : Misfit.refused.errorKind depth raw = obstacle.kind := by
          rw [Misfit.errorKind, hobstacle]
          rfl
        exact hclass ▸ exists_error_of_firstRefused hknown hfirst hrefused

/-! ## Errors of files -/

section File

variable {read : Reader} {path : RawText} {found : FileEntry}

/-- A file gives no entries, and the error is of a class other than that of configuration. -/
inductive FileEscapes (read : Reader) (path : RawText) : FileEntry → ErrorKind → Prop
  /-- It cannot be found out what is at the path. -/
  | inaccessible : FileEscapes read path .inaccessible .system
  /-- The file is not encoded in UTF-8. -/
  | undecodable {bytes : ByteArray} : String.fromUTF8? bytes = none →
      FileEscapes read path (.file bytes) .encoding
  /-- The reader of the format fails with an error that is not its own, nor one of the system. -/
  | foreign {bytes : ByteArray} {text : String} {format : Format} {kind : ErrorKind}
      {message : String} : String.fromUTF8? bytes = some text →
      Format.ofSuffix? (lowerSuffix path) = some format →
      read format (normalLines text.toList) = .error (.foreign kind message) → kind ≠ .system →
      FileEscapes read path (.file bytes) kind

lemma mappingEntries_kind {d : Datum} (h : mappingEntries path d = .error e) :
    e.kindOf = .configuration := by
  cases d with
  | mapping entries => cases h
  | _ => exact Except.error.inj h ▸ rfl

lemma documentError_kind (path : RawText) (failure : ReadFailure) :
    (documentError path failure).kindOf = .configuration ∨
      ∃ kind message, failure = .foreign kind message ∧ kind ≠ .system ∧
        (documentError path failure).kindOf = kind := by
  cases failure with
  | malformed => exact Or.inl rfl
  | foreign kind message =>
      by_cases hsystem : kind = .system
      · subst hsystem
        exact Or.inl rfl
      · refine Or.inr ⟨kind, message, rfl, hsystem, ?_⟩
        rw [documentError.eq_3 _ _ _ hsystem]
        rfl

lemma readDocument_kind {suffix : RawText} {text : List Char}
    (h : readDocument read path suffix text = .error e) : e.kindOf = .configuration ∨
      ∃ format kind message, Format.ofSuffix? suffix = some format ∧
        read format text = .error (.foreign kind message) ∧ kind ≠ .system ∧ e.kindOf = kind := by
  cases hformat : Format.ofSuffix? suffix with
  | none =>
      rw [readDocument_of_no_format hformat] at h
      exact Or.inl (Except.error.inj h ▸ rfl)
  | some format =>
      rw [readDocument_of_format hformat] at h
      cases hread : read format text with
      | ok d => simp [hread] at h
      | error failure =>
          rw [hread] at h
          obtain rfl := Except.error.inj h
          obtain hconfiguration | ⟨kind, message, rfl, hsystem, hkind⟩ :=
            documentError_kind path failure
          · exact Or.inl hconfiguration
          · exact Or.inr ⟨format, kind, message, rfl, hread, hsystem, hkind⟩

/-- **A file is refused with an error of configuration, unless its path cannot be looked at, its
bytes are no text, or its reader fails with an error that is not its own.** -/
theorem readFileEntries_escapes (hkind : kind ≠ .configuration) :
    (∃ e, readFileEntries read path found = .error e ∧ e.kindOf = kind) ↔
      FileEscapes read path found kind := by
  constructor
  · rintro ⟨e, he, rfl⟩
    cases found with
    | inaccessible => exact Except.error.inj he ▸ .inaccessible
    | absent | directory | denied => exact absurd (Except.error.inj he ▸ rfl) hkind
    | file bytes =>
        cases htext : String.fromUTF8? bytes with
        | none =>
            rw [readFileEntries_undecodable htext] at he
            exact Except.error.inj he ▸ .undecodable htext
        | some text =>
            rw [readFileEntries_text htext] at he
            cases hdocument : readDocument read path (lowerSuffix path)
                (normalLines text.toList) with
            | ok d =>
                rw [hdocument] at he
                exact absurd (mappingEntries_kind he) hkind
            | error e' =>
                rw [hdocument] at he
                obtain rfl := Except.error.inj he
                obtain hconfiguration | ⟨format, kind, message, hformat, hread, hsystem, hclass⟩ :=
                  readDocument_kind hdocument
                · exact absurd hconfiguration hkind
                · rw [hclass]
                  exact .foreign htext hformat hread hsystem
  · intro h
    cases h with
    | inaccessible => exact ⟨_, rfl, rfl⟩
    | undecodable htext => exact ⟨_, readFileEntries_undecodable htext, rfl⟩
    | @foreign _ _ _ _ message htext hformat hread hsystem =>
        refine ⟨.readerFailed kind message, ?_, rfl⟩
        rw [readFileEntries_text htext, readDocument_of_format hformat, hread, mapError_error,
          documentError.eq_3 _ _ _ hsystem, error_bind, error_bind]

end File

/-! ## Errors of loading -/

section Load

variable {read : Reader} {path : Option RawText} {environment : List (String × RawText)}
  {lookup : RawText → FileEntry}

/-- There are no settings, and the error is of a class other than that of configuration. -/
inductive SettingsEscape (read : Reader) (depth : Nat) (path : Option RawText)
    (environment : List (String × RawText)) (lookup : RawText → FileEntry) : ErrorKind → Prop
  /-- The error is that of the file. -/
  | file {chosen : RawText} {kind : ErrorKind} :
      chosenPath? path environment = some chosen → FileEscapes read chosen (lookup chosen) kind →
      SettingsEscape read depth path environment lookup kind
  /-- The error is that of the entries of the file and the environment. -/
  | entries {entries : List (Datum × Datum)} {kind : ErrorKind} :
      fileEntries read (chosenPath? path environment) lookup = .ok entries →
      EntriesEscape depth (putAll entries (environmentEntries environment)) kind →
      SettingsEscape read depth path environment lookup kind

lemma load_escapes (hkind : kind ≠ .configuration) :
    (∃ e, Settings.load read depth path environment lookup = .error e ∧ e.kindOf = kind) ↔
      SettingsEscape read depth path environment lookup kind := by
  constructor
  · rintro ⟨e, he, rfl⟩
    cases hfile : fileEntries read (chosenPath? path environment) lookup with
    | ok entries =>
        rw [load_eq hfile] at he
        exact .entries hfile ((ofEntries_escapes hkind).1 ⟨e, he, rfl⟩)
    | error e' =>
        rw [Settings.load, hfile] at he
        obtain rfl := Except.error.inj he
        cases hchosen : chosenPath? path environment with
        | none =>
            rw [hchosen] at hfile
            cases hfile
        | some chosen =>
            rw [hchosen] at hfile
            exact .file hchosen ((readFileEntries_escapes hkind).1 ⟨e', hfile, rfl⟩)
  · intro h
    cases h with
    | file hchosen hfile =>
        obtain ⟨e, he, hkind⟩ := (readFileEntries_escapes hkind).2 hfile
        refine ⟨e, ?_, hkind⟩
        rw [Settings.load, hchosen, fileEntries, he]
        rfl
    | entries hfile hentries =>
        rw [load_eq hfile]
        exact (ofEntries_escapes hkind).2 hentries

/-- **Which errors of loading, and of entries, are not of configuration**, whatever reads the files.
There is one way to each: `system` for a path that cannot be looked at, `encoding` for a file that
is no text, `wrongType` for a key that is no text, `overflow` for an infinite number of fire times,
the error of an object of which no integer can be made, and that of a value that cannot be shown:
`wrongValue` for an integer with too many digits and `recursion` for data that is nested too deeply.
A reader may also fail with an error that is not its own.  In all other cases there are settings, or
there is an error of configuration. -/
theorem settings_escapes (read : Reader) (depth : Nat) (path : Option RawText)
    (environment : List (String × RawText)) (lookup : RawText → FileEntry)
    (entries : List (Datum × Datum)) (kind : ErrorKind) (hkind : kind ≠ .configuration) :
    ((∃ e, Settings.load read depth path environment lookup = .error e ∧ e.kindOf = kind) ↔
      SettingsEscape read depth path environment lookup kind) ∧
    ((∃ e, Settings.ofEntries depth entries = .error e ∧ e.kindOf = kind) ↔
      EntriesEscape depth entries kind) :=
  ⟨load_escapes hkind, ofEntries_escapes hkind⟩

/-- A file that is no text, a key that is a byte string, and a list that is nested too deeply. -/
theorem settings_escapes_no_text :
    (∃ e, Settings.load .standard messageDepth (some "c.yaml") [] (fun _ => .file ⟨#[0xff]⟩) =
      .error e ∧ e.kindOf = .encoding) ∧
    (∃ e, Settings.ofEntries messageDepth [(.other (.bytes [0x61]), .integer 1)] = .error e ∧
      e.kindOf = .wrongType) ∧
    ∃ e, Settings.ofEntries 2 [(.text "log_level", .list [.list [.list []]])] = .error e ∧
      e.kindOf = .recursion := by
  refine ⟨?file, ?key, ?nested⟩
  case file =>
    refine (settings_escapes _ _ _ _ _ [] .encoding (by decide)).1.2 (.file rfl (.undecodable ?_))
    decide +kernel
  case key =>
    exact (settings_escapes .standard _ none [] (fun _ => .absent) _ .wrongType (by decide)).2.2
      (.key List.mem_cons_self rfl)
  case nested =>
    have hnested : Data.obstacle? 2 (.list [.list [.list []]]) = some .depth := rfl
    have hfirst : FirstRefused [(.text "log_level", .list [.list [.list []]])] .logLevel
        (.list [.list [.list []]]) := by
      refine ⟨[], [], rfl, by simp, fun hconverts => ?_⟩
      obtain ⟨value, hvalue⟩ := converts_name.1 hconverts
      cases hvalue
    exact (settings_escapes .standard _ none [] (fun _ => .absent) _ .recursion (by decide)).2.2
      (.hidden (List.forall_mem_singleton.2 rfl) hfirst rfl hnested)

/-- An infinite number of fire times and a file that is no text are refused with errors that are not
of configuration. -/
theorem settings_escape_infinite :
    let infinite : RawText → FileEntry := fun _ => .file "default_count: .inf".toUTF8
    let undecodable : RawText → FileEntry := fun _ => .file ⟨#[0xff]⟩
    let outcome := fun lookup =>
      (Settings.load .standard messageDepth (some "c.yaml") [] lookup).mapError (·.kindOf)
    outcome infinite = .error .overflow ∧ outcome undecodable = .error .encoding := by
  decide +kernel

end Load

end CronSchedule
