import CronSchedule.Proofs.Outcome
import CronSchedule.Proofs.Value
import CronSchedule.Settings.Load

/-!
# The data of files

What is made of a file depends on its data alone, whatever reads it.  Of a reader it is only asked
that no key stands twice in the mappings that it gives.

* `Data.KeysOnce`, `Reader.KeysOnce` — no key stands twice.
* **`fileEntries_distinct`** — the entries of a file have distinct keys.
* `Holds` — the data that a file of a known format holds.
* `readFileEntries_of_holds` — what is made of the data of a file.
-/

namespace CronSchedule

open Text

/-- No key stands twice, if the data is a mapping. -/
def Data.KeysOnce : Datum → Prop
  | .mapping entries => DistinctKeys entries
  | _ => True

/-- No key stands twice in what a reader gives. -/
def Reader.KeysOnce (read : Reader) : Prop :=
  ∀ format text, Outcome (fun _ => True) Data.KeysOnce (read format text)

variable {read : Reader} {path : RawText}

/-! ## Entries of files -/

lemma readDocument_of_format {suffix : RawText} {format : Format}
    (h : Format.ofSuffix? suffix = some format) (text : List Char) :
    readDocument read path suffix text =
      (read format text).mapError (documentError path) >>= fun d =>
        pure (if format.isNothing d then .mapping [] else d) := by
  simp only [readDocument, h]

lemma readDocument_of_no_format {suffix : RawText} (h : Format.ofSuffix? suffix = none)
    (text : List Char) :
    readDocument read path suffix text = .error (.unsupportedFormat suffix) := by
  simp only [readDocument, h]

lemma readDocument_keysOnce (hread : read.KeysOnce) (suffix : RawText) (text : List Char) :
    Outcome (fun _ => True) Data.KeysOnce (readDocument read path suffix text) := by
  cases hformat : Format.ofSuffix? suffix with
  | none =>
      rw [readDocument_of_no_format hformat]
      exact trivial
  | some format =>
      rw [readDocument_of_format hformat]
      refine Outcome.bind (Outcome.mapError (hread format text)) fun d hd => ?_
      split
      case isTrue => exact List.Pairwise.nil
      case isFalse => exact hd

lemma mappingEntries_distinct {d : Datum} (h : d.KeysOnce) :
    Outcome (fun _ => True) DistinctKeys (mappingEntries path d) := by
  cases d with
  | mapping entries => exact h
  | _ => exact trivial

lemma readFileEntries_undecodable {bytes : ByteArray} (h : String.fromUTF8? bytes = none) :
    readFileEntries read path (.file bytes) = .error .fileUndecodable := by
  simp only [readFileEntries, h]

lemma readFileEntries_text {text : String} {bytes : ByteArray}
    (h : String.fromUTF8? bytes = some text) :
    readFileEntries read path (.file bytes) =
      readDocument read path (lowerSuffix path) (normalLines text.toList) >>=
        mappingEntries path := by
  simp only [readFileEntries, h]

lemma readFileEntries_distinct (hread : read.KeysOnce) (found : FileEntry) :
    Outcome (fun _ => True) DistinctKeys (readFileEntries read path found) := by
  cases found with
  | file bytes =>
      cases htext : String.fromUTF8? bytes with
      | none =>
          rw [readFileEntries_undecodable htext]
          exact trivial
      | some text =>
          rw [readFileEntries_text htext]
          exact Outcome.bind (readDocument_keysOnce hread _ _) fun _ h => mappingEntries_distinct h
  | _ => exact trivial

/-- **No key stands twice in the entries of a file.** -/
theorem fileEntries_distinct (hread : read.KeysOnce) (path : Option RawText)
    (lookup : RawText → FileEntry) :
    Outcome (fun _ => True) DistinctKeys (fileEntries read path lookup) := by
  cases path with
  | none => exact List.Pairwise.nil
  | some path => exact readFileEntries_distinct hread (lookup path)

/-! ## Data of files -/

/-- What is found at a path is a file of a known format, which holds data. -/
def Holds (read : Reader) (path : RawText) (found : FileEntry) (format : Format) (d : Datum) :
    Prop :=
  ∃ bytes text, found = .file bytes ∧ String.fromUTF8? bytes = some text ∧
    Format.ofSuffix? (lowerSuffix path) = some format ∧
    read format (normalLines text.toList) = .ok d

/-- The entries of a file are those of its data, or none if that stands for an empty mapping. -/
lemma readFileEntries_of_holds {found : FileEntry} {format : Format} {d : Datum}
    (h : Holds read path found format d) :
    readFileEntries read path found =
      if format.isNothing d then .ok [] else mappingEntries path d := by
  obtain ⟨bytes, text, rfl, htext, hformat, hdata⟩ := h
  rw [readFileEntries_text htext, readDocument_of_format hformat, hdata, mapError_ok, ok_bind]
  split <;> rfl

end CronSchedule
