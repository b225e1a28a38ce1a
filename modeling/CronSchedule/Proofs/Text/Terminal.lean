import CronSchedule.Json.Writer
import CronSchedule.Text.Terminal
import Mathlib.Tactic.Lemma
import Mathlib.Tactic.SplitIfs

/-!
# Text that is printed as it is

Printing changes nothing in a text without escape characters, and JSON has none: it spells out
every character that is not printable ASCII.

* `withoutControls_eq_self`, **`printed_plain`** — what is printed of lines without escape
  characters.
* **`escape_notMem_write`** — a JSON list of texts has no escape character.
-/

namespace CronSchedule

open Text

/-- The character with which a control sequence begins. -/
def escapeCharacter : Char := '\x1b'

namespace Text

variable {text : List Char}

lemma afterControl?_of_ne {c : Char} {rest : List Char} (h : c ≠ escapeCharacter) :
    afterControl? (c :: rest) = none := by
  rw [afterControl?]
  rintro inner heq
  exact h (List.cons.inj heq).1

/-- **A text without escape characters has no control sequences.** -/
theorem withoutControls_eq_self (h : escapeCharacter ∉ text) : withoutControls text = text := by
  induction text with
  | nil => rw [withoutControls]
  | cons c rest ih =>
      rw [List.mem_cons, not_or] at h
      have hnone := @afterControl?_of_ne c rest (Ne.symm h.1)
      rw [withoutControls]
      split
      case h_1 heq =>
        rw [hnone] at heq
        cases heq
      case h_2 => rw [ih h.2]

/-- **Lines without escape characters are printed as they are**, each with an end. -/
theorem printed_plain {lines : List String} (h : ∀ line ∈ lines, escapeCharacter ∉ line.toList) :
    printed lines = String.join (lines.map (· ++ "\n")) := by
  rw [printed]
  congr 1
  apply List.map_congr_left
  intro line hline
  rw [withoutControls_eq_self (h line hline), String.ofList_toList]

lemma printed_line {line : String} (h : escapeCharacter ∉ line.toList) :
    printed [line] = line ++ "\n" := by
  rw [printed_plain (List.forall_mem_singleton.2 h)]
  simp [String.join]

lemma notMem_joinWith {c : Char} {separator : List Char} {parts : List (List Char)}
    (hseparator : c ∉ separator) (h : ∀ part ∈ parts, c ∉ part) :
    c ∉ joinWith separator parts := by
  induction parts using joinWith.induct with
  | case1 => exact List.not_mem_nil
  | case2 part => exact h part (List.mem_singleton_self part)
  | case3 part more hmore ih =>
      have hrest := ih fun other hother => h other (List.mem_cons_of_mem _ hother)
      rw [joinWith]
      · simp [h part List.mem_cons_self, hseparator, hrest]
      · exact hmore

end Text

/-! ## JSON -/

namespace Json

lemma escape_notMem_toDigits (n : Nat) : escapeCharacter ∉ Nat.toDigits 16 n := by
  have hdigit (d : Nat) : escapeCharacter ≠ d.digitChar :=
    (Nat.digitChar_ne escapeCharacter (by decide)).symm
  induction n using Nat.strongRecOn with
  | ind n ih =>
      rw [Nat.toDigits_eq_if (by decide)]
      split_ifs with hlt
      · simpa using hdigit n
      · have hrest := ih (n / 16) (by omega)
        simpa [hrest] using hdigit (n % 16)

lemma escape_notMem_escapeUnit (unit : Nat) : escapeCharacter ∉ escapeUnit unit := by
  have hdigits := escape_notMem_toDigits unit
  simp only [escapeUnit, hexadecimal, List.mem_cons, List.mem_append, List.mem_replicate]
  rintro (h | h | ⟨-, h⟩ | h)
  · exact absurd h (by decide)
  · exact absurd h (by decide)
  · exact absurd h (by decide)
  · exact hdigits h

/-- The escape character itself is spelled out, like all that is not printable. -/
lemma escape_notMem_escapeChar (c : Char) : escapeCharacter ∉ escapeChar c := by
  unfold escapeChar
  dsimp only
  split_ifs with _ _ _ _ _ _ _ hrange
  all_goals try decide
  · -- a printable character stands for itself
    rw [List.mem_singleton]
    rintro rfl
    exact absurd hrange (by decide)
  · exact escape_notMem_escapeUnit _
  · rw [List.mem_append, not_or]
    exact ⟨escape_notMem_escapeUnit _, escape_notMem_escapeUnit _⟩

lemma escape_notMem_writeText (text : List Char) : escapeCharacter ∉ writeText text := by
  have hchars : escapeCharacter ∉ text.flatMap escapeChar := by
    rw [List.mem_flatMap]
    rintro ⟨c, -, hc⟩
    exact escape_notMem_escapeChar c hc
  rw [writeText, List.mem_append, List.mem_cons, List.mem_singleton]
  rintro ((h | h) | h)
  · exact absurd h (by decide)
  · exact hchars h
  · exact absurd h (by decide)

lemma writeItems_eq_map (items : List Value) : writeItems items = items.map write := by
  induction items with
  | nil => rw [writeItems, List.map_nil]
  | cons item rest ih => rw [writeItems, ih, List.map_cons]

/-- **A JSON list of texts has no escape character.** -/
theorem escape_notMem_write (texts : List String) :
    escapeCharacter ∉ (writeString (.list (texts.map .text))).toList := by
  rw [writeString, String.toList_ofList, write, writeItems_eq_map, List.map_map]
  have hitems : escapeCharacter ∉ joinWith [',', ' '] (texts.map (write ∘ .text)) := by
    refine notMem_joinWith (by decide) ?_
    intro item hitem
    obtain ⟨text, -, rfl⟩ := List.mem_map.1 hitem
    rw [Function.comp_apply, write]
    exact escape_notMem_writeText text.toList
  rw [List.mem_append, List.mem_cons, List.mem_singleton]
  rintro ((h | h) | h)
  · exact absurd h (by decide)
  · exact hitems h
  · exact absurd h (by decide)

end Json

end CronSchedule
