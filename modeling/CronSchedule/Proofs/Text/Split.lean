import CronSchedule.Text.Blank
import Mathlib.Tactic.Lemma

/-!
# Splitting and joining texts

Splitting at a character and joining with it are inverse to each other on pieces that do not hold
the character.

* `splitOn_of_notMem`, `splitOn_append` — where the first separator stands.
* `splitOn_eq_nil_iff`, `splitOn_eq_singleton_iff` — texts with no separator and with exactly one.
* **`joinWith_pieces`**, **`pieces_joinWith`** — the two ways round.
-/

namespace CronSchedule.Text

variable {sep : Char} {text first rest a b : List Char}

/-! ## The first separator -/

lemma splitOn_of_notMem (h : sep ∉ text) : splitOn sep text = (text, []) := by
  induction text with
  | nil => rfl
  | cons c rest ih =>
      obtain ⟨hc, hrest⟩ : sep ≠ c ∧ sep ∉ rest := by simpa using h
      simp [splitOn, ih hrest, hc.symm]

lemma splitOn_append (h : sep ∉ first) (rest : List Char) :
    splitOn sep (first ++ sep :: rest) = (first, pieces sep rest) := by
  induction first with
  | nil => simp [splitOn, pieces]
  | cons c more ih =>
      obtain ⟨hc, hmore⟩ : sep ≠ c ∧ sep ∉ more := by simpa using h
      simp [splitOn, ih hmore, hc.symm]

/-- A text has no separator, or a first one. -/
lemma exists_first_separator (sep : Char) (text : List Char) :
    sep ∉ text ∨ ∃ first rest, text = first ++ sep :: rest ∧ sep ∉ first := by
  by_cases h : sep ∈ text
  · obtain ⟨first, rest, rfl, hfirst⟩ := List.eq_append_cons_of_mem h
    exact Or.inr ⟨first, rest, rfl, hfirst⟩
  · exact Or.inl h

lemma pieces_ne_nil (sep : Char) (text : List Char) : pieces sep text ≠ [] := by
  simp [pieces]

lemma pieces_of_notMem (h : sep ∉ text) : pieces sep text = [text] := by
  simp [pieces, splitOn_of_notMem h]

lemma pieces_append (h : sep ∉ first) (rest : List Char) :
    pieces sep (first ++ sep :: rest) = first :: pieces sep rest := by
  simp [pieces, splitOn_append h]

lemma splitOn_eq_nil_iff : splitOn sep text = (a, []) ↔ sep ∉ text ∧ a = text := by
  constructor
  · intro h
    rcases exists_first_separator sep text with hnot | ⟨first, rest, rfl, hfirst⟩
    · rw [splitOn_of_notMem hnot] at h
      exact ⟨hnot, (Prod.mk.inj h).1.symm⟩
    · rw [splitOn_append hfirst] at h
      exact absurd (Prod.mk.inj h).2 (pieces_ne_nil sep rest)
  · rintro ⟨hnot, rfl⟩
    exact splitOn_of_notMem hnot

lemma splitOn_eq_singleton_iff :
    splitOn sep text = (a, [b]) ↔ text = a ++ sep :: b ∧ sep ∉ a ∧ sep ∉ b := by
  constructor
  · intro h
    rcases exists_first_separator sep text with hnot | ⟨first, rest, rfl, hfirst⟩
    · rw [splitOn_of_notMem hnot] at h
      cases (Prod.mk.inj h).2
    · rw [splitOn_append hfirst] at h
      obtain ⟨rfl, hrest⟩ := Prod.mk.inj h
      rcases exists_first_separator sep rest with hnot | ⟨first', rest', rfl, hfirst'⟩
      · rw [pieces_of_notMem hnot] at hrest
        obtain rfl : rest = b := by simpa using hrest
        exact ⟨rfl, hfirst, hnot⟩
      · rw [pieces_append hfirst'] at hrest
        exact absurd (List.cons.inj hrest).2 (pieces_ne_nil sep rest')
  · rintro ⟨rfl, ha, hb⟩
    rw [splitOn_append ha, pieces_of_notMem hb]

/-! ## All pieces -/

lemma pieces_eq_cons_iff {more : List (List Char)} :
    pieces sep text = first :: more ↔ splitOn sep text = (first, more) := by
  simp [pieces, Prod.ext_iff]

lemma joinWith_cons (first : List Char) {more : List (List Char)} (h : more ≠ []) :
    joinWith [sep] (first :: more) = first ++ sep :: joinWith [sep] more := by
  cases more with
  | nil => exact absurd rfl h
  | cons second rest => simp [joinWith]

lemma mem_joinWith {c : Char} {parts : List (List Char)} (h : c ∈ joinWith [sep] parts) :
    c = sep ∨ ∃ part ∈ parts, c ∈ part := by
  induction parts with
  | nil => simp [joinWith] at h
  | cons first more ih =>
      by_cases hnil : more = []
      · subst hnil
        exact Or.inr ⟨first, by simp, h⟩
      · rw [joinWith_cons first hnil] at h
        simp only [List.mem_append, List.mem_cons] at h
        rcases h with h | h | h
        · exact Or.inr ⟨first, by simp, h⟩
        · exact Or.inl h
        · refine (ih h).imp_right ?_
          rintro ⟨part, hpart, hc⟩
          exact ⟨part, List.mem_cons_of_mem _ hpart, hc⟩

lemma infix_joinWith {part : List Char} {parts : List (List Char)} (h : part ∈ parts) :
    part <:+: joinWith [sep] parts := by
  induction parts with
  | nil => cases h
  | cons first more ih =>
      by_cases hnil : more = []
      · subst hnil
        rw [List.mem_singleton.1 h]
        exact List.infix_rfl
      · rw [joinWith_cons first hnil]
        rcases List.mem_cons.1 h with rfl | h
        · exact (List.prefix_append part _).isInfix
        · exact (ih h).trans ((List.suffix_cons sep _).trans (List.suffix_append first _)).isInfix

/-- **The pieces of a text, joined, are the text.** -/
theorem joinWith_pieces (sep : Char) (text : List Char) :
    joinWith [sep] (pieces sep text) = text := by
  induction text with
  | nil => rfl
  | cons c rest ih =>
      rcases hsplit : splitOn sep rest with ⟨first, more⟩
      simp only [pieces, splitOn, hsplit] at ih ⊢
      split
      · rename_i hc
        rw [joinWith_cons [] (List.cons_ne_nil first more), ih, hc, List.nil_append]
      · -- the character goes in front of the first piece, whether others follow or not
        cases more with
        | nil => simpa [joinWith] using ih
        | cons second others => simpa [joinWith] using ih

/-- **Pieces that do not hold the separator are found again in their joined text.** -/
theorem pieces_joinWith {parts : List (List Char)} (hne : parts ≠ [])
    (h : ∀ part ∈ parts, sep ∉ part) : pieces sep (joinWith [sep] parts) = parts := by
  induction parts with
  | nil => exact absurd rfl hne
  | cons first more ih =>
      have hfirst := h first List.mem_cons_self
      have hmore : ∀ part ∈ more, sep ∉ part := fun part hp => h part (List.mem_cons_of_mem _ hp)
      by_cases hnil : more = []
      · subst hnil
        exact pieces_of_notMem hfirst
      · rw [joinWith_cons first hnil, pieces_append hfirst, ih hnil hmore]

end CronSchedule.Text
