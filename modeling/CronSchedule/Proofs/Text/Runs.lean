import CronSchedule.Proofs.Text.Words
import Mathlib.Data.List.Basic

/-!
# Words are the maximal runs without a blank

A text begins with a blank, or with a word that a blank or nothing comes after; so what is said of
texts can be shown by an induction that takes a whole word at a time.

* `wordInduction` — the induction.
* `wordsFrom_append` — the words of a text that is cut at a blank.
* `wordTexts` — the words alone; blanks around a text and longer gaps do not change them.
* **`mem_words_iff`**, `pairwise_words` — the words are the maximal runs, each once and in order.
-/

namespace CronSchedule.Text

variable {text rest word : List Char} {c : Char} {position : Nat}

/-! ## Texts, a word at a time -/

/-- A text whose first character is no blank begins with a word: a blank comes after it, or
nothing. -/
lemma exists_leading_word (hc : isBlank c = false) (rest : List Char) :
    ∃ word after, c :: rest = word ++ after ∧ word ≠ [] ∧ (∀ d ∈ word, isBlank d = false) ∧
      ∀ d more, after = d :: more → isBlank d = true := by
  induction rest generalizing c with
  | nil => exact ⟨[c], [], rfl, List.cons_ne_nil c [], by simpa using hc, nofun⟩
  | cons d rest ih =>
      cases hd : isBlank d with
      | true =>
          refine ⟨[c], d :: rest, rfl, List.cons_ne_nil c [], by simpa using hc, ?_⟩
          rintro _ _ ⟨⟩
          exact hd
      | false =>
          obtain ⟨word, after, htext, -, hword, hafter⟩ := ih hd
          refine ⟨c :: word, after, by rw [htext]; rfl, List.cons_ne_nil c word, ?_, hafter⟩
          exact List.forall_mem_cons.2 ⟨hc, hword⟩

/-- A text is empty, or begins with a blank, or with a word after which a blank comes or nothing. -/
@[elab_as_elim]
lemma wordInduction {motive : List Char → Prop} (nil : motive [])
    (blank : ∀ c rest, isBlank c = true → motive rest → motive (c :: rest))
    (word : ∀ word rest, word ≠ [] → (∀ c ∈ word, isBlank c = false) →
      (∀ c more, rest = c :: more → isBlank c = true) → motive rest → motive (word ++ rest))
    (text : List Char) : motive text := by
  -- a step takes off a whole word, so the induction is on the length
  induction hlength : text.length using Nat.strongRecOn generalizing text with
  | ind n ih =>
      subst hlength
      cases text with
      | nil => exact nil
      | cons c rest =>
          cases hc : isBlank c with
          | true => exact blank c rest hc (ih rest.length (Nat.lt_succ_self _) rest rfl)
          | false =>
              obtain ⟨first, after, htext, hne, hfirst, hafter⟩ := exists_leading_word hc rest
              rw [htext] at ih ⊢
              refine word first after hne hfirst hafter (ih after.length ?_ after rfl)
              rw [List.length_append]
              exact Nat.lt_add_of_pos_left (List.length_pos_iff.2 hne)

/-! ## Words of parts -/

/-- The words of a text that is cut at a blank. -/
lemma wordsFrom_append (before : List Char) (hc : isBlank c = true) (after : List Char) :
    wordsFrom position (before ++ c :: after) =
      wordsFrom position before ++ wordsFrom (position + before.length + 1) after := by
  induction before using wordInduction generalizing position with
  | nil => exact wordsFrom_blank hc
  | blank d rest hd ih =>
      rw [List.cons_append, wordsFrom_blank hd, ih, wordsFrom_blank hd, List.length_cons,
        Nat.add_right_comm position 1, Nat.add_assoc position]
  | word word rest hne hword hrest ih =>
      have hcut : ∀ d more, rest ++ c :: after = d :: more → isBlank d = true := by
        intro d more hmore
        cases rest with
        | nil => exact (List.cons.inj hmore).1 ▸ hc
        | cons first others => exact (List.cons.inj hmore).1 ▸ hrest first others rfl
      rw [List.append_assoc, wordsFrom_word hne hword hcut, ih, wordsFrom_word hne hword hrest,
        List.cons_append, List.length_append, Nat.add_assoc position]

/-- The words of a text, without their positions. -/
def wordTexts (text : List Char) : List (List Char) :=
  (words text).map Prod.snd

/-- The words do not depend on where the text begins. -/
lemma wordTexts_wordsFrom (position : Nat) (text : List Char) :
    (wordsFrom position text).map Prod.snd = wordTexts text := by
  have hany : ∀ start, (wordsFrom position text).map Prod.snd =
      (wordsFrom start text).map Prod.snd := by
    induction text using wordInduction generalizing position with
    | nil => exact fun _ => rfl
    | blank c rest hc ih =>
        intro start
        rw [wordsFrom_blank hc, wordsFrom_blank hc, ih]
    | word word rest hne hword hrest ih =>
        intro start
        rw [wordsFrom_word hne hword hrest, wordsFrom_word hne hword hrest, List.map_cons,
          List.map_cons, ih]
  exact hany 0

lemma wordTexts_append (before : List Char) (hc : isBlank c = true) (after : List Char) :
    wordTexts (before ++ c :: after) = wordTexts before ++ wordTexts after := by
  rw [wordTexts, words, wordsFrom_append before hc, List.map_append, wordTexts_wordsFrom,
    wordTexts_wordsFrom]

lemma wordTexts_word (hne : word ≠ []) (hword : ∀ c ∈ word, isBlank c = false) :
    wordTexts word = [word] := by
  have hfound := @wordsFrom_word [] word 0 hne hword nofun
  rw [List.append_nil] at hfound
  rw [wordTexts, words, hfound]
  rfl

/-- Blanks between two parts of a text separate their words. -/
lemma wordTexts_gap (before : List Char) {gap : List Char} (hne : gap ≠ [])
    (hgap : ∀ c ∈ gap, isBlank c = true) (after : List Char) :
    wordTexts (before ++ gap ++ after) = wordTexts before ++ wordTexts after := by
  induction gap generalizing before with
  | nil => exact absurd rfl hne
  | cons c more ih =>
      obtain ⟨hc, hmore⟩ := List.forall_mem_cons.1 hgap
      rw [List.append_assoc, List.cons_append, wordTexts_append before hc]
      by_cases hnil : more = []
      · subst hnil
        rfl
      · exact congrArg _ (ih [] hnil hmore)

/-- Blanks around a text do not change its words. -/
lemma wordTexts_margin {lead trail : List Char} (hlead : ∀ c ∈ lead, isBlank c = true)
    (htrail : ∀ c ∈ trail, isBlank c = true) (text : List Char) :
    wordTexts (lead ++ text ++ trail) = wordTexts text := by
  have hleft : wordTexts (lead ++ text) = wordTexts text := by
    by_cases hnil : lead = []
    · rw [hnil, List.nil_append]
    · exact wordTexts_gap [] hnil hlead text
  by_cases hnil : trail = []
  · rw [hnil, List.append_nil, hleft]
  · have hright := wordTexts_gap (lead ++ text) hnil htrail []
    rwa [List.append_nil, hleft, show wordTexts [] = [] from rfl, List.append_nil] at hright

/-! ## Maximal runs -/

/-- A word stands in a text at a position and cannot be prolonged there: none of its characters is
a blank, and the characters next to it are. -/
structure IsRun (text : List Char) (position : Nat) (word : List Char) : Prop where
  nonempty : word ≠ []
  solid : ∀ c ∈ word, isBlank c = false
  bounded : ∃ before after, text = before ++ word ++ after ∧ position = before.length ∧
    (∀ c, before.getLast? = some c → isBlank c = true) ∧
    ∀ c more, after = c :: more → isBlank c = true

namespace IsRun

lemma after_blank (hc : isBlank c = true) (h : IsRun rest position word) :
    IsRun (c :: rest) (position + 1) word := by
  obtain ⟨hne, hword, before, after, rfl, rfl, hbefore, hafter⟩ := h
  refine ⟨hne, hword, c :: before, after, rfl, List.length_cons.symm, ?_, hafter⟩
  intro d hd
  rw [List.getLast?_cons, Option.some.injEq] at hd
  cases hlast : before.getLast? with
  | none =>
      rw [hlast] at hd
      exact hd ▸ hc
  | some last =>
      rw [hlast] at hd
      exact hd ▸ hbefore last hlast

lemma after_word {first : List Char} (hrest : ∀ c more, rest = c :: more → isBlank c = true)
    (h : IsRun rest position word) : IsRun (first ++ rest) (first.length + position) word := by
  obtain ⟨hne, hword, before, after, htext, rfl, hbefore, hafter⟩ := h
  refine ⟨hne, hword, first ++ before, after, by rw [htext]; simp, by simp, ?_, hafter⟩
  intro d hd
  cases hlast : before.getLast? with
  | none =>
      -- the run would stand right after the first word
      obtain ⟨c, more, rfl⟩ := List.exists_cons_of_ne_nil hne
      rw [List.getLast?_eq_none_iff.1 hlast] at htext
      have hblank := hrest c (more ++ after) htext
      rw [hword c List.mem_cons_self] at hblank
      cases hblank
  | some last =>
      rw [List.getLast?_append, hlast] at hd
      exact Option.some.inj hd ▸ hbefore last hlast

end IsRun

lemma isRun_of_mem {found : Nat × List Char} (h : found ∈ wordsFrom position text) :
    ∃ place, found.1 = position + place ∧ IsRun text place found.2 := by
  induction text using wordInduction generalizing position with
  | nil => cases h
  | blank c rest hc ih =>
      rw [wordsFrom_blank hc] at h
      obtain ⟨place, hplace, hrun⟩ := ih h
      exact ⟨place + 1, by omega, hrun.after_blank hc⟩
  | word word rest hne hword hrest ih =>
      rw [wordsFrom_word hne hword hrest] at h
      rcases List.mem_cons.1 h with rfl | h
      · exact ⟨0, rfl, hne, hword, [], rest, rfl, rfl, nofun, hrest⟩
      · obtain ⟨place, hplace, hrun⟩ := ih h
        exact ⟨word.length + place, by omega, hrun.after_word hrest⟩

/-- **The words of a text are its maximal runs without a blank.** -/
theorem mem_words_iff : (position, word) ∈ words text ↔ IsRun text position word := by
  constructor
  · intro h
    obtain ⟨place, hplace, hrun⟩ := isRun_of_mem h
    obtain rfl : position = place := by simpa using hplace
    exact hrun
  · rintro ⟨hne, hword, before, after, rfl, rfl, hbefore, hafter⟩
    rw [List.append_assoc, words]
    rcases List.eq_nil_or_concat' before with rfl | ⟨init, c, rfl⟩
    · rw [List.nil_append, wordsFrom_word hne hword hafter]
      exact List.mem_cons_self
    · rw [List.append_assoc, List.singleton_append,
        wordsFrom_append init (hbefore c List.getLast?_concat), wordsFrom_word hne hword hafter]
      refine List.mem_append_right _ ?_
      simp

lemma pairwise_wordsFrom (position : Nat) (text : List Char) :
    (wordsFrom position text).Pairwise (·.1 < ·.1) := by
  induction text using wordInduction generalizing position with
  | nil => exact List.Pairwise.nil
  | blank c rest hc ih =>
      rw [wordsFrom_blank hc]
      exact ih (position + 1)
  | word word rest hne hword hrest ih =>
      rw [wordsFrom_word hne hword hrest, List.pairwise_cons]
      refine ⟨fun found hfound => ?_, ih (position + word.length)⟩
      have hle := le_of_mem_wordsFrom hfound
      have hpos := List.length_pos_iff.2 hne
      dsimp only
      omega

/-- Words are listed in the order in which they stand. -/
lemma pairwise_words (text : List Char) : (words text).Pairwise (·.1 < ·.1) :=
  pairwise_wordsFrom 0 text

end CronSchedule.Text
