import CronSchedule.Proofs.Text.Split
import CronSchedule.Text.Case
import Mathlib.Tactic.SplitIfs

/-!
# Words

* **`mem_wordsFrom`** — a word stands in the text, at its position.
* `exists_word` — every character that is not blank stands in a word.
* `wordsFrom_word` — a text that begins with a word.
* **`words_joinWith`** — words that are joined with blanks are found again.
* `mem_of_mem_trim`, `mem_lower` — the characters of a trimmed text and of a text in lower case.
* `upper_eq_self` — a text without lower case is its own upper case.
-/

namespace CronSchedule.Text

variable {text rest word : List Char} {c : Char} {position : Nat}

/-! ## Words and their positions -/

lemma wordsFrom_blank (h : isBlank c = true) :
    wordsFrom position (c :: rest) = wordsFrom (position + 1) rest := by
  rw [wordsFrom, if_pos h]

/-- **A word stands in the text, at its position.** -/
theorem mem_wordsFrom {found : Nat × List Char} (h : found ∈ wordsFrom position text) :
    ∃ before after, text = before ++ found.2 ++ after ∧ found.1 = position + before.length := by
  induction text generalizing position found with
  | nil => cases h
  | cons c rest ih =>
      have hlater : found ∈ wordsFrom (position + 1) rest → ∃ before after,
          c :: rest = before ++ found.2 ++ after ∧ found.1 = position + before.length := by
        intro hmem
        obtain ⟨before, after, htext, hposition⟩ := ih hmem
        refine ⟨c :: before, after, by rw [htext, List.cons_append, List.cons_append], ?_⟩
        rw [hposition, List.length_cons]
        omega
      rw [wordsFrom] at h
      split at h
      · exact hlater h
      · split at h
        · rename_i heq
          rw [List.mem_singleton.1 h]
          exact ⟨[], rest, rfl, rfl⟩
        · rename_i start word more heq
          split at h
          · rename_i hstart
            rcases List.mem_cons.1 h with rfl | h
            · -- the word of `rest` that is prolonged begins where `rest` begins
              obtain ⟨before, after, htext, hposition⟩ := ih (heq ▸ List.mem_cons_self)
              obtain rfl : before = [] := List.eq_nil_of_length_eq_zero (by
                dsimp only at hposition
                omega)
              exact ⟨[], after, by rw [htext]; rfl, rfl⟩
            · exact hlater (heq ▸ List.mem_cons_of_mem _ h)
          · rcases List.mem_cons.1 h with rfl | h
            · exact ⟨[], rest, rfl, rfl⟩
            · exact hlater (heq ▸ h)

/-- The characters of a word stand in the text, from its position on. -/
lemma getElem?_of_mem_words {place : Nat} (h : (position, word) ∈ words text)
    (hc : word[place]? = some c) : text[position + place]? = some c := by
  obtain ⟨before, after, htext, hposition⟩ := mem_wordsFrom h
  have hplace : place < word.length := (List.getElem?_eq_some_iff.1 hc).1
  dsimp only at htext hposition
  rw [htext, hposition, Nat.zero_add, List.append_assoc, List.getElem?_append_right (by simp),
    Nat.add_sub_cancel_left, List.getElem?_append_left hplace]
  exact hc

/-- Every character that is not blank stands in a word. -/
lemma exists_word {place : Nat} (h : text[place]? = some c) (hc : isBlank c = false) :
    ∃ found ∈ wordsFrom position text,
      found.1 ≤ position + place ∧ position + place < found.1 + found.2.length := by
  induction text generalizing position place with
  | nil => cases h
  | cons d rest ih =>
      rw [wordsFrom]
      cases place with
      | zero =>
          obtain rfl : d = c := by simpa using h
          rw [if_neg (by simp [hc])]
          split
          · exact ⟨_, List.mem_cons_self, by simp, by simp⟩
          · split
            · exact ⟨_, List.mem_cons_self, by simp, by simp⟩
            · exact ⟨_, List.mem_cons_self, by simp, by simp⟩
      | succ place =>
          obtain ⟨found, hfound, hle, hlt⟩ := @ih (position + 1) place (by simpa using h)
          have hfrom : found.1 ≤ position + (place + 1) ∧
              position + (place + 1) < found.1 + found.2.length := by omega
          split
          · exact ⟨found, hfound, hfrom⟩
          · split
            · rename_i heq
              rw [heq] at hfound
              cases hfound
            · rename_i start word more heq
              rw [heq] at hfound
              split
              · rename_i hstart
                rcases List.mem_cons.1 hfound with rfl | hfound
                · -- the word is prolonged by the character before it
                  refine ⟨_, List.mem_cons_self, ?_⟩
                  simp only [List.length_cons]
                  dsimp only at hfrom
                  omega
                · exact ⟨found, List.mem_cons_of_mem _ hfound, hfrom⟩
              · exact ⟨found, List.mem_cons_of_mem _ (heq ▸ hfound), hfrom⟩

lemma le_of_mem_wordsFrom {found : Nat × List Char} (h : found ∈ wordsFrom position text) :
    position ≤ found.1 := by
  obtain ⟨before, _, -, hposition⟩ := mem_wordsFrom h
  omega

/-- A text that begins with a word: a blank comes after it, or nothing. -/
lemma wordsFrom_word (hne : word ≠ []) (hword : ∀ c ∈ word, isBlank c = false)
    (hrest : ∀ c more, rest = c :: more → isBlank c = true) :
    wordsFrom position (word ++ rest) =
      (position, word) :: wordsFrom (position + word.length) rest := by
  induction word generalizing position with
  | nil => exact absurd rfl hne
  | cons c more ih =>
      obtain ⟨hc, hmore⟩ := List.forall_mem_cons.1 hword
      rw [List.cons_append, wordsFrom, if_neg (by simp [hc])]
      by_cases hnil : more = []
      · -- what follows begins later than right after this character, so it is another word
        subst hnil
        have hlater : ∀ w ∈ wordsFrom (position + 1) rest, w.1 ≠ position + 1 := by
          intro w hw
          cases rest with
          | nil => cases hw
          | cons d others =>
              rw [wordsFrom_blank (hrest d others rfl)] at hw
              have := le_of_mem_wordsFrom hw
              omega
        rw [List.nil_append]
        split
        · rename_i heq
          simp [heq]
        · rename_i start word others heq
          rw [if_neg (hlater (start, word) (heq ▸ List.mem_cons_self))]
          rfl
      · rw [ih hnil hmore]
        dsimp only
        rw [if_pos rfl, List.length_cons, Nat.add_right_comm, Nat.add_assoc]

lemma wordsFrom_joinWith {parts : List (List Char)} (position : Nat)
    (h : ∀ part ∈ parts, part ≠ [] ∧ ∀ c ∈ part, isBlank c = false) :
    (wordsFrom position (joinWith [' '] parts)).map Prod.snd = parts := by
  induction parts generalizing position with
  | nil => rfl
  | cons part others ih =>
      obtain ⟨⟨hne, hpart⟩, hothers⟩ := List.forall_mem_cons.1 h
      by_cases hnil : others = []
      · subst hnil
        have hword := @wordsFrom_word [] part position hne hpart (by simp)
        rw [List.append_nil] at hword
        rw [joinWith, hword]
        rfl
      · rw [joinWith_cons part hnil, wordsFrom_word hne hpart (by simp; decide),
          wordsFrom_blank (by decide), List.map_cons, ih _ hothers]

/-- **Words that are joined with blanks are found again.** -/
theorem words_joinWith {parts : List (List Char)}
    (h : ∀ part ∈ parts, part ≠ [] ∧ ∀ c ∈ part, isBlank c = false) :
    (words (joinWith [' '] parts)).map Prod.snd = parts :=
  wordsFrom_joinWith 0 h

/-! ## Trimming and case -/

lemma mem_of_mem_trim (h : c ∈ trim text) : c ∈ text := by
  simp only [trim] at h
  have hinner := List.mem_reverse.1 h
  have hkept := (List.dropWhile_sublist _).mem hinner
  exact (List.dropWhile_sublist _).mem (List.mem_reverse.1 hkept)

lemma mem_lower {before : List Char} (h : c ∈ lowerAfter before text) :
    c ∈ ['ς', 'σ'] ∨ ∃ d ∈ text, c ∈ lowerChar d := by
  induction text generalizing before with
  | nil => cases h
  | cons d rest ih =>
      simp only [lowerAfter, List.mem_append] at h
      rcases h with h | h
      · split_ifs at h
        · exact Or.inl (by simp_all)
        · exact Or.inl (by simp_all)
        · exact Or.inr ⟨d, List.mem_cons_self, h⟩
      · refine (ih h).imp_right ?_
        rintro ⟨e, he, hc⟩
        exact ⟨e, List.mem_cons_of_mem d he, hc⟩

lemma upper_eq_self (h : ∀ c ∈ text, upperChar c = [c]) : upper text = text := by
  simp only [upper]
  induction text with
  | nil => rfl
  | cons c rest ih =>
      obtain ⟨hc, hrest⟩ := List.forall_mem_cons.1 h
      rw [List.flatMap_cons, hc, ih hrest, List.singleton_append]

end CronSchedule.Text
