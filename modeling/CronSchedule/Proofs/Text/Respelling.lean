import CronSchedule.Proofs.Text.Case
import CronSchedule.Proofs.Text.Runs
import Mathlib.Data.List.TakeWhile
import Mathlib.Logic.Relation

/-!
# Texts in another spelling

A text is spelled in another way when letters of ASCII are written in the other case, when other
blanks stand between its words, or when blanks are put around it.  None of this changes its words,
as long as the case of their letters does not count.

* `capitals` — a text with its letters of ASCII in upper case; `upper_capitals`, `lower_capitals` —
  case mapping does not see the difference.
* `wordTexts_eq_singleton_iff` — a text of a single word is that word between blanks.
* `Respelled` — one change of the spelling.
* **`capitalWords_eq`** — any number of changes leaves the words as they are, up to case.
-/

namespace CronSchedule.Text

variable {text word : List Char} {c : Char} {position : Nat}

/-! ## Letters -/

/-- A text with its letters of ASCII in upper case. -/
def capitals (text : List Char) : List Char :=
  text.map Char.toUpper

/-- Upper case leaves a character alone, or it is a small letter of ASCII. -/
lemma toUpper_cases (c : Char) : c.toUpper = c ∨
    (97 ≤ c.toNat ∧ c.toNat ≤ 122) ∧ c.toUpper.toNat = c.toNat - 32 := by
  by_cases hsmall : c.val ≥ 'a'.val ∧ c.val ≤ 'z'.val
  · have hascii : ∀ n < 123, 97 ≤ n → (Char.ofNat n).toUpper.toNat = n - 32 := by decide
    have hlow : 97 ≤ c.toNat := hsmall.1
    have hhigh : c.toNat ≤ 122 := hsmall.2
    have hcode := hascii c.toNat (by omega) hlow
    rw [Char.ofNat_toNat] at hcode
    exact Or.inr ⟨⟨hlow, hhigh⟩, hcode⟩
  · exact Or.inl (dif_neg hsmall)

/-- What has the same value for the small and the capital letters of ASCII does not see case. -/
lemma toUpper_invariant {α : Type} (f : Char → α)
    (h : ∀ n < 123, 97 ≤ n → f (Char.ofNat n).toUpper = f (Char.ofNat n)) (c : Char) :
    f c.toUpper = f c := by
  rcases toUpper_cases c with hsame | ⟨⟨hlow, hhigh⟩, -⟩
  · rw [hsame]
  · have hcode := h c.toNat (by omega) hlow
    rwa [Char.ofNat_toNat] at hcode

@[simp] lemma isBlank_toUpper (c : Char) : isBlank c.toUpper = isBlank c :=
  toUpper_invariant isBlank (by decide) c

@[simp] lemma upperChar_toUpper (c : Char) : upperChar c.toUpper = upperChar c :=
  toUpper_invariant upperChar (by decide) c

@[simp] lemma lowerChar_toUpper (c : Char) : lowerChar c.toUpper = lowerChar c :=
  toUpper_invariant lowerChar (by decide) c

@[simp] lemma toUpper_eq_sigma_iff (c : Char) : c.toUpper = 'Σ' ↔ c = 'Σ' :=
  decide_eq_decide.1 (toUpper_invariant (fun c => decide (c = 'Σ')) (by decide) c)

/-- No letter of ASCII is passed over by the case of a word. -/
lemma ignorable_toUpper (c : Char) :
    inRanges caseIgnorableRanges c.toUpper.toNat = inRanges caseIgnorableRanges c.toNat := by
  have hall : ∀ r ∈ caseIgnorableRanges,
      r.2 < 65 ∨ 90 < r.1 ∧ r.2 < 97 ∨ 122 < r.1 := by decide +kernel
  have hletter : ∀ n, 65 ≤ n ∧ n ≤ 90 ∨ 97 ≤ n ∧ n ≤ 122 →
      inRanges caseIgnorableRanges n = false := by
    intro n hn
    refine List.any_eq_false.2 fun r hr => ?_
    have hrange := hall r hr
    simp
    omega
  rcases toUpper_cases c with hsame | ⟨hsmall, hcode⟩
  · rw [hsame]
  · rw [hletter _ (by omega), hletter _ (by omega)]

/-- All letters of ASCII have case. -/
lemma cased_toUpper (c : Char) :
    inRanges casedRanges c.toUpper.toNat = inRanges casedRanges c.toNat := by
  have hletter : ∀ n, 65 ≤ n ∧ n ≤ 90 ∨ 97 ≤ n ∧ n ≤ 122 → inRanges casedRanges n = true := by
    have hcapital : (65, 90) ∈ casedRanges := by decide
    have hsmall : (97, 122) ∈ casedRanges := by decide
    rintro n (hn | hn)
    · exact List.any_eq_true.2 ⟨_, hcapital, by simpa using hn⟩
    · exact List.any_eq_true.2 ⟨_, hsmall, by simpa using hn⟩
  rcases toUpper_cases c with hsame | ⟨hsmall, hcode⟩
  · rw [hsame]
  · rw [hletter _ (by omega), hletter _ (by omega)]

lemma capitals_cons (c : Char) (text : List Char) :
    capitals (c :: text) = c.toUpper :: capitals text :=
  rfl

lemma startsCased_capitals (text : List Char) :
    startsCased (capitals text) = startsCased text := by
  induction text with
  | nil => rfl
  | cons c rest ih =>
      simp only [capitals_cons, startsCased, ignorable_toUpper, cased_toUpper, ih]

lemma upper_capitals (text : List Char) : upper (capitals text) = upper text := by
  simp [upper, capitals, List.flatMap_map]

lemma lowerAfter_capitals (before text : List Char) :
    lowerAfter (capitals before) (capitals text) = lowerAfter before text := by
  induction text generalizing before with
  | nil => rfl
  | cons c rest ih =>
      have hrest := ih (c :: before)
      rw [capitals_cons] at hrest
      by_cases hsigma : c = 'Σ'
      · simpa [capitals_cons, lowerAfter, endsWord, startsCased_capitals, hsigma] using hrest
      · simp [capitals_cons, lowerAfter, hrest, hsigma]

lemma lower_capitals (text : List Char) : lower (capitals text) = lower text :=
  lowerAfter_capitals [] text

/-- The blanks have no case. -/
lemma lowerChar_of_isBlank (h : isBlank c = true) : lowerChar c = [c] := by
  have hall : ∀ n ∈ List.range' 0x09 5 ++ List.range' 0x1C 5 ++ List.range' 0x2000 11 ++
      [0x85, 0xA0, 0x1680, 0x2028, 0x2029, 0x202F, 0x205F, 0x3000],
      lowerChar (Char.ofNat n) = [Char.ofNat n] := by decide +kernel
  have hcode := hall c.toNat (by
    simp only [isBlank, Bool.or_eq_true, Bool.and_eq_true, decide_eq_true_eq, beq_iff_eq] at h
    simp only [List.mem_append, List.mem_range'_1, List.mem_cons]
    omega)
  rwa [Char.ofNat_toNat] at hcode

/-- A blank stays in a text in lower case. -/
lemma mem_lowerAfter_of_isBlank (h : isBlank c = true) (hc : c ∈ text) (before : List Char) :
    c ∈ lowerAfter before text := by
  induction text generalizing before with
  | nil => cases hc
  | cons d rest ih =>
      rw [lowerAfter]
      rcases List.mem_cons.1 hc with rfl | hc
      · have hsigma : c ≠ 'Σ' := by
          rintro rfl
          revert h
          decide
        rw [if_neg hsigma, lowerChar_of_isBlank h]
        exact List.mem_append_left _ (List.mem_singleton.2 rfl)
      · exact List.mem_append_right _ (ih hc (d :: before))

/-! ## Words -/

lemma wordsFrom_capitals (position : Nat) (text : List Char) :
    wordsFrom position (capitals text) =
      (wordsFrom position text).map fun found => (found.1, capitals found.2) := by
  induction text using wordInduction generalizing position with
  | nil => rfl
  | blank c rest hc ih =>
      rw [capitals_cons, wordsFrom_blank (by simpa using hc), wordsFrom_blank hc, ih]
  | word word rest hne hword hrest ih =>
      have hfirst : ∀ c ∈ capitals word, isBlank c = false := by
        intro c hc
        obtain ⟨d, hd, rfl⟩ := List.mem_map.1 hc
        rw [isBlank_toUpper, hword d hd]
      have hafter : ∀ c more, capitals rest = c :: more → isBlank c = true := by
        intro c more hcons
        obtain ⟨d, others, rfl, rfl, -⟩ := List.map_eq_cons_iff.1 hcons
        rw [isBlank_toUpper, hrest d others rfl]
      rw [capitals, List.map_append, ← capitals, ← capitals,
        wordsFrom_word (by simpa [capitals] using hne) hfirst hafter, ih,
        wordsFrom_word hne hword hrest, List.map_cons, capitals, List.length_map]

lemma wordTexts_capitals (text : List Char) :
    wordTexts (capitals text) = (wordTexts text).map capitals := by
  rw [wordTexts, words, wordsFrom_capitals, wordTexts, List.map_map, List.map_map]
  rfl

lemma blanks_of_wordTexts (h : wordTexts text = []) : ∀ c ∈ text, isBlank c = true := by
  induction text using wordInduction with
  | nil => nofun
  | blank c rest hc ih =>
      rw [wordTexts, words, wordsFrom_blank hc, wordTexts_wordsFrom] at h
      exact List.forall_mem_cons.2 ⟨hc, ih h⟩
  | word word rest hne hword hrest ih =>
      rw [wordTexts, words, wordsFrom_word hne hword hrest] at h
      cases h

/-- A text of a single word is that word between blanks. -/
lemma exists_margin (h : wordTexts text = [word]) : ∃ lead trail, text = lead ++ word ++ trail ∧
    (∀ c ∈ lead, isBlank c = true) ∧ (∀ c ∈ trail, isBlank c = true) ∧
      word ≠ [] ∧ ∀ c ∈ word, isBlank c = false := by
  induction text using wordInduction with
  | nil => cases h
  | blank c rest hc ih =>
      rw [wordTexts, words, wordsFrom_blank hc, wordTexts_wordsFrom] at h
      obtain ⟨lead, trail, rfl, hlead, htrail, hword⟩ := ih h
      exact ⟨c :: lead, trail, rfl, List.forall_mem_cons.2 ⟨hc, hlead⟩, htrail, hword⟩
  | word first rest hne hfirst hrest ih =>
      rw [wordTexts, words, wordsFrom_word hne hfirst hrest, List.map_cons,
        wordTexts_wordsFrom] at h
      obtain ⟨rfl, hnone⟩ := List.cons.inj h
      exact ⟨[], rest, rfl, List.forall_mem_nil _, blanks_of_wordTexts hnone, hne, hfirst⟩

/-! ## Trimming -/

/-- A text is what trimming leaves of it, between blanks. -/
lemma exists_trim (text : List Char) : ∃ lead trail, text = lead ++ trim text ++ trail ∧
    (∀ c ∈ lead, isBlank c = true) ∧ ∀ c ∈ trail, isBlank c = true := by
  let rest := text.dropWhile isBlank
  have hrest : trim text ++ (rest.reverse.takeWhile isBlank).reverse = rest := by
    rw [trim, ← List.reverse_append, List.takeWhile_append_dropWhile, List.reverse_reverse]
  refine ⟨text.takeWhile isBlank, (rest.reverse.takeWhile isBlank).reverse, ?_,
    fun c hc => List.mem_takeWhile_imp hc,
    fun c hc => List.mem_takeWhile_imp (List.mem_reverse.1 hc)⟩
  calc
    text = text.takeWhile isBlank ++ rest := List.takeWhile_append_dropWhile.symm
    _ = text.takeWhile isBlank ++ (trim text ++ (rest.reverse.takeWhile isBlank).reverse) := by
      rw [hrest]
    _ = text.takeWhile isBlank ++ trim text ++ (rest.reverse.takeWhile isBlank).reverse :=
      (List.append_assoc _ _ _).symm

/-- Trimming a word between blanks leaves the word. -/
lemma trim_margin {lead trail : List Char} (hlead : ∀ c ∈ lead, isBlank c = true)
    (htrail : ∀ c ∈ trail, isBlank c = true) (hne : word ≠ [])
    (hword : ∀ c ∈ word, isBlank c = false) :
    trim (lead ++ word ++ trail) = word := by
  have hstop : ∀ {part others : List Char}, part ≠ [] → (∀ c ∈ part, isBlank c = false) →
      (part ++ others).dropWhile isBlank = part ++ others := by
    intro part others hpart hsolid
    obtain ⟨c, more, rfl⟩ := List.exists_cons_of_ne_nil hpart
    exact List.dropWhile_cons_of_neg (by simp [hsolid c List.mem_cons_self])
  have hback := @hstop word.reverse [] (by simpa using hne) (by simpa using hword)
  rw [trim, List.append_assoc, List.dropWhile_append_of_pos hlead, hstop hne hword,
    List.reverse_append, List.dropWhile_append_of_pos (by simpa using htrail)]
  rw [List.append_nil] at hback
  rw [hback, List.reverse_reverse]

/-- A text has a single word exactly if trimming leaves that word. -/
lemma wordTexts_eq_singleton_iff :
    wordTexts text = [word] ↔ trim text = word ∧ word ≠ [] ∧ ∀ c ∈ word, isBlank c = false := by
  constructor
  · intro h
    obtain ⟨lead, trail, rfl, hlead, htrail, hne, hword⟩ := exists_margin h
    exact ⟨trim_margin hlead htrail hne hword, hne, hword⟩
  · rintro ⟨htrim, hne, hword⟩
    obtain ⟨lead, trail, htext, hlead, htrail⟩ := exists_trim text
    rw [htext, wordTexts_margin hlead htrail, htrim, wordTexts_word hne hword]

/-! ## Spelling -/

/-- The words of a text with their letters of ASCII in upper case. -/
def capitalWords (text : List Char) : List (List Char) :=
  (wordTexts text).map capitals

/-- The blanks between two words, or around a text. -/
def IsGap (gap : List Char) : Prop :=
  gap ≠ [] ∧ ∀ c ∈ gap, isBlank c = true

instance (gap : List Char) : Decidable (IsGap gap) :=
  decidable_of_iff (gap ≠ [] ∧ gap.all isBlank = true) (by simp [IsGap])

/-- One change of the spelling of a text. -/
inductive Respelled : List Char → List Char → Prop
  /-- Letters of ASCII are written in the other case. -/
  | letters {text text' : List Char} (h : capitals text = capitals text') : Respelled text text'
  /-- Other blanks stand in a gap. -/
  | gap (before after : List Char) {gap gap' : List Char} (h : IsGap gap) (h' : IsGap gap') :
      Respelled (before ++ gap ++ after) (before ++ gap' ++ after)
  /-- Blanks are put around the text. -/
  | margin {lead trail : List Char} (hlead : ∀ c ∈ lead, isBlank c = true)
      (htrail : ∀ c ∈ trail, isBlank c = true) (text : List Char) :
      Respelled text (lead ++ text ++ trail)

lemma Respelled.capitalWords_eq {text' : List Char} (h : Respelled text text') :
    capitalWords text = capitalWords text' := by
  cases h with
  | letters h => rw [capitalWords, ← wordTexts_capitals, h, wordTexts_capitals, capitalWords]
  | gap before after h h' =>
      rw [capitalWords, capitalWords, wordTexts_gap before h.1 h.2, wordTexts_gap before h'.1 h'.2]
  | margin hlead htrail =>
      rw [capitalWords, capitalWords, wordTexts_margin hlead htrail]

/-- **A change of spelling leaves the words as they are**, up to the case of letters of ASCII. -/
theorem capitalWords_eq {text' : List Char} (h : Relation.ReflTransGen Respelled text text') :
    capitalWords text = capitalWords text' := by
  induction h with
  | refl => rfl
  | tail _ hlast ih => exact ih.trans hlast.capitalWords_eq

end CronSchedule.Text
