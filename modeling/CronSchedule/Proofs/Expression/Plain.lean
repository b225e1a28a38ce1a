import CronSchedule.Proofs.Constraint.Text
import CronSchedule.Proofs.Expression.Compiled
import CronSchedule.Schedule

/-!
# Expressions in plain characters

Canonical text is written with few characters, none of which is a blank or in lower case, so its
words are its tokens as they stand.

* `expandAlias_eq_self` — a text of plain characters and blanks is no alias.
* **`tokenize_canonical`** — plain texts of the fields, joined with blanks, are found again as
  tokens.
-/

namespace CronSchedule

open Expression Text

/-! ## Plain texts -/

variable {text : List Char}

lemma not_isBlank_of_plain (h : ∀ c ∈ text, c ∈ plainChars) : ∀ c ∈ text, isBlank c = false := by
  have hall : plainChars.Forall fun c => isBlank c = false := by decide
  exact fun c hc => List.forall_iff_forall_mem.1 hall c (h c hc)

lemma upper_of_plain (h : ∀ c ∈ text, c ∈ plainChars) : upper text = text := by
  have hall : plainChars.Forall fun c => upperChar c = [c] := by decide
  exact upper_eq_self fun c hc => List.forall_iff_forall_mem.1 hall c (h c hc)

/-- A text of plain characters and blanks is no alias. -/
lemma expandAlias_eq_self (h : ∀ c ∈ text, c = ' ' ∨ c ∈ plainChars) :
    expandAlias text = text := by
  have hsign : '@' ∉ lower (trim text) := by
    intro hmem
    rcases mem_lower hmem with hsigma | ⟨c, hc, hlower⟩
    · revert hsigma
      decide
    · have hall : (' ' :: plainChars).Forall fun c => '@' ∉ lowerChar c := by decide
      have hplain := List.mem_cons.2 (h c (mem_of_mem_trim hc))
      exact List.forall_iff_forall_mem.1 hall c hplain hlower
  have hlookup : aliases.lookup (String.ofList (lower (trim text))) = none := by
    refine List.lookup_eq_none_iff.2 fun entry hentry => bne_iff_ne.2 fun heq => hsign ?_
    have hall : ∀ entry ∈ aliases, '@' ∈ entry.1.toList := by decide
    have hmem := hall entry hentry
    rw [← heq] at hmem
    simpa using hmem
  rw [expandAlias, hlookup]

/-! ## Tokens -/

variable {texts : Field → List Char}

/-- A plain word is its own token. -/
lemma ofWord_plain {expression : List Char} {field : Field} {position : Nat}
    (hplain : ∀ c ∈ text, c ∈ plainChars) (helements : [] ∉ pieces ',' text) :
    Token.ofWord expression field (position, text) = .ok ⟨field, text, position, expression⟩ := by
  refine ofWord_eq_ok_iff.2 ⟨?_, ?_⟩
  · rw [upper_of_plain hplain]
  · rwa [upper_of_plain hplain]

lemma mem_of_mem_dropOpenYear {parts : List (List Char)} {part : List Char}
    (h : part ∈ Schedule.dropOpenYear parts) : part ∈ parts := by
  simp only [Schedule.dropOpenYear] at h
  split_ifs at h
  · exact List.dropLast_subset _ h
  · exact h

/-- **The texts of the fields, joined with blanks, are found again as tokens.** -/
theorem tokenize_canonical (hplain : ∀ field, ∀ c ∈ texts field, c ∈ plainChars)
    (helements : ∀ field, [] ∉ pieces ',' (texts field)) :
    ∃ tokens, tokenize (joinWith [' '] (Schedule.dropOpenYear (Field.all.map texts))) =
        .ok tokens ∧
      ∀ field, match tokens.token? field with
        | some token => token.text = texts field
        | none => field = .year ∧ texts .year = ['*'] := by
  have hpart : ∀ part ∈ Schedule.dropOpenYear (Field.all.map texts),
      part ≠ [] ∧ ∀ c ∈ part, c ∈ plainChars := by
    intro part hmem
    obtain ⟨field, -, rfl⟩ := List.mem_map.1 (mem_of_mem_dropOpenYear hmem)
    refine ⟨fun hnil => helements field ?_, hplain field⟩
    rw [hnil]
    decide
  have hchars : ∀ c ∈ joinWith [' '] (Schedule.dropOpenYear (Field.all.map texts)),
      c = ' ' ∨ c ∈ plainChars := by
    intro c hc
    refine (mem_joinWith hc).imp_right ?_
    rintro ⟨part, hmem, hc⟩
    exact (hpart part hmem).2 c hc
  have hwords := words_joinWith fun part hmem =>
    ⟨(hpart part hmem).1, not_isBlank_of_plain (hpart part hmem).2⟩
  have hword := fun position expression field =>
    @ofWord_plain (texts field) expression field position (hplain field) (helements field)
  unfold tokenize
  rw [expandAlias_eq_self hchars]
  dsimp only
  generalize joinWith [' '] (Schedule.dropOpenYear (Field.all.map texts)) = expression at hwords
  by_cases hyear : texts .year = ['*']
  · -- the year is left out, so there are six words
    have hparts : Schedule.dropOpenYear (Field.all.map texts) = [texts .second, texts .minute,
        texts .hour, texts .dayOfMonth, texts .month, texts .dayOfWeek] := by
      simp [Schedule.dropOpenYear, Field.all, hyear]
    simp only [hparts, List.map_eq_cons_iff, List.map_eq_nil_iff, Prod.exists] at hwords
    obtain ⟨_, _, _, hfound, rfl, _, _, _, rfl, rfl, _, _, _, rfl, rfl, _, _, _, rfl, rfl,
      _, _, _, rfl, rfl, _, _, _, rfl, rfl, rfl⟩ := hwords
    rw [hfound]
    dsimp only [Tokens.ofWords]
    simp only [hword, ok_bind]
    refine ⟨_, rfl, fun field => ?_⟩
    cases field <;> simp [Tokens.token?, hyear]
  · have hparts : Schedule.dropOpenYear (Field.all.map texts) = [texts .second, texts .minute,
        texts .hour, texts .dayOfMonth, texts .month, texts .dayOfWeek, texts .year] := by
      simp [Schedule.dropOpenYear, Field.all, hyear]
    simp only [hparts, List.map_eq_cons_iff, List.map_eq_nil_iff, Prod.exists] at hwords
    obtain ⟨_, _, _, hfound, rfl, _, _, _, rfl, rfl, _, _, _, rfl, rfl, _, _, _, rfl, rfl,
      _, _, _, rfl, rfl, _, _, _, rfl, rfl, position, _, _, rfl, rfl, rfl⟩ := hwords
    have hlast := mapM_some_eq_ok_iff.2 ⟨_, hword position expression .year, rfl⟩
    rw [hfound]
    dsimp only [Tokens.ofWords]
    simp only [hword, ok_bind, hlast]
    refine ⟨_, rfl, fun field => ?_⟩
    cases field <;> rfl

end CronSchedule
