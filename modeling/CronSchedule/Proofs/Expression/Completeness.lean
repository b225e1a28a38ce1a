import CronSchedule.Proofs.Expression.Soundness

/-!
# What denotes something in a field compiles to it

The checks for markers and for punctuation are made in a fixed order.  A text of the grammar runs
through them to the step that is meant for it, because the characters of the other steps do not
stand in it.

* `value_complete`, …, `progression_complete` — values and terms.
* `marker?_of_term`, `marker?_complete` — a term is no marker, and a marker is found.
* **`compileField_complete`** — a field.
-/

namespace CronSchedule.Expression

open Text

variable {token : Token} {term text : List Char} {offset : Nat}

/-! ## Values and terms -/

lemma readNumeral_complete {digits : List Char} (hshort : ShortRuns digits)
    (hdigits : isNumeral digits = true) : readNumeral digits = .ok (ofDigits digits) := by
  rw [readNumeral, hshort.readDigits_eq hdigits]
  rfl

lemma value_complete {value : Int} (h : IsValue token.field text value) (hshort : ShortRuns text) :
    token.value text offset = .ok value := by
  simp only [Token.value]
  cases h with
  | numeral hdigits hrange =>
      rw [Field.lookup_of_isNumeral hdigits]
      simp [hdigits, readNumeral_complete hshort hdigits, hrange]
  | name hname =>
      rw [(Field.of_mem_names hname).1]
      rfl

lemma step_complete {step : Nat} (h : IsStep text step) (hshort : ShortRuns text) :
    token.step text offset = .ok step := by
  obtain ⟨hdigits, rfl, hpos⟩ := h
  simp only [Token.step]
  rw [if_neg (by simp [hdigits]), readNumeral_complete hshort hdigits, ok_bind,
    if_neg (Nat.ne_of_gt hpos)]
  rfl

lemma range_complete {first last : Int} (h : IsRange token.field term first last)
    (hshort : ShortRuns term) : token.range term offset = .ok (first, last) := by
  cases h with
  | @mk a b _ _ hfirst hlast hle =>
      have ha : '-' ∉ a := hfirst.notMem (Field.spells_punctuation (by decide))
      have hb : '-' ∉ b := hlast.notMem (Field.spells_punctuation (by decide))
      simp only [Token.range]
      rw [splitOn_eq_singleton_iff.2 ⟨rfl, ha, hb⟩]
      dsimp only
      rw [if_neg (by simp [hfirst.ne_nil, hlast.ne_nil]), value_complete hfirst hshort.left,
        ok_bind, value_complete hlast hshort.right, ok_bind, if_neg (not_lt.2 hle)]
      rfl

lemma IsRange.dash_mem {field : Field} {first last : Int} (h : IsRange field term first last) :
    '-' ∈ term := by
  cases h
  simp

lemma IsRange.slash_notMem {field : Field} {first last : Int} (h : IsRange field term first last) :
    '/' ∉ term := by
  cases h with
  | mk hfirst hlast hle =>
      have ha := hfirst.notMem (Field.spells_punctuation (by decide : '/' ∈ _))
      have hb := hlast.notMem (Field.spells_punctuation (by decide : '/' ∈ _))
      simp [ha, hb]

/-- A term with a step, once its step and what stands before it are read. -/
lemma progression_of_step {base digits : List Char} {step : Nat} {first last : Int}
    (hbase : '/' ∉ base) (hstep : IsStep digits step) (hle : first ≤ last)
    (hshort : ShortRuns digits)
    (hread : token.stepBase (base ++ '/' :: digits) base offset = .ok (first, last)) :
    ∃ values, token.progression (base ++ '/' :: digits) offset = .ok values ∧
      values.toSet = stepsUpTo first step last := by
  have hdigits : '/' ∉ digits := notMem_of_isNumeral hstep.numeral (by decide)
  refine ⟨Progression.upTo first last step, ?_, Progression.toSet_upTo hle hstep.pos⟩
  simp only [Token.progression]
  rw [splitOn_eq_singleton_iff.2 ⟨rfl, hbase, hdigits⟩]
  dsimp only
  rw [step_complete hstep hshort, ok_bind, hread, ok_bind]
  rfl

/-- A term without a step. -/
lemma progression_of_notMem (hslash : '/' ∉ term) :
    token.progression term offset =
      if term = ['*'] then .ok (Progression.upTo token.field.low token.field.high 1)
      else if term.contains '-' then do
        let (first, last) ← token.range term offset
        return Progression.upTo first last 1
      else do
        let value ← token.value term offset
        return ⟨value, 1, 0⟩ := by
  simp only [Token.progression]
  rw [splitOn_of_notMem hslash]
  rfl

/-- How the terms of a list are read: each to a progression with the values it denotes. -/
def Token.AcceptsTerms (token : Token)
    (read : List Char → Nat → Except Failure Progression) : Prop :=
  ∀ {term : List Char} (offset : Nat) {set : Set Int}, TermValues token.field term set →
    ShortRuns term → ∃ values, read term offset = .ok values ∧ values.toSet = set

lemma progression_complete : token.AcceptsTerms token.progression := by
  intro term offset set h hshort
  have hfull : token.field.low ≤ token.field.high := by cases token.field <;> decide
  cases h with
  | every =>
      refine ⟨Progression.upTo token.field.low token.field.high 1, ?_, ?_⟩
      · rw [progression_of_notMem (by decide), if_pos rfl]
      · rw [Progression.toSet_upTo hfull Nat.one_pos, stepsUpTo_one]
  | @value _ value h =>
      have hslash := h.notMem (Field.spells_punctuation (by decide : '/' ∈ _))
      have hdash := h.notMem (Field.spells_punctuation (by decide : '-' ∈ _))
      have hstar := h.notMem (Field.spells_punctuation (by decide : '*' ∈ _))
      refine ⟨⟨value, 1, 0⟩, ?_, Progression.toSet_single value⟩
      rw [progression_of_notMem hslash, if_neg (by rintro rfl; simp at hstar),
        if_neg (by simpa using hdash), value_complete h hshort]
      rfl
  | @range _ first last h =>
      refine ⟨Progression.upTo first last 1, ?_, ?_⟩
      · have hdash := h.dash_mem
        rw [progression_of_notMem h.slash_notMem, if_neg (by rintro rfl; simp at hdash),
          if_pos (by simpa using hdash), range_complete h hshort]
        rfl
      · rw [Progression.toSet_upTo h.le Nat.one_pos, stepsUpTo_one]
  | everyStep h =>
      have hslash : '/' ∉ ['*'] := by decide
      exact progression_of_step hslash h hfull (hshort.right (a := ['*'])) rfl
  | valueStep hbase h =>
      have hslash := hbase.notMem (Field.spells_punctuation (by decide : '/' ∈ _))
      have hdash := hbase.notMem (Field.spells_punctuation (by decide : '-' ∈ _))
      have hstar := hbase.notMem (Field.spells_punctuation (by decide : '*' ∈ _))
      refine progression_of_step hslash h hbase.le_high hshort.right ?_
      simp only [Token.stepBase]
      rw [if_neg (by rintro rfl; simp at hstar), if_neg (by simpa using hdash),
        if_neg (by simpa using hbase.ne_nil), value_complete hbase hshort.left]
      rfl
  | rangeStep hbase h =>
      refine progression_of_step hbase.slash_notMem h hbase.le hshort.right ?_
      have hdash := hbase.dash_mem
      simp only [Token.stepBase]
      rw [if_neg (by rintro rfl; simp at hdash), if_pos (by simpa using hdash),
        range_complete hbase hshort.left]

lemma readTerms_complete {read : List Char → Nat → Except Failure Progression}
    (hread : token.AcceptsTerms read) (offset : Nat) {terms : List (List Char)}
    {sets : List (Set Int)} (h : List.Forall₂ (TermValues token.field) terms sets)
    (hshort : ∀ term ∈ terms, ShortRuns term) :
    ∃ values, readTerms read offset terms = .ok values ∧
      values.map Progression.toSet = sets := by
  induction h generalizing offset with
  | nil => exact ⟨[], rfl, rfl⟩
  | @cons term set rest sets hterm hrest ih =>
      obtain ⟨hshortTerm, hshortRest⟩ := List.forall_mem_cons.1 hshort
      obtain ⟨values, hvalues, rfl⟩ := hread offset hterm hshortTerm
      obtain ⟨more, hmore, rfl⟩ := ih (offset + term.length + 1) hshortRest
      refine ⟨values :: more, ?_, rfl⟩
      rw [readTerms, hvalues, ok_bind, hmore, ok_bind]
      rfl

/-! ## Markers -/

/-- A term is no marker. -/
lemma marker?_of_term (h : ∀ c ∈ token.field.markers, c ∉ term) :
    token.marker? term offset = .ok none := by
  simp only [Token.marker?]
  split
  · rename_i hfield
    have hlast : 'L' ∉ term := h 'L' (by rw [hfield]; decide)
    have hworkday : 'W' ∉ term := h 'W' (by rw [hfield]; decide)
    rw [dayOfMonthMarker?_of_ne]
    · rw [if_neg, if_neg (by simp [hlast, hworkday])]
      intro hnearest
      simp only [Bool.and_eq_true, decide_eq_true_eq] at hnearest
      exact hworkday (List.mem_of_getLast? hnearest.1)
    · rintro rfl
      simp at hlast
    · rintro rfl
      simp at hlast
    · rintro digits rfl
      simp at hlast
  · rename_i hfield
    have hlast : 'L' ∉ term := h 'L' (by rw [hfield]; decide)
    have hnth : '#' ∉ term := h '#' (by rw [hfield]; decide)
    rw [dayOfWeekMarker?_of_notMem _ hnth, if_neg]
    · intro hweekday
      simp only [Bool.and_eq_true, decide_eq_true_eq] at hweekday
      exact hlast (List.mem_of_getLast? hweekday.1)
    · rintro rfl
      simp at hlast
  · rfl

/-- The text of a value may name a weekday. -/
lemma IsValue.isWord_eq_true {field : Field} {value : Int} (h : IsValue field text value) :
    isWord text = true := by
  simp only [isWord, Bool.and_eq_true, Bool.or_eq_true, decide_eq_true_eq, List.all_eq_true]
  refine ⟨by simpa using h.ne_nil, fun c hc => ?_⟩
  cases h with
  | numeral hdigits hrange => exact Or.inl ((isNumeral_iff.1 hdigits).2 c hc)
  | name hname => exact Or.inr (Field.capital_of_mem_names hname hc)

/-- A marker other than `?` is found. -/
lemma marker?_complete {m : Constraint} (h : MarkerDenotes token.field term m) (hne : term ≠ ['?'])
    (hshort : ShortRuns term) : token.marker? term offset = .ok (some m) := by
  generalize hfield : token.field = field at h
  simp only [Token.marker?]
  cases h with
  | unspecified h => exact absurd rfl hne
  | lastDay => rw [hfield]; rfl
  | lastWorkday => rw [hfield]; rfl
  | @beforeLastDay digits hdigits hle =>
      rw [hfield]
      dsimp only
      rw [dayOfMonthMarker?_before hdigits,
        readNumeral_complete (hshort.right (a := ['L'])) hdigits, ok_bind, if_neg]
      · rfl
      · exact not_lt.2 hle
  | @nearestWorkday text day h =>
      rw [hfield]
      dsimp only
      have hlast : 'L' ∉ text ++ ['W'] := by
        simp [h.notMem (by decide : Field.dayOfMonth.spells 'L' = false)]
      rw [← hfield] at h
      have hnumeral : isNumeral text = true := by
        cases h with
        | numeral hdigits hrange => exact hdigits
        | name hname => simp [hfield, Field.names] at hname
      rw [dayOfMonthMarker?_of_ne]
      · rw [if_pos (by simp [hnumeral]), List.dropLast_concat, value_complete h hshort.left]
        rfl
      · intro heq
        simp [heq] at hlast
      · intro heq
        simp [heq] at hlast
      · intro digits heq
        simp [heq] at hlast
  | saturday =>
      rw [hfield]
      dsimp only
      unfold Token.dayOfWeekMarker?
      rw [if_pos rfl, hfield]
      rfl
  | @lastWeekday text weekday h =>
      rw [hfield]
      dsimp only
      have hnth : '#' ∉ text := h.notMem (Field.spells_punctuation (by decide))
      rw [← hfield] at h
      rw [dayOfWeekMarker?_of_notMem (by simp [h.ne_nil]) (by simp [hnth]),
        if_pos (by simp [h.isWord_eq_true]), List.dropLast_concat, value_complete h hshort.left]
      rfl
  | @nthWeekday text digits weekday h hdigits hpos hle =>
      rw [hfield]
      dsimp only
      have hnth : '#' ∉ text := h.notMem (Field.spells_punctuation (by decide))
      rw [← hfield] at h
      rw [dayOfWeekMarker?_of_mem hnth, if_pos (by simp [h.isWord_eq_true, hdigits]),
        value_complete h hshort.left, ok_bind, readNumeral_complete hshort.right hdigits, ok_bind,
        if_neg]
      · rfl
      · simp only [Bool.or_eq_true, decide_eq_true_eq]
        exact not_or.2 ⟨not_lt.2 hpos, not_lt.2 hle⟩

/-! ## Fields -/

lemma checkCharactersFrom_complete (offset : Nat) (h : ∀ c ∈ text, token.field.permits c = true) :
    token.checkCharactersFrom offset text = .ok () := by
  induction text generalizing offset with
  | nil => rfl
  | cons c rest ih =>
      obtain ⟨hc, hrest⟩ := List.forall_mem_cons.1 h
      rw [Token.checkCharactersFrom, if_pos hc, ih (offset + 1) hrest]

lemma element_complete : token.AcceptsTerms token.element := by
  intro term offset set h hshort
  simp only [Token.element]
  rw [marker?_of_term fun c hc => h.notMem (Field.writes_marker hc), ok_bind]
  exact progression_complete offset h hshort

/-- A single `*` compiles to all values, with the mark of the wildcard. -/
lemma compileField_of_star (hstar : token.text = ['*']) :
    compileField token = .ok (.values (.full token.field true)) := by
  have hpermits : ∀ c ∈ token.text, token.field.permits c = true := by
    rw [hstar]
    exact List.forall_mem_singleton.2 (Field.permits_star token.field)
  have hcheck := checkCharactersFrom_complete 0 hpermits
  simp only [compileField]
  split
  · rw [Token.compileDay, Token.checkCharacters, hcheck, ok_bind, if_pos hstar]
    rfl
  · rw [Token.compileValues, Token.checkCharacters, hcheck, ok_bind, if_pos hstar]
    rfl

/-- A single marker compiles to its constraint. -/
lemma compileField_of_marker {m : Constraint} (h : MarkerDenotes token.field token.text m)
    (hshort : ShortRuns token.text) : compileField token = .ok m := by
  have hpermits : ∀ c ∈ token.text, token.field.permits c = true := fun c hc => h.permits hc
  obtain ⟨c, hmarker, hc⟩ := h.exists_marker
  have hday : token.field.isDay = true := by
    revert hmarker
    cases token.field <;> simp [Field.isDay, Field.markers]
  have hstar : token.text ≠ ['*'] := by
    intro hstar
    rw [hstar, List.mem_singleton] at hc
    subst hc
    revert hmarker
    cases token.field <;> decide
  rw [compileField, if_pos hday, Token.compileDay, Token.checkCharacters,
    checkCharactersFrom_complete 0 hpermits, ok_bind, if_neg hstar]
  rcases h.unspecified_or_notMem with ⟨hopen, rfl⟩ | hopen
  · rw [if_pos hopen]
    rfl
  · have hne : token.text ≠ ['?'] := by
      intro heq
      simp [heq] at hopen
    have helements : token.elements = (token.text, []) := splitOn_of_notMem h.comma_notMem
    rw [if_neg hne, if_neg (by simpa using hopen), helements]
    dsimp only
    rw [Token.compileSingle, marker?_complete h hne hshort]
    rfl

section Terms

variable {first : List Char} {rest : List (List Char)} {set : Set Int} {sets : List (Set Int)}

/-- A field without markers that lists terms. -/
lemma compileValues_of_terms (hpermits : ∀ c ∈ token.text, token.field.permits c = true)
    (hstar : token.text ≠ ['*']) (helements : token.elements = (first, rest))
    (hfirst : TermValues token.field first set)
    (hrest : List.Forall₂ (TermValues token.field) rest sets)
    (hshort : ∀ term ∈ first :: rest, ShortRuns term) :
    ∃ values more, token.compileValues = .ok (.ofProgressions values more) ∧
      values.toSet = set ∧ more.map Progression.toSet = sets := by
  obtain ⟨hshortFirst, hshortRest⟩ := List.forall_mem_cons.1 hshort
  obtain ⟨values, hvalues, hset⟩ := progression_complete 0 hfirst hshortFirst
  obtain ⟨more, hmore, hsets⟩ :=
    readTerms_complete progression_complete (first.length + 1) hrest hshortRest
  refine ⟨values, more, ?_, hset, hsets⟩
  rw [Token.compileValues, Token.checkCharacters, checkCharactersFrom_complete 0 hpermits, ok_bind,
    if_neg hstar, helements]
  dsimp only
  rw [hvalues, ok_bind, hmore]
  rfl

/-- A day field that lists terms. -/
lemma compileDay_of_terms (hpermits : ∀ c ∈ token.text, token.field.permits c = true)
    (hstar : token.text ≠ ['*']) (hopen : '?' ∉ token.text)
    (helements : token.elements = (first, rest)) (hfirst : TermValues token.field first set)
    (hrest : List.Forall₂ (TermValues token.field) rest sets)
    (hshort : ∀ term ∈ first :: rest, ShortRuns term) :
    ∃ values more, token.compileDay = .ok (.values (.ofProgressions values more)) ∧
      values.toSet = set ∧ more.map Progression.toSet = sets := by
  obtain ⟨hshortFirst, hshortRest⟩ := List.forall_mem_cons.1 hshort
  have hne : token.text ≠ ['?'] := by
    intro heq
    simp [heq] at hopen
  rw [Token.compileDay, Token.checkCharacters, checkCharactersFrom_complete 0 hpermits, ok_bind,
    if_neg hstar, if_neg hne, if_neg (by simpa using hopen), helements]
  cases hrest with
  | nil =>
      -- a term on its own is read after the check that it is no marker
      obtain ⟨values, hvalues, hset⟩ := progression_complete 0 hfirst hshortFirst
      refine ⟨values, [], ?_, hset, rfl⟩
      dsimp only
      rw [Token.compileSingle, marker?_of_term fun c hc => hfirst.notMem (Field.writes_marker hc),
        ok_bind]
      dsimp only
      rw [hvalues]
      rfl
  | cons hsecond hothers =>
      obtain ⟨values, hvalues, hset⟩ := element_complete 0 hfirst hshortFirst
      obtain ⟨more, hmore, hsets⟩ :=
        readTerms_complete element_complete (first.length + 1) (.cons hsecond hothers) hshortRest
      refine ⟨values, more, ?_, hset, hsets⟩
      dsimp only
      rw [Token.compileList, hvalues, ok_bind, hmore]
      rfl

end Terms

/-- A list of terms, other than a single `*`, compiles to the union of their values. -/
lemma compileField_of_terms {terms : List (List Char)} {sets : List (Set Int)} {set : ValueSet}
    (htext : token.text = joinWith [','] terms) (hne : terms ≠ []) (hstar : terms ≠ [['*']])
    (hterms : List.Forall₂ (TermValues token.field) terms sets) (hmark : set.wildcard = false)
    (hset : set.toSet = {v | ∃ s ∈ sets, v ∈ s}) (hshort : ShortRuns token.text) :
    compileField token = .ok (.values set) := by
  have hchars : ∀ c ∈ token.text, c = ',' ∨ token.field.writes c = true := fun c hc =>
    TermValues.comma_or_writes hterms (htext ▸ hc)
  have hpermits : ∀ c ∈ token.text, token.field.permits c = true := fun c hc =>
    TermValues.permits_joinWith hterms (htext ▸ hc)
  have hpieces : pieces ',' token.text = terms := by
    rw [htext]
    exact TermValues.pieces_eq hterms hne
  have htextStar : token.text ≠ ['*'] := by
    intro heq
    rw [heq] at hpieces
    exact hstar hpieces.symm
  have hopen : '?' ∉ token.text := by
    intro hmem
    rcases hchars '?' hmem with hc | hc
    · exact absurd hc (by decide)
    · simp [Field.writes_unspecified] at hc
  have hshorts : ∀ term ∈ terms, ShortRuns term := fun term hterm =>
    hshort.of_infix (htext ▸ infix_joinWith hterm)
  have hunion : ∀ {values : Progression} {more : List Progression},
      values.toSet :: more.map Progression.toSet = sets →
        ValueSet.ofProgressions values more = set := by
    rintro values more rfl
    refine ValueSet.eq_of_toSet ?_ hmark.symm
    rw [hset, ValueSet.toSet_ofProgressions]
    simp
  obtain ⟨first, rest, rfl⟩ := List.exists_cons_of_ne_nil hne
  have helements : token.elements = (first, rest) := pieces_eq_cons_iff.1 hpieces
  cases hterms with
  | cons hfirst hrest =>
      simp only [compileField]
      split
      · obtain ⟨values, more, hday, rfl, rfl⟩ :=
          compileDay_of_terms hpermits htextStar hopen helements hfirst hrest hshorts
        rw [hday, hunion rfl]
      · obtain ⟨values, more, hvalues, rfl, rfl⟩ :=
          compileValues_of_terms hpermits htextStar helements hfirst hrest hshorts
        rw [hvalues, hunion rfl]
        rfl

/-- **A field whose text denotes a constraint compiles to it.** -/
theorem compileField_complete {constraint : Constraint}
    (h : FieldDenotes token.field token.text constraint) (hshort : ShortRuns token.text) :
    compileField token = .ok constraint := by
  generalize htext : token.text = text at h
  cases h with
  | wildcard hmark hset =>
      rw [compileField_of_star htext]
      exact congrArg _ (congrArg _ (ValueSet.eq_of_toSet
        ((ValueSet.toSet_full token.field true).trans hset.symm) hmark.symm))
  | marker h => exact compileField_of_marker (htext ▸ h) hshort
  | list hne hstar hterms hmark hset =>
      exact compileField_of_terms htext hne hstar hterms hmark hset hshort

/-- What a single `*` denotes. -/
lemma FieldDenotes.eq_of_star {field : Field} {constraint : Constraint}
    (h : FieldDenotes field ['*'] constraint) : constraint = .values (.full field true) := by
  have hcompile := @compileField_complete ⟨field, ['*'], 0, []⟩ constraint h
    (shortRuns_of_length (show 1 ≤ maxDigits by decide))
  have hstar := @compileField_of_star ⟨field, ['*'], 0, []⟩ rfl
  exact Except.ok.inj (hcompile.symm.trans hstar)

end CronSchedule.Expression
