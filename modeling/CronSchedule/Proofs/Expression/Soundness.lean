import CronSchedule.Expression.Compile
import CronSchedule.Proofs.Expression.Alphabet
import CronSchedule.Proofs.Outcome

/-!
# What a field compiles to is what its text denotes

Every step of compiling a field either gives what the grammar says, or fails with a defect at a
place in the token or with a numeral of the token that is too long to be read.

* `Token.Shows`, `Token.Flags` — a defect at a place in a token, and the error for it.
* `Token.Refuses` — the failures of a token; `Token.Holds` — a part of a token with its offset.
* `value_outcome`, …, `marker?_outcome` — the steps, from values to terms and markers.
* **`compileField_outcome`** — a field.
-/

namespace CronSchedule.Expression

open Text

variable {α : Type} {token : Token} {term text a b : List Char} {c : Char} {offset : Nat}

/-! ## Failures and places -/

/-- A place in a token, or right after it, shows a defect: a forbidden character stands there. -/
structure Token.Shows (token : Token) (defect : Defect) (offset : Nat) : Prop where
  within : offset ≤ token.text.length
  forbidden : ∀ c, defect = .forbidden c →
    token.text[offset]? = some c ∧ token.field.permits c = false

/-- The errors that are about a token: each shows a defect at its place. -/
def Token.Flags (token : Token) (e : Malformed) : Prop :=
  ∃ defect offset, token.Shows defect offset ∧ e = token.malformed defect offset

/-- The failures that are about a token: a defect at a place in its text, or a run of digits in it
that is too long to be read. -/
def Token.Refuses (token : Token) : Failure → Prop
  | .malformed e => token.Flags e
  | .overlong _ => ¬ShortRuns token.text

/-- A text stands in a token at an offset. -/
def Token.Holds (token : Token) (offset : Nat) (part : List Char) : Prop :=
  ∃ before after, token.text = before ++ part ++ after ∧ before.length = offset

namespace Token.Holds

lemma self (token : Token) : token.Holds 0 token.text := ⟨[], [], by simp, rfl⟩

lemma le_length (h : token.Holds offset text) : offset ≤ token.text.length := by
  obtain ⟨before, after, htext, rfl⟩ := h
  simp only [htext, List.length_append]
  omega

lemma isInfix (h : token.Holds offset text) : text <:+: token.text := by
  obtain ⟨before, after, htext, -⟩ := h
  exact ⟨before, after, htext.symm⟩

lemma left (h : token.Holds offset (a ++ b)) : token.Holds offset a := by
  obtain ⟨before, after, htext, hlength⟩ := h
  exact ⟨before, b ++ after, by simp [htext], hlength⟩

/-- The first character of a part stands at the place of the part. -/
lemma getElem?_eq (h : token.Holds offset (c :: text)) : token.text[offset]? = some c := by
  obtain ⟨before, after, htext, rfl⟩ := h
  simp [htext]

lemma right (h : token.Holds offset (a ++ c :: b)) : token.Holds (offset + a.length + 1) b := by
  obtain ⟨before, after, htext, hlength⟩ := h
  refine ⟨before ++ a ++ [c], after, by simp [htext], ?_⟩
  simp only [List.length_append, List.length_singleton, hlength]

/-- The first of several texts with commas between them, and the others. -/
lemma of_joinWith_cons {rest : List (List Char)}
    (h : token.Holds offset (joinWith [','] (term :: rest))) :
    token.Holds offset term ∧
      (rest ≠ [] → token.Holds (offset + term.length + 1) (joinWith [','] rest)) := by
  by_cases hne : rest = []
  · subst hne
    exact ⟨h, fun hne => absurd rfl hne⟩
  · rw [joinWith_cons term hne] at h
    exact ⟨h.left, fun _ => h.right⟩

end Token.Holds

/-- A defect other than a forbidden character may be shown at any place. -/
lemma fail_outcome {good : α → Prop} (h : offset ≤ token.text.length) (defect : Defect)
    (hdefect : ∀ c, defect ≠ .forbidden c) :
    Outcome token.Refuses good (token.fail defect offset) :=
  ⟨defect, offset, ⟨h, fun c hc => absurd hc (hdefect c)⟩, rfl⟩

/-- A numeral of a token is read as the number that it denotes. -/
lemma readNumeral_outcome {digits : List Char} (hwithin : digits <:+: token.text)
    (hdigits : isNumeral digits = true) :
    Outcome token.Refuses (· = ofDigits digits) (readNumeral digits) := by
  unfold readNumeral readDigits
  split
  · rename_i hlong
    exact fun hshort => absurd (hshort digits hwithin (isNumeral_iff.1 hdigits).2) (by omega)
  · exact Outcome.pure rfl

/-- The check of the characters passes only texts with characters that the field permits. -/
lemma checkCharactersFrom_outcome (h : token.Holds offset text) :
    Outcome token.Refuses (fun _ => ∀ c ∈ text, token.field.permits c = true)
      (token.checkCharactersFrom offset text) := by
  induction text generalizing offset with
  | nil => exact Outcome.pure (by simp)
  | cons c rest ih =>
      simp only [Token.checkCharactersFrom]
      split
      · rename_i hc
        have hrest : token.Holds (offset + 1) rest := Token.Holds.right (a := []) h
        exact (ih hrest).mono fun _ hall => List.forall_mem_cons.2 ⟨hc, hall⟩
      · rename_i hc
        refine ⟨.forbidden c, offset, ⟨h.le_length, ?_⟩, rfl⟩
        rintro _ ⟨⟩
        exact ⟨h.getElem?_eq, eq_false_of_ne_true hc⟩

/-! ## Terms -/

lemma value_outcome (h : token.Holds offset text) :
    Outcome token.Refuses (IsValue token.field text) (token.value text offset) := by
  simp only [Token.value]
  split
  · rename_i value hlookup
    obtain ⟨before, after, hnames, -⟩ := List.lookup_eq_some_iff.1 hlookup
    exact Outcome.pure (.name (by simp [hnames]))
  · split
    · exact fail_outcome h.le_length _ (by split <;> nofun)
    · rename_i hdigits
      replace hdigits : isNumeral text = true := by simpa using hdigits
      have hread : Outcome token.Refuses (· = (ofDigits text : Int)) (do
          let n ← readNumeral text
          pure (n : Int)) :=
        (readNumeral_outcome h.isInfix hdigits).bind fun n hn => Outcome.pure (congrArg _ hn)
      refine hread.bind fun value hvalue => ?_
      · subst hvalue
        split
        · rename_i hrange
          exact Outcome.pure (.numeral hdigits hrange)
        · exact fail_outcome h.le_length _ nofun

lemma step_outcome (h : token.Holds offset text) :
    Outcome token.Refuses (IsStep text) (token.step text offset) := by
  simp only [Token.step]
  split
  · exact fail_outcome h.le_length _ nofun
  · rename_i hdigits
    replace hdigits : isNumeral text = true := by simpa using hdigits
    refine (readNumeral_outcome h.isInfix hdigits).bind fun n hn => ?_
    subst hn
    split
    · exact fail_outcome h.le_length _ nofun
    · rename_i hzero
      exact Outcome.pure ⟨hdigits, rfl, Nat.pos_of_ne_zero hzero⟩

lemma range_outcome (h : token.Holds offset term) :
    Outcome token.Refuses (fun ends => IsRange token.field term ends.1 ends.2)
      (token.range term offset) := by
  simp only [Token.range]
  split
  · rename_i first last hsplit
    obtain ⟨rfl, -, -⟩ := splitOn_eq_singleton_iff.1 hsplit
    split
    · exact fail_outcome h.le_length _ nofun
    · refine (value_outcome h.left).bind fun low hlow => ?_
      refine (value_outcome h.right).bind fun high hhigh => ?_
      split
      · exact fail_outcome h.le_length _ nofun
      · rename_i hle
        exact Outcome.pure (.mk hlow hhigh (not_lt.1 hle))
  · exact fail_outcome h.le_length _ nofun

/-- What stands before a step gives the ends between which the steps are taken. -/
lemma stepBase_outcome (h : token.Holds offset text) (hterm : offset ≤ token.text.length) :
    Outcome token.Refuses
      (fun ends => ends.1 ≤ ends.2 ∧ ∀ {digits : List Char} {step : Nat}, IsStep digits step →
        TermValues token.field (text ++ '/' :: digits) (stepsUpTo ends.1 step ends.2))
      (token.stepBase term text offset) := by
  simp only [Token.stepBase]
  split
  · rename_i hstar
    subst hstar
    exact Outcome.pure ⟨by cases token.field <;> decide, .everyStep⟩
  · split
    · exact (range_outcome h).mono fun ends hends => ⟨hends.le, .rangeStep hends⟩
    · split
      · exact fail_outcome hterm _ nofun
      · refine (value_outcome h).bind fun value hvalue => ?_
        exact Outcome.pure ⟨hvalue.le_high, .valueStep hvalue⟩

lemma progression_outcome (h : token.Holds offset term) :
    Outcome token.Refuses (fun values => TermValues token.field term values.toSet)
      (token.progression term offset) := by
  simp only [Token.progression]
  split
  · rename_i base digits hsplit
    obtain ⟨rfl, -, -⟩ := splitOn_eq_singleton_iff.1 hsplit
    refine (step_outcome h.right).bind fun step hstep => ?_
    refine (stepBase_outcome h.left h.le_length).bind fun ends ⟨hle, hends⟩ => ?_
    have hterm := hends hstep
    rw [← Progression.toSet_upTo hle hstep.pos] at hterm
    exact Outcome.pure hterm
  · exact fail_outcome h.le_length _ nofun
  · split
    · rename_i hstar
      subst hstar
      refine Outcome.pure ?_
      have hrange : token.field.low ≤ token.field.high := by cases token.field <;> decide
      rw [Progression.toSet_upTo hrange Nat.one_pos, stepsUpTo_one]
      exact .every
    · split
      · refine (range_outcome h).bind fun ends hends => Outcome.pure ?_
        rw [Progression.toSet_upTo hends.le Nat.one_pos, stepsUpTo_one]
        exact .range hends
      · refine (value_outcome h).bind fun value hvalue => Outcome.pure ?_
        rw [Progression.toSet_single]
        exact .value hvalue

/-! ## Markers -/

/-- A term of the day of month that begins no marker with an `L`. -/
lemma dayOfMonthMarker?_of_ne (hlast : term ≠ ['L']) (hworkday : term ≠ ['L', 'W'])
    (hbefore : ∀ digits, term = 'L' :: '-' :: digits → isNumeral digits = false) :
    token.dayOfMonthMarker? term offset =
      if term.getLast? = some 'W' && isNumeral term.dropLast then do
        let day ← token.value term.dropLast offset
        return some (.rule (.nearestWorkday day))
      else if term.contains 'L' || term.contains 'W' then token.fail (.misplacedLetter term) offset
      else .ok none := by
  unfold Token.dayOfMonthMarker?
  rw [if_neg hlast, if_neg hworkday]
  dsimp only
  split
  · rename_i digits
    rw [if_neg (by simp [hbefore digits rfl])]
    rfl
  · rfl

/-- A term of the day of month that counts days before the last one. -/
lemma dayOfMonthMarker?_before {digits : List Char} (hdigits : isNumeral digits = true) :
    token.dayOfMonthMarker? ('L' :: '-' :: digits) offset = do
      let before ← readNumeral digits
      if maxLastOffset < before then token.fail (.lastOffset before) offset
      else return some (.rule (.lastDay before)) := by
  simp only [Token.dayOfMonthMarker?]
  rw [if_neg (by simp), if_neg (by simp)]
  simp only [hdigits, if_true]
  rfl

lemma dayOfMonthMarker?_outcome (hfield : token.field = .dayOfMonth)
    (h : token.Holds offset term) :
    Outcome token.Refuses (fun found => ∀ m, found = some m → MarkerDenotes token.field term m)
      (token.dayOfMonthMarker? term offset) := by
  by_cases hlast : term = ['L']
  · subst hlast
    exact Outcome.pure fun m hm => by cases hm; exact hfield ▸ .lastDay
  by_cases hworkday : term = ['L', 'W']
  · subst hworkday
    exact Outcome.pure fun m hm => by cases hm; exact hfield ▸ .lastWorkday
  by_cases hbefore : ∀ digits, term = 'L' :: '-' :: digits → isNumeral digits = false
  · rw [dayOfMonthMarker?_of_ne hlast hworkday hbefore]
    split
    · rename_i hnearest
      simp only [Bool.and_eq_true, decide_eq_true_eq] at hnearest
      obtain ⟨init, rfl⟩ := List.getLast?_eq_some_iff.1 hnearest.1
      rw [List.dropLast_concat]
      refine (value_outcome h.left).bind fun day hday => Outcome.pure fun m hm => ?_
      cases hm
      exact hfield ▸ .nearestWorkday (hfield ▸ hday)
    · split
      · exact fail_outcome h.le_length _ nofun
      · exact Outcome.pure fun m hm => by cases hm
  · push Not at hbefore
    obtain ⟨digits, rfl, hdigits⟩ := hbefore
    replace hdigits : isNumeral digits = true := by simpa using hdigits
    rw [dayOfMonthMarker?_before hdigits]
    have hwithin : digits <:+: token.text :=
      (List.suffix_append ['L', '-'] digits).isInfix.trans h.isInfix
    refine (readNumeral_outcome hwithin hdigits).bind fun before hn => ?_
    subst hn
    split
    · exact fail_outcome h.le_length _ nofun
    · rename_i hle
      refine Outcome.pure fun m hm => ?_
      cases hm
      exact hfield ▸ .beforeLastDay hdigits (not_lt.1 hle)

/-- A term of the day of week without a `#`. -/
lemma dayOfWeekMarker?_of_notMem (hlast : term ≠ ['L']) (hnth : '#' ∉ term) :
    token.dayOfWeekMarker? term offset =
      if term.getLast? = some 'L' && isWord term.dropLast then do
        let weekday ← token.value term.dropLast offset
        return some (.rule (.lastWeekday weekday))
      else .ok none := by
  simp only [Token.dayOfWeekMarker?]
  rw [if_neg hlast, splitOn_of_notMem hnth]
  rfl

/-- A term of the day of week with a `#`, the first of which is given. -/
lemma dayOfWeekMarker?_of_mem {day digits : List Char} (hday : '#' ∉ day) :
    token.dayOfWeekMarker? (day ++ '#' :: digits) offset =
      if isWord day && isNumeral digits then do
        let weekday ← token.value day offset
        let occurrence ← readNumeral digits
        if occurrence < 1 || maxOccurrence < occurrence then
          token.fail (.occurrence occurrence) (offset + day.length + 1)
        else return some (.rule (.nthWeekday weekday occurrence))
      else token.fail (.misplacedNth (day ++ '#' :: digits)) offset := by
  have hlast : day ++ '#' :: digits ≠ ['L'] := by
    intro heq
    have hmem : '#' ∈ ['L'] := heq ▸ by simp
    simp at hmem
  simp only [Token.dayOfWeekMarker?]
  rw [if_neg hlast, splitOn_append hday]
  rcases exists_first_separator '#' digits with hdigits | ⟨first, rest, rfl, hfirst⟩
  · rw [pieces_of_notMem hdigits]
    rfl
  · -- what stands after the first of several is no numeral, so both sides refuse the term
    have hnumeral : isNumeral (first ++ '#' :: rest) = false := by
      by_contra hne
      exact notMem_of_isNumeral (eq_true_of_ne_false hne) (by decide) (by simp : '#' ∈ _)
    obtain ⟨second, more, hrest⟩ := List.exists_cons_of_ne_nil (pieces_ne_nil '#' rest)
    rw [pieces_append hfirst, hrest]
    simp only [hnumeral, Bool.and_false, Bool.false_eq_true, if_false]
    rfl

lemma dayOfWeekMarker?_outcome (hfield : token.field = .dayOfWeek)
    (h : token.Holds offset term) :
    Outcome token.Refuses (fun found => ∀ m, found = some m → MarkerDenotes token.field term m)
      (token.dayOfWeekMarker? term offset) := by
  by_cases hlast : term = ['L']
  · subst hlast
    refine Outcome.pure fun m hm => ?_
    cases hm
    rw [hfield]
    exact .saturday
  rcases exists_first_separator '#' term with hnth | ⟨day, digits, rfl, hday⟩
  · rw [dayOfWeekMarker?_of_notMem hlast hnth]
    split
    · rename_i hweekday
      simp only [Bool.and_eq_true, decide_eq_true_eq] at hweekday
      obtain ⟨init, rfl⟩ := List.getLast?_eq_some_iff.1 hweekday.1
      rw [List.dropLast_concat]
      refine (value_outcome h.left).bind fun weekday hvalue => Outcome.pure fun m hm => ?_
      cases hm
      exact hfield ▸ .lastWeekday (hfield ▸ hvalue)
    · exact Outcome.pure fun m hm => by cases hm
  · rw [dayOfWeekMarker?_of_mem hday]
    split
    · rename_i hshape
      simp only [Bool.and_eq_true] at hshape
      refine (value_outcome h.left).bind fun weekday hvalue => ?_
      refine (readNumeral_outcome h.right.isInfix hshape.2).bind fun occurrence hn => ?_
      subst hn
      split
      · exact fail_outcome h.right.le_length _ nofun
      · rename_i hbounds
        simp only [Bool.or_eq_true, decide_eq_true_eq, not_or, not_lt] at hbounds
        refine Outcome.pure fun m hm => ?_
        cases hm
        exact hfield ▸ .nthWeekday (hfield ▸ hvalue) hshape.2 hbounds.1 hbounds.2
    · exact fail_outcome h.le_length _ nofun

lemma marker?_outcome (h : token.Holds offset term) :
    Outcome token.Refuses (fun found => ∀ m, found = some m → MarkerDenotes token.field term m)
      (token.marker? term offset) := by
  simp only [Token.marker?]
  split
  · rename_i hfield
    exact dayOfMonthMarker?_outcome hfield h
  · rename_i hfield
    exact dayOfWeekMarker?_outcome hfield h
  · exact Outcome.pure fun m hm => by cases hm

/-! ## Lists of terms -/

/-- How the terms of a list are read: each as a part of the token, with the values it denotes. -/
def Token.ReadsTerms (token : Token)
    (read : List Char → Nat → Except Failure Progression) : Prop :=
  ∀ {term : List Char} {offset : Nat}, token.Holds offset term →
    Outcome token.Refuses (fun values => TermValues token.field term values.toSet)
      (read term offset)

variable {read : List Char → Nat → Except Failure Progression}

lemma readTerms_outcome (hread : token.ReadsTerms read) {terms : List (List Char)}
    (h : terms ≠ [] → token.Holds offset (joinWith [','] terms)) :
    Outcome token.Refuses
      (fun values => List.Forall₂ (TermValues token.field) terms (values.map Progression.toSet))
      (readTerms read offset terms) := by
  induction terms generalizing offset with
  | nil => exact Outcome.pure .nil
  | cons term rest ih =>
      obtain ⟨hterm, hrest⟩ := (h (List.cons_ne_nil term rest)).of_joinWith_cons
      refine (hread hterm).bind fun values hvalues => ?_
      exact (ih hrest).bind fun more hmore => Outcome.pure (.cons hvalues hmore)

lemma joinWith_elements {first : List Char} {rest : List (List Char)}
    (helements : token.elements = (first, rest)) : joinWith [','] (first :: rest) = token.text := by
  have hsplit : splitOn ',' token.text = (first, rest) := helements
  rw [← joinWith_pieces ',' token.text, pieces, hsplit]

lemma holds_elements {first : List Char} {rest : List (List Char)}
    (helements : token.elements = (first, rest)) :
    token.Holds 0 first ∧ (rest ≠ [] → token.Holds (first.length + 1) (joinWith [','] rest)) := by
  have hself := Token.Holds.self token
  rw [← joinWith_elements helements] at hself
  simpa using hself.of_joinWith_cons

/-- The union of the values of the terms is what a text other than a single `*` denotes. -/
lemma list_denotes {first : List Char} {rest : List (List Char)} {values : Progression}
    {more : List Progression} (helements : token.elements = (first, rest))
    (hstar : token.text ≠ ['*']) (hfirst : TermValues token.field first values.toSet)
    (hrest : List.Forall₂ (TermValues token.field) rest (more.map Progression.toSet)) :
    FieldDenotes token.field token.text (.values (.ofProgressions values more)) := by
  have hjoin := joinWith_elements helements
  rw [← hjoin]
  refine .list (List.cons_ne_nil first rest) ?_ (.cons hfirst hrest) rfl ?_
  · intro heq
    rw [heq] at hjoin
    exact hstar hjoin.symm
  · simp [ValueSet.toSet_ofProgressions]

/-! ## Fields -/

lemma wildcard_denotes (hstar : token.text = ['*']) :
    FieldDenotes token.field token.text (.values (.full token.field true)) := by
  rw [hstar]
  exact .wildcard rfl (ValueSet.toSet_full token.field true)

lemma compileValues_outcome (token : Token) :
    Outcome token.Refuses (fun set => FieldDenotes token.field token.text (.values set))
      token.compileValues := by
  simp only [Token.compileValues]
  refine (checkCharactersFrom_outcome (Token.Holds.self token)).bind fun _ _ => ?_
  split
  · rename_i hstar
    exact Outcome.pure (wildcard_denotes hstar)
  · rename_i hstar
    obtain ⟨hfirst, hrest⟩ := holds_elements (rfl : token.elements = token.elements)
    refine (progression_outcome hfirst).bind fun values hvalues => ?_
    refine (readTerms_outcome progression_outcome hrest).bind fun more hmore => ?_
    exact Outcome.pure (list_denotes rfl hstar hvalues hmore)

lemma element_outcome : token.ReadsTerms token.element := by
  intro term offset h
  simp only [Token.element]
  refine (marker?_outcome h).bind fun found _ => ?_
  cases found with
  | some m => exact fail_outcome h.le_length _ nofun
  | none => exact progression_outcome h

lemma compileSingle_outcome (helements : token.elements = (term, []))
    (hstar : token.text ≠ ['*']) :
    Outcome token.Refuses (FieldDenotes token.field token.text) (token.compileSingle term) := by
  obtain ⟨-, rfl⟩ := splitOn_eq_nil_iff.1 helements
  simp only [Token.compileSingle]
  refine (marker?_outcome (Token.Holds.self token)).bind fun found hfound => ?_
  cases found with
  | some m => exact Outcome.pure (.marker (hfound m rfl))
  | none =>
      refine (progression_outcome (Token.Holds.self token)).bind fun values hvalues => ?_
      exact Outcome.pure (list_denotes helements hstar hvalues .nil)

lemma compileList_outcome {first : List Char} {rest : List (List Char)}
    (helements : token.elements = (first, rest)) (hstar : token.text ≠ ['*']) :
    Outcome token.Refuses (FieldDenotes token.field token.text)
      (token.compileList first rest) := by
  obtain ⟨hfirst, hrest⟩ := holds_elements helements
  simp only [Token.compileList]
  refine (element_outcome hfirst).bind fun values hvalues => ?_
  refine (readTerms_outcome element_outcome hrest).bind fun more hmore => ?_
  exact Outcome.pure (list_denotes helements hstar hvalues hmore)

lemma compileDay_outcome (hday : token.field.isDay = true) :
    Outcome token.Refuses (FieldDenotes token.field token.text) token.compileDay := by
  simp only [Token.compileDay]
  refine (checkCharactersFrom_outcome (Token.Holds.self token)).bind fun _ _ => ?_
  split
  · rename_i hstar
    exact Outcome.pure (wildcard_denotes hstar)
  rename_i hstar
  split
  · rename_i hopen
    rw [hopen]
    exact Outcome.pure (.marker (.unspecified hday))
  split
  · exact fail_outcome (Nat.zero_le _) _ nofun
  split
  · rename_i term helements
    exact compileSingle_outcome helements hstar
  · rename_i first rest helements
    exact compileList_outcome helements hstar

/-- **A field compiles to what its text denotes, or fails with a defect of the text or with a
numeral in it that is too long.** -/
theorem compileField_outcome (token : Token) :
    Outcome token.Refuses (FieldDenotes token.field token.text) (compileField token) := by
  simp only [compileField]
  split
  · rename_i hday
    exact compileDay_outcome hday
  · exact (compileValues_outcome token).bind fun set hset => Outcome.pure hset

end CronSchedule.Expression
