import CronSchedule.Proofs.Expression.Pairing
import CronSchedule.Proofs.Schedule.RoundTrip
import CronSchedule.Proofs.Text.Respelling

/-!
# Expressions in another spelling

What an expression compiles to depends on its words only, and not on the case of their letters.  So
an expression that is spelled in another way compiles to the same timetable, or it fails for the
same reason at the same place of the same word.

* `alias?`, `spelling_expandAlias` — an alias is recognised by its words, too.
* `Failure.Alike`, `Agree` — failures and results of two texts that are the same up to the places of
  the words.
* **`WordByWord.agree`**, **`compile_agree`** — expressions with the same words, in either mode.
* `parse_text` — the text of a schedule is an expression for it.
* **`word_by_word`** — words, results and spellings together.
-/

namespace CronSchedule

open Expression Text

namespace Expression

variable {text text' : List Char}

/-! ## Aliases -/

lemma spelling_eq (text : List Char) : spelling text = (capitalWords text).map upper := by
  rw [spelling, capitalWords, wordTexts, List.map_map, List.map_map]
  exact List.map_congr_left fun found _ => (upper_capitals found.2).symm

/-- The expansion of an alias, if a text is one. -/
def alias? (text : List Char) : Option String :=
  aliases.lookup (String.ofList (lower (trim text)))

/-- An alias is a single word. -/
lemma wordTexts_of_alias {expansion : String} (h : alias? text = some expansion) :
    wordTexts text = [trim text] := by
  have hall : ∀ entry ∈ aliases, entry.1.toList ≠ [] ∧
      entry.1.toList.Forall fun c => isBlank c = false := by decide
  obtain ⟨before, after, haliases, -⟩ := List.lookup_eq_some_iff.1 h
  obtain ⟨hne, hsolid⟩ := hall (String.ofList (lower (trim text)), expansion) (by simp [haliases])
  rw [String.toList_ofList] at hne hsolid
  rw [List.forall_iff_forall_mem] at hsolid
  refine wordTexts_eq_singleton_iff.2 ⟨rfl, fun hnil => hne ?_, fun c hc => ?_⟩
  · rw [hnil]
    rfl
  · cases hblank : isBlank c with
    | false => rfl
    | true =>
        have hkept := hsolid c (mem_lowerAfter_of_isBlank hblank hc [])
        rw [hblank] at hkept
        cases hkept

/-- A text with the words of an alias is the same alias. -/
lemma alias?_of_capitalWords {expansion : String} (h : capitalWords text = capitalWords text')
    (hexpansion : alias? text = some expansion) : alias? text' = some expansion := by
  rw [capitalWords, wordTexts_of_alias hexpansion, capitalWords] at h
  obtain ⟨word, hword, hcapitals⟩ := List.map_eq_singleton_iff.1 h.symm
  have htrim := (wordTexts_eq_singleton_iff.1 hword).1
  have hlower : lower (trim text') = lower (trim text) := by
    rw [htrim, ← lower_capitals, hcapitals, lower_capitals]
  rw [alias?, hlower]
  exact hexpansion

lemma expandAlias_eq (text : List Char) :
    expandAlias text = ((alias? text).map String.toList).getD text := by
  rw [expandAlias, alias?]
  cases aliases.lookup (String.ofList (lower (trim text))) <;> rfl

/-- Texts with the same words stand for expressions with the same words. -/
lemma spelling_expandAlias (h : capitalWords text = capitalWords text') :
    spelling (expandAlias text) = spelling (expandAlias text') := by
  rw [expandAlias_eq, expandAlias_eq]
  cases halias : alias? text with
  | some expansion =>
      rw [alias?_of_capitalWords h halias]
      rfl
  | none =>
      cases halias' : alias? text' with
      | some expansion =>
          rw [alias?_of_capitalWords h.symm halias'] at halias
          cases halias
      | none =>
          show spelling text = spelling text'
          rw [spelling_eq, spelling_eq, h]

/-! ## Failures that are alike -/

/-- Failures of two texts are alike: they are of one kind, and errors of a field are so of the same
field at the same offset from its word. -/
inductive Failure.Alike (a b : List Char) : Failure → Failure → Prop
  | whole {e e' : Malformed} (hfield : e.field = none) (hfield' : e'.field = none)
      (hproblem : e.problem = e'.problem) : Failure.Alike a b (.malformed e) (.malformed e')
  | inField {e e' : Malformed} {field : Field} {place place' : Nat} {word word' : List Char}
      (hword : (words a)[field.index]? = some (place, word))
      (hword' : (words b)[field.index]? = some (place', word'))
      (hfield : e.field = some field) (hfield' : e'.field = some field)
      (hoffset : e.position - place = e'.position - place') :
      Failure.Alike a b (.malformed e) (.malformed e')
  | overlong (o : Overlong) : Failure.Alike a b (.overlong o) (.overlong o)

/-- Results of two texts agree: they are the same timetable, or failures that are alike. -/
inductive Agree (a b : List Char) : Except Failure Timetable → Except Failure Timetable → Prop
  | ok (t : Timetable) : Agree a b (.ok t) (.ok t)
  | error {failure failure' : Failure} (h : failure.Alike a b failure') :
      Agree a b (.error failure) (.error failure')

/-- The failure of a word on its own is alike at two places where the word may stand. -/
lemma alike_moved {a b word raw raw' : List Char} {field : Field} {place place' : Nat}
    {failure : Failure} (hword : (words a)[field.index]? = some (place, raw))
    (hword' : (words b)[field.index]? = some (place', raw'))
    (h : compileAlone field word = .error failure) :
    (failure.moved place a).Alike a b (failure.moved place' b) := by
  cases failure with
  | overlong o => exact .overlong o
  | malformed e =>
      obtain ⟨defect, offset, -, rfl⟩ :=
        (compileField_outcome ⟨field, word, 0, word⟩).of_eq_error h
      refine .inField hword hword' rfl rfl ?_
      simp [Malformed.moved, Token.malformed]

lemma constraints_injective {t t' : Timetable} (h : t.constraints = t'.constraints) : t = t' := by
  cases t
  cases t'
  simpa [Timetable.constraints, Timetable.constraint, Field.all] using h

/-! ## Expressions with the same words -/

section SameWords

variable {a b : List Char} {x y : Except Failure Timetable}

/-- If no element is empty, the words decide whether there is a timetable, and which. -/
lemma agree_of_nonempty (hx : WordByWord a x) (hy : WordByWord b y)
    (hwords : spelling a = spelling b) (hfields : HasFields a)
    (hempty : ∀ part ∈ fieldWords a, hasEmptyElement part.2 = false) : Agree a b x y := by
  have hparts : fieldWords b = fieldWords a := by rw [fieldWords, fieldWords, hwords]
  have hfields' : HasFields b := by rwa [HasFields, ← hwords]
  cases hfirst : (fieldWords a).find? fun part => !(compileAlone part.1 part.2).isOk with
  | some part =>
      obtain ⟨failure, hpart⟩ := exists_error_of_find? hfirst
      obtain ⟨place, raw, hword, herror⟩ := hx.fails hfields hempty hfirst hpart
      obtain ⟨place', raw', hword', herror'⟩ :=
        hy.fails hfields' (hparts ▸ hempty) (hparts ▸ hfirst) hpart
      rw [herror, herror']
      exact .error (alike_moved hword hword' hpart)
  | none =>
      have hall : ∀ part ∈ fieldWords a, (compileAlone part.1 part.2).isOk = true := by
        simpa using hfirst
      obtain ⟨t, ht⟩ := (hx.succeeds_iff hfields hempty).2 hall
      obtain ⟨t', ht'⟩ := (hy.succeeds_iff hfields' (hparts ▸ hempty)).2 (hparts ▸ hall)
      obtain ⟨constraints, hconstraints, hlist⟩ := hx.constraints ht
      obtain ⟨constraints', hconstraints', hlist'⟩ := hy.constraints ht'
      rw [hparts] at hconstraints'
      have hsame := (mapM_eq_ok_iff.2 hconstraints).symm.trans (mapM_eq_ok_iff.2 hconstraints')
      obtain rfl : t = t' := constraints_injective (by
        rw [hlist, hlist', Except.ok.inj hsame, hwords])
      rw [ht, ht']
      exact .ok t

/-- **What texts with the same words compile to agrees.** -/
theorem WordByWord.agree (hx : WordByWord a x) (hy : WordByWord b y)
    (hwords : spelling a = spelling b) : Agree a b x y := by
  have hparts : fieldWords b = fieldWords a := by rw [fieldWords, fieldWords, hwords]
  by_cases hfields : HasFields a
  · have hfields' : HasFields b := by rwa [HasFields, ← hwords]
    cases hempty : (fieldWords a).find? (hasEmptyElement ·.2) with
    | some part =>
        obtain ⟨e, place, raw, offset, herror, hfield, hword, hoffset, rfl⟩ :=
          hx.emptyElement hfields hempty
        obtain ⟨e', place', raw', offset', herror', hfield', hword', hoffset', rfl⟩ :=
          hy.emptyElement hfields' (hparts ▸ hempty)
        obtain rfl : offset = offset' := Option.some.inj (hoffset.symm.trans hoffset')
        rw [herror, herror']
        refine .error (.inField hword hword' hfield hfield' ?_)
        simp [Token.malformed]
    | none => exact agree_of_nonempty hx hy hwords hfields (by simpa using hempty)
  · have hfields' : ¬HasFields b := by rwa [HasFields, ← hwords]
    obtain ⟨e, herror, hfield, hproblem⟩ := hx.miscounted hfields
    obtain ⟨e', herror', hfield', hproblem'⟩ := hy.miscounted hfields'
    rw [herror, herror']
    exact .error (.whole hfield hfield' (by rw [hproblem, hproblem', hwords]))

end SameWords

/-! ## Either mode -/

/-- **Expressions with the same words compile alike**, in either mode. -/
theorem compile_agree (strict : Bool) (h : capitalWords text = capitalWords text') :
    Agree (expandAlias text) (expandAlias text') (compile strict text) (compile strict text') := by
  have hlenient := (compile_wordByWord text).agree (compile_wordByWord text')
    (spelling_expandAlias h)
  cases hx : compile false text with
  | error failure =>
      cases hy : compile false text' with
      | error failure' =>
          rw [compile_of_error strict hx, compile_of_error strict hy, ← hx, ← hy]
          exact hlenient
      | ok t' =>
          rw [hx, hy] at hlenient
          cases hlenient
  | ok t =>
      cases hy : compile false text' with
      | error failure' =>
          rw [hx, hy] at hlenient
          cases hlenient
      | ok t' =>
          rw [hx, hy] at hlenient
          cases hlenient
          obtain ⟨⟨place, word⟩, hword, hresult⟩ := compile_of_ok strict hx
          obtain ⟨⟨place', word'⟩, hword', hresult'⟩ := compile_of_ok strict hy
          -- the timetables are the same, so both are refused or none
          rw [hresult, hresult']
          split
          · refine .error (.inField hword hword' rfl rfl ?_)
            simp [Token.malformed, Token.atWord]
          · exact .ok t

end Expression

/-! ## Schedules -/

namespace Schedule

/-- The text of a schedule is an expression for it. -/
lemma parse_text {strict : Bool} {text : List Char} {s : Schedule}
    (h : parse strict text = .ok s) :
    ∃ again, parse strict s.text = .ok again ∧ s.sameTimes again = true := by
  obtain ⟨t, ht, rfl⟩ := parse_eq_ok_iff.1 h
  obtain ⟨lead, trail, htext, hlead, htrail⟩ := exists_trim text
  have hwords : capitalWords (trim text) = capitalWords text := by
    conv_rhs => rw [htext]
    exact (Respelled.margin hlead htrail (trim text)).capitalWords_eq
  have hagree := compile_agree strict hwords
  rw [ht] at hagree
  generalize hx : compile strict (trim text) = x at hagree
  cases hagree
  exact ⟨make (trim text) t, parse_eq_ok_iff.2 ⟨t, hx, rfl⟩, sameTimes_iff.2 rfl⟩

/-- **Expressions compile word by word.**  The words are the maximal runs without a blank, in order.
Their number is checked first, then each for empty elements, and then each is compiled on its own;
the leftmost one that fails decides the error.  So an expression in another spelling compiles to the
same timetable or fails alike, and the text of a schedule parses to an equal schedule. -/
theorem word_by_word :
    (∀ text, (words text).Pairwise (·.1 < ·.1) ∧
      ∀ position word, (position, word) ∈ words text ↔ IsRun text position word) ∧
    (∀ text, WordByWord (expandAlias text) (compile false text)) ∧
    (∀ strict text text', Relation.ReflTransGen Respelled text text' →
      Agree (expandAlias text) (expandAlias text') (compile strict text) (compile strict text')) ∧
    (∀ strict text s, parse strict text = .ok s →
      ∃ again, parse strict s.text = .ok again ∧ s.sameTimes again = true) := by
  refine ⟨fun text => ⟨pairwise_words text, fun _ _ => mem_words_iff⟩, compile_wordByWord, ?_, ?_⟩
  · intro strict text text' h
    exact compile_agree strict (capitalWords_eq h)
  · intro strict text s h
    exact parse_text h

/-- A name that is none is refused in every spelling, and an alias between blanks is read back. -/
theorem word_by_word_noon :
    let noon : List Char := "0 0 12 ? * noon".toList
    let other : List Char := "  0 0\t12 ? * NooN".toList
    Relation.ReflTransGen Respelled noon other ∧
      Agree noon other (compile true noon) (compile true other) ∧
      ∃ s again, parse true " @Daily\n".toList = .ok s ∧ parse true s.text = .ok again ∧
        s.sameTimes again = true := by
  intro noon other
  obtain ⟨-, -, hspelling, hparse⟩ := word_by_word
  have hsteps : Relation.ReflTransGen Respelled noon other := by
    have hletters : Respelled noon "0 0 12 ? * NooN".toList := .letters (by decide)
    have hgap : Respelled "0 0 12 ? * NooN".toList "0 0\t12 ? * NooN".toList :=
      .gap "0 0".toList "12 ? * NooN".toList (by decide : IsGap [' ']) (by decide : IsGap ['\t'])
    have hblanks : ∀ c ∈ [' ', ' '], isBlank c = true :=
      List.forall_iff_forall_mem.1 (by decide)
    have hmargin : Respelled "0 0\t12 ? * NooN".toList other :=
      .margin hblanks (List.forall_mem_nil _) "0 0\t12 ? * NooN".toList
    exact ((Relation.ReflTransGen.single hletters).tail hgap).tail hmargin
  refine ⟨hsteps, hspelling true noon other hsteps, ?_⟩
  have hparsed : (parse true " @Daily\n".toList).toOption.isSome = true := by decide +kernel
  obtain ⟨s, hs⟩ := exists_ok_of_isSome hparsed
  obtain ⟨again, hagain, hsame⟩ := hparse true _ s hs
  exact ⟨s, again, hs, hagain, hsame⟩

end Schedule

end CronSchedule
