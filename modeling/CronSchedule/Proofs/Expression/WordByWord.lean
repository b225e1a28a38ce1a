import CronSchedule.Proofs.Expression.Compiled
import CronSchedule.Proofs.Expression.Relocation
import Mathlib.Tactic.IntervalCases

/-!
# Expressions compile word by word

Compiling goes through the words of an expression twice: first each becomes a token, which may fail
for an empty element, and then each token is compiled.  Either pass stops at the first word that
fails.

* `spelling`, `fieldWords` — the words in upper case, and each with the field of its place.
* `compileAlone` — a word on its own; `compileField_atWord` — its place does not count.
* `tokenize_eq`, `tokens_compile_eq` — the two passes, as a step for each word.
* `WordByWord` — what the words say of the result.
* **`compile_wordByWord`** — they say this of every expression.
-/

namespace CronSchedule.Expression

open Text

variable {expression text word : List Char} {field : Field}

/-! ## Words and fields -/

/-- The words of a text in upper case. -/
def spelling (text : List Char) : List (List Char) :=
  (words text).map fun found => upper found.2

/-- The words of a text in upper case, each after the field at whose place it stands. -/
def fieldWords (text : List Char) : List (Field × List Char) :=
  Field.all.zip (spelling text)

/-- A text has as many words as an expression may have. -/
def HasFields (text : List Char) : Prop :=
  (spelling text).length = 6 ∨ (spelling text).length = 7

/-- A word compiled on its own, as the text of a field. -/
def compileAlone (field : Field) (word : List Char) : Except Failure Constraint :=
  compileField ⟨field, word, 0, word⟩

/-- Whether an element of the list that a word is has no characters. -/
def hasEmptyElement (word : List Char) : Bool :=
  (pieces ',' word).contains []

lemma length_spelling (text : List Char) : (spelling text).length = (words text).length :=
  List.length_map _

lemma fieldWords_eq (text : List Char) : fieldWords text =
    (Field.all.zip (words text)).map fun part => (part.1, upper part.2.2) := by
  rw [fieldWords, spelling, List.zip_map_right]
  rfl

/-- The word of a field stands at the place of the field. -/
lemma getElem?_of_mem_zip {found : List (Nat × List Char)} {word : Nat × List Char}
    (h : (field, word) ∈ Field.all.zip found) : found[field.index]? = some word := by
  obtain ⟨i, hi⟩ := List.mem_iff_getElem?.1 h
  rw [List.getElem?_zip_eq_some] at hi
  have hindex : ∀ (i : Nat) (f : Field), Field.all[i]? = some f → f.index = i := by
    -- the seven fields are listed in the order of their places
    intro i f hf
    have hbound : i < 7 := (List.getElem?_eq_some_iff.1 hf).1
    revert f
    interval_cases i <;> decide
  rw [hindex i field hi.1]
  exact hi.2

/-! ## Two passes over the words -/

/-- Words are read one by one. -/
lemma ofWords_eq (second minute hour dayOfMonth month dayOfWeek : Nat × List Char)
    (year : Option (Nat × List Char)) :
    Tokens.toList <$> Tokens.ofWords expression second minute hour dayOfMonth month dayOfWeek year =
      (Field.all.zip ([second, minute, hour, dayOfMonth, month, dayOfWeek] ++ year.toList)).mapM
        fun part => Token.ofWord expression part.1 part.2 := by
  cases year with
  | none => simp [Tokens.ofWords, Field.all, Tokens.toList]
  | some year => simp [Tokens.ofWords, Field.all, Tokens.toList]

/-- The six or seven words of an expression are read one by one. -/
lemma tokenize_eq (h : HasFields (expandAlias expression)) :
    Tokens.toList <$> tokenize expression =
      (Field.all.zip (words (expandAlias expression))).mapM fun part =>
        Token.ofWord (expandAlias expression) part.1 part.2 := by
  rw [HasFields, length_spelling] at h
  unfold tokenize
  dsimp only
  generalize words (expandAlias expression) = found at h ⊢
  rcases found with
    _ | ⟨second, _ | ⟨minute, _ | ⟨hour, _ | ⟨days, _ | ⟨month, _ | ⟨week, rest⟩⟩⟩⟩⟩⟩
  iterate 6 simp at h
  rcases rest with _ | ⟨year, _ | ⟨extra, others⟩⟩
  · exact ofWords_eq second minute hour days month week none
  · exact ofWords_eq second minute hour days month week (some year)
  · simp at h

/-- The constraint of a year that is left out, as it is if there are six words. -/
def leftOut (count : Nat) : List Constraint :=
  if count = 6 then [.values (.full .year true)] else []

/-- Tokens are compiled one by one, and a year that is left out is a wildcard. -/
lemma tokens_compile_eq {tokens : Tokens} (hplace : tokens.InPlace) :
    Timetable.constraints <$> tokens.compile =
      (· ++ leftOut tokens.toList.length) <$> tokens.toList.mapM compileField := by
  have hvalues : ∀ field {token}, tokens.token? field = some token → field.isDay = false →
      compileField token = .values <$> token.compileValues :=
    fun _ _ htoken hfield => if_neg (by rw [hplace _ _ htoken, hfield]; decide)
  have hday : ∀ field {token}, tokens.token? field = some token → field.isDay = true →
      compileField token = token.compileDay :=
    fun _ _ htoken hfield => compileField_of_day (hplace _ _ htoken ▸ hfield)
  have hlist : tokens.toList = [tokens.second, tokens.minute, tokens.hour, tokens.dayOfMonth,
    tokens.month, tokens.dayOfWeek] ++ tokens.year.toList := rfl
  simp only [hlist, Tokens.compile, leftOut, List.mapM_append, List.mapM_cons, List.mapM_nil,
    hvalues .second rfl rfl, hvalues .minute rfl rfl, hvalues .hour rfl rfl,
    hday .dayOfMonth rfl rfl, hvalues .month rfl rfl, hday .dayOfWeek rfl rfl]
  cases hyear : tokens.year with
  | none => simp [Timetable.constraints, Field.all, Timetable.constraint]
  | some year =>
    simp [Timetable.constraints, Field.all, Timetable.constraint, hvalues .year hyear rfl]

/-! ## Expressions -/

/-- What the words of a text say of the result of compiling it. -/
structure WordByWord (text : List Char) (result : Except Failure Timetable) : Prop where
  /-- If there are not six or seven words, the error has no field. -/
  miscounted : ¬HasFields text → ∃ e, result = .error (.malformed e) ∧ e.field = none ∧
    e.problem = .wordCount (spelling text).length
  /-- The leftmost word with an empty element decides the error. -/
  emptyElement : ∀ {field word}, HasFields text →
    (fieldWords text).find? (hasEmptyElement ·.2) = some (field, word) →
    ∃ e place raw offset, result = .error (.malformed e) ∧ e.field = some field ∧
      (words text)[field.index]? = some (place, raw) ∧
      emptyElementOffset? 0 (pieces ',' word) = some offset ∧
      e = Token.malformed ⟨field, word, place, text⟩ .emptyElement offset
  /-- Else the text compiles exactly if every word does on its own. -/
  succeeds_iff : HasFields text → (∀ part ∈ fieldWords text, hasEmptyElement part.2 = false) →
    ((∃ t, result = .ok t) ↔ ∀ part ∈ fieldWords text, (compileAlone part.1 part.2).isOk = true)
  /-- Its constraints are those of the words, in order, and a wildcard if the year is left out. -/
  constraints : ∀ {t}, result = .ok t → ∃ constraints,
    List.Forall₂ (fun part constraint => compileAlone part.1 part.2 = .ok constraint)
      (fieldWords text) constraints ∧
    t.constraints = constraints ++ leftOut (spelling text).length
  /-- The leftmost word that does not compile on its own decides the failure, at its place. -/
  fails : ∀ {field word failure}, HasFields text →
    (∀ part ∈ fieldWords text, hasEmptyElement part.2 = false) →
    (fieldWords text).find? (fun part => !(compileAlone part.1 part.2).isOk) = some (field, word) →
    compileAlone field word = .error failure →
    ∃ place raw, (words text)[field.index]? = some (place, raw) ∧
      result = .error (failure.moved place text)

lemma compile_lenient (expression : List Char) :
    compile false expression = (tokenize expression).mapError .malformed >>= Tokens.compile := by
  simp only [compile]
  refine bind_congr fun tokens => ?_
  rw [bind_pure]

/-- A word is compiled at its place as it is on its own. -/
lemma compileField_atWord (text : List Char) (field : Field) (word : Nat × List Char) :
    compileField (Token.atWord text field word) =
      (compileAlone field (upper word.2)).mapError (Failure.moved word.1 text) := by
  rw [compileAlone, ← compileField_moved]
  simp [Token.moved, Token.atWord]

lemma isOk_compileField (text : List Char) (field : Field) (word : Nat × List Char) :
    (compileField (Token.atWord text field word)).isOk =
      (compileAlone field (upper word.2)).isOk := by
  rw [compileField_atWord, isOk_mapError]

lemma hasEmptyElement_eq_false_iff : hasEmptyElement word = false ↔ [] ∉ pieces ',' word := by
  rw [← Bool.not_eq_true, hasEmptyElement, List.contains_iff_mem]

/-- A word becomes its token unless it has an empty element. -/
lemma isOk_ofWord (text : List Char) (field : Field) (word : Nat × List Char) :
    (Token.ofWord text field word).isOk = !hasEmptyElement (upper word.2) := by
  cases hempty : hasEmptyElement (upper word.2) with
  | false =>
      rw [ofWord_eq_ok_iff.2 ⟨rfl, hasEmptyElement_eq_false_iff.1 hempty⟩]
      rfl
  | true =>
      cases htoken : Token.ofWord text field word with
      | error e => rfl
      | ok token =>
          rw [hasEmptyElement_eq_false_iff.2 (ofWord_eq_ok_iff.1 htoken).2] at hempty
          cases hempty

lemma ofWord_eq_error {text : List Char} {word : Nat × List Char} {offset : Nat}
    (h : emptyElementOffset? 0 (pieces ',' (upper word.2)) = some offset) :
    Token.ofWord text field word =
      .error ((Token.atWord text field word).malformed .emptyElement offset) := by
  rw [Token.ofWord, Token.checkElements, Token.terms, h]
  rfl

/-- The first field whose word has a property, with the place of the word. -/
lemma exists_of_find? {p : Field × List Char → Bool}
    (h : (fieldWords text).find? p = some (field, word)) :
    ∃ place raw, upper raw = word ∧ (words text)[field.index]? = some (place, raw) ∧
      (Field.all.zip (words text)).find? (fun part => p (part.1, upper part.2.2)) =
        some (field, place, raw) := by
  rw [fieldWords_eq, List.find?_map] at h
  obtain ⟨⟨field', place, raw⟩, hfind, heq⟩ := Option.map_eq_some_iff.1 h
  obtain ⟨rfl, rfl⟩ := Prod.mk.inj heq
  exact ⟨place, raw, rfl, getElem?_of_mem_zip (List.mem_of_find?_eq_some hfind), hfind⟩

lemma forall_zip {p : Field × List Char → Prop} (h : ∀ part ∈ fieldWords text, p part) :
    ∀ part ∈ Field.all.zip (words text), p (part.1, upper part.2.2) := by
  rw [fieldWords_eq] at h
  exact fun part hpart => h _ (List.mem_map_of_mem hpart)

section

variable (hfields : HasFields (expandAlias expression))
include hfields

/-- The first word with an empty element stops the reading of the words. -/
lemma compile_emptyElement
    (h : (fieldWords (expandAlias expression)).find? (hasEmptyElement ·.2) = some (field, word)) :
    ∃ place raw offset, (words (expandAlias expression))[field.index]? = some (place, raw) ∧
      emptyElementOffset? 0 (pieces ',' word) = some offset ∧
      compile false expression = .error (.malformed
        (Token.malformed ⟨field, word, place, expandAlias expression⟩ .emptyElement offset)) := by
  have hempty : hasEmptyElement word = true := List.find?_some (a := (field, word)) h
  obtain ⟨place, raw, rfl, hplace, hfirst⟩ := exists_of_find? h
  cases hoffset : emptyElementOffset? 0 (pieces ',' (upper raw)) with
  | none =>
      rw [hasEmptyElement_eq_false_iff.2 (emptyElementOffset?_eq_none_iff.1 hoffset)] at hempty
      cases hempty
  | some offset =>
      refine ⟨place, raw, offset, hplace, rfl, ?_⟩
      have hrefused : (Field.all.zip (words (expandAlias expression))).find? (fun part =>
          !(Token.ofWord (expandAlias expression) part.1 part.2).isOk) =
          some (field, place, raw) := by
        simpa only [isOk_ofWord, Bool.not_not] using hfirst
      have herror := mapM_eq_error hrefused (ofWord_eq_error hoffset)
      rw [compile_lenient, map_eq_error_iff.1 ((tokenize_eq hfields).trans herror)]
      rfl

/-- Without an empty element, the words become their tokens. -/
lemma tokenize_of_forall
    (h : ∀ part ∈ fieldWords (expandAlias expression), hasEmptyElement part.2 = false) :
    ∃ tokens, tokenize expression = .ok tokens ∧
      tokens.toList = (Field.all.zip (words (expandAlias expression))).map fun part =>
        Token.atWord (expandAlias expression) part.1 part.2 := by
  have hwords : (Field.all.zip (words (expandAlias expression))).mapM
      (fun part => Token.ofWord (expandAlias expression) part.1 part.2) =
      .ok ((Field.all.zip (words (expandAlias expression))).map fun part =>
        Token.atWord (expandAlias expression) part.1 part.2) := by
    rw [mapM_eq_ok_iff, List.forall₂_map_right_iff, List.forall₂_same]
    intro part hpart
    exact ofWord_eq_ok_iff.2 ⟨rfl, hasEmptyElement_eq_false_iff.1 (forall_zip h part hpart)⟩
  exact map_eq_ok_iff.1 ((tokenize_eq hfields).trans hwords)

/-- Without an empty element, the words are compiled one by one. -/
lemma compile_of_forall
    (h : ∀ part ∈ fieldWords (expandAlias expression), hasEmptyElement part.2 = false) :
    Timetable.constraints <$> compile false expression =
      (· ++ leftOut (spelling (expandAlias expression)).length) <$>
        (Field.all.zip (words (expandAlias expression))).mapM fun part =>
          compileField (Token.atWord (expandAlias expression) part.1 part.2) := by
  obtain ⟨tokens, htokens, hlist⟩ := tokenize_of_forall hfields h
  have hcount : tokens.toList.length = (spelling (expandAlias expression)).length := by
    have hsize : Field.all.length = 7 := rfl
    rw [hlist, List.length_map, List.length_zip, length_spelling]
    rw [HasFields, length_spelling] at hfields
    omega
  rw [compile_lenient, htokens, mapError_ok, ok_bind,
    tokens_compile_eq (tokenize_inPlace htokens), hcount, hlist, List.mapM_map]
  rfl

/-- The first word that does not compile on its own decides the failure. -/
lemma compile_of_first {failure : Failure}
    (h : ∀ part ∈ fieldWords (expandAlias expression), hasEmptyElement part.2 = false)
    (hfirst : (fieldWords (expandAlias expression)).find?
      (fun part => !(compileAlone part.1 part.2).isOk) = some (field, word))
    (hword : compileAlone field word = .error failure) :
    ∃ place raw, (words (expandAlias expression))[field.index]? = some (place, raw) ∧
      compile false expression = .error (failure.moved place (expandAlias expression)) := by
  obtain ⟨place, raw, rfl, hplace, hfirst⟩ := exists_of_find? hfirst
  refine ⟨place, raw, hplace, ?_⟩
  have hrefused : (Field.all.zip (words (expandAlias expression))).find? (fun part =>
      !(compileField (Token.atWord (expandAlias expression) part.1 part.2)).isOk) =
      some (field, place, raw) := by
    simpa only [isOk_compileField] using hfirst
  have herror := mapM_eq_error hrefused (by rw [compileField_atWord, hword]; rfl)
  rw [← map_eq_error_iff (f := Timetable.constraints), compile_of_forall hfields h,
    map_eq_error_iff]
  exact herror

/-- If every word compiles on its own, the expression compiles to their constraints. -/
lemma compile_of_all
    (h : ∀ part ∈ fieldWords (expandAlias expression), hasEmptyElement part.2 = false)
    (hall : ∀ part ∈ fieldWords (expandAlias expression),
      (compileAlone part.1 part.2).isOk = true) :
    ∃ t constraints, compile false expression = .ok t ∧
      List.Forall₂ (fun part constraint => compileAlone part.1 part.2 = .ok constraint)
        (fieldWords (expandAlias expression)) constraints ∧
      t.constraints = constraints ++ leftOut (spelling (expandAlias expression)).length := by
  have hok : ∀ part ∈ Field.all.zip (words (expandAlias expression)),
      (compileField (Token.atWord (expandAlias expression) part.1 part.2)).isOk = true := by
    simpa only [isOk_compileField] using
      forall_zip (p := fun part => (compileAlone part.1 part.2).isOk = true) hall
  obtain ⟨constraints, hconstraints⟩ := exists_mapM_eq_ok hok
  have hcompile := compile_of_forall hfields h
  rw [hconstraints] at hcompile
  obtain ⟨t, ht, hlist⟩ := map_eq_ok_iff.1 hcompile
  refine ⟨t, constraints, ht, ?_, hlist⟩
  rw [fieldWords_eq, List.forall₂_map_left_iff]
  refine (mapM_eq_ok_iff.1 hconstraints).imp fun part constraint hpart => ?_
  rwa [compileField_atWord, mapError_eq_ok_iff] at hpart

end

/-- A text that does not have six or seven words is refused as a whole. -/
lemma tokenize_miscounted (h : ¬HasFields (expandAlias expression)) :
    tokenize expression =
      .error (.whole (.wordCount (spelling (expandAlias expression)).length) expression) := by
  rw [HasFields, length_spelling] at h
  rw [length_spelling]
  unfold tokenize
  dsimp only
  split
  · rename_i hwords
    simp [hwords] at h
  · rename_i hwords
    simp [hwords] at h
  · rfl

/-- An expression that compiles has six or seven words, and each compiles on its own. -/
lemma forall_of_compile {t : Timetable} (ht : compile false expression = .ok t) :
    HasFields (expandAlias expression) ∧
      (∀ part ∈ fieldWords (expandAlias expression), hasEmptyElement part.2 = false) ∧
      ∀ part ∈ fieldWords (expandAlias expression),
        (compileAlone part.1 part.2).isOk = true := by
  have hfields : HasFields (expandAlias expression) := by
    by_contra hnot
    rw [compile_lenient, tokenize_miscounted hnot] at ht
    cases ht
  have hempty : ∀ part ∈ fieldWords (expandAlias expression), hasEmptyElement part.2 = false := by
    cases hfind : (fieldWords (expandAlias expression)).find? (hasEmptyElement ·.2) with
    | none => simpa using hfind
    | some part =>
        obtain ⟨place, raw, offset, -, -, herror⟩ := compile_emptyElement hfields hfind
        rw [herror] at ht
        cases ht
  refine ⟨hfields, hempty, ?_⟩
  cases hfind : (fieldWords (expandAlias expression)).find?
      fun part => !(compileAlone part.1 part.2).isOk with
  | none => simpa using hfind
  | some part =>
      obtain ⟨failure, hpart⟩ := exists_error_of_find? hfind
      obtain ⟨place, raw, -, herror⟩ := compile_of_first hfields hempty hfind hpart
      rw [herror] at ht
      cases ht

/-- **An expression compiles word by word.** -/
theorem compile_wordByWord (expression : List Char) :
    WordByWord (expandAlias expression) (compile false expression) where
  miscounted h := by
    refine ⟨.whole (.wordCount (spelling (expandAlias expression)).length) expression, ?_, rfl, rfl⟩
    rw [compile_lenient, tokenize_miscounted h]
    rfl
  emptyElement := by
    intro field word hfields h
    obtain ⟨place, raw, offset, hplace, hoffset, herror⟩ := compile_emptyElement hfields h
    exact ⟨_, place, raw, offset, herror, rfl, hplace, hoffset, rfl⟩
  succeeds_iff hfields h := by
    constructor
    · rintro ⟨t, ht⟩
      exact (forall_of_compile ht).2.2
    · intro hall
      obtain ⟨t, constraints, ht, -⟩ := compile_of_all hfields h hall
      exact ⟨t, ht⟩
  constraints := by
    intro t ht
    obtain ⟨hfields, hempty, hall⟩ := forall_of_compile ht
    obtain ⟨t', constraints, ht', hconstraints, hlist⟩ := compile_of_all hfields hempty hall
    obtain rfl : t = t' := Except.ok.inj (ht.symm.trans ht')
    exact ⟨constraints, hconstraints, hlist⟩
  fails := by
    intro field word failure hfields h hfirst hword
    exact compile_of_first hfields h hfirst hword

end CronSchedule.Expression
