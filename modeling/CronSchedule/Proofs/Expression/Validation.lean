import CronSchedule.Expression.Validation
import CronSchedule.Proofs.Expression.Plain
import CronSchedule.Proofs.Text.Case

/-!
# Which expressions a validation decides

Compiling an expression fails because the expression is malformed, or because a run of digits in it
is too long to be read.  In the second case a validation has no answer.

* `shortRuns_word` — the words of an expression have no longer runs of digits than it has.
* **`compile_outcome`** — an expression with short runs of digits compiles or is malformed.
* **`compile_overlong`** — an expression with a numeral that is too long may do neither.
* **`validation_decides`** — if an expression compiles or is malformed, its validations agree with
  each other and with compiling it.
-/

namespace CronSchedule.Expression

open Text

variable {strict : Bool} {expression digits : List Char} {token : Token}

/-! ## Runs of digits -/

/-- The text that an alias stands for is short. -/
lemma shortRuns_expandAlias (h : ShortRuns expression) : ShortRuns (expandAlias expression) := by
  have hall : ∀ entry ∈ aliases, entry.2.toList.length ≤ maxDigits := by decide
  rw [expandAlias]
  split
  · rename_i expansion hlookup
    obtain ⟨before, after, heq, -⟩ := List.lookup_eq_some_iff.1 hlookup
    refine shortRuns_of_length (hall (String.ofList (lower (trim expression)), expansion) ?_)
    simp [heq]
  · exact h

/-- The words of an expression have no longer runs of digits in upper case than it has. -/
lemma shortRuns_word (hshort : ShortRuns expression) {word : Nat × List Char}
    (hword : word ∈ words (expandAlias expression)) : ShortRuns (upper word.2) := by
  obtain ⟨before, after, htext, -⟩ := mem_wordsFrom hword
  have hexpansion := shortRuns_expandAlias hshort
  have hword : ShortRuns word.2 := hexpansion.of_infix ⟨before, after, htext.symm⟩
  exact hword.upper

/-! ## Failures -/

/-- The failure that an expression is malformed. -/
def Failure.IsMalformed (failure : Failure) : Prop :=
  ∃ e, failure = .malformed e

lemma Token.Refuses.isMalformed {failure : Failure} (h : token.Refuses failure)
    (hshort : ShortRuns token.text) : failure.IsMalformed := by
  cases failure with
  | malformed e => exact ⟨e, rfl⟩
  | overlong o => exact absurd hshort h

/-- **An expression with short runs of digits compiles or is malformed.** -/
theorem compile_outcome (strict : Bool) (hshort : ShortRuns expression) :
    Outcome Failure.IsMalformed (fun _ => True) (compile strict expression) := by
  refine (compile_refusal strict expression).imp ?_ fun _ h => h
  rintro failure (⟨e, rfl, -⟩ | ⟨field, word, hword, hrefuses⟩)
  · exact ⟨e, rfl⟩
  · exact hrefuses.isMalformed (shortRuns_word hshort (List.mem_of_getElem? hword))

/-! ## Numerals that are too long -/

/-- A numeral that is too long is neither a value nor a defect. -/
lemma value_overlong (hdigits : isNumeral digits = true) (hlong : maxDigits < digits.length)
    (offset : Nat) : token.value digits offset = .error (.overlong ⟨digits.length⟩) := by
  have hread : readNumeral digits = .error (.overlong ⟨digits.length⟩) := by
    rw [readNumeral, readDigits, if_pos hlong]
    rfl
  simp only [Token.value]
  rw [Field.lookup_of_isNumeral hdigits]
  dsimp only
  rw [if_neg (by simp [hdigits]), hread]
  rfl

lemma compileValues_overlong (hdigits : isNumeral token.text = true)
    (hlong : maxDigits < token.text.length) :
    token.compileValues = .error (.overlong ⟨token.text.length⟩) := by
  have hpermits : ∀ c ∈ token.text, token.field.permits c = true := by
    intro c hc
    refine Field.permits_of_writes ?_
    simp [Field.writes, Field.spells_of_isDigit ((isNumeral_iff.1 hdigits).2 c hc)]
  have hcomma : ',' ∉ token.text := notMem_of_isNumeral hdigits (by decide)
  have hslash : '/' ∉ token.text := notMem_of_isNumeral hdigits (by decide)
  have hdash : '-' ∉ token.text := notMem_of_isNumeral hdigits (by decide)
  have hstar : token.text ≠ ['*'] := by
    intro hstar
    rw [hstar] at hdigits
    exact absurd hdigits (by decide)
  rw [Token.compileValues, Token.checkCharacters, checkCharactersFrom_complete 0 hpermits, ok_bind,
    if_neg hstar, Token.elements, splitOn_of_notMem hcomma]
  dsimp only
  rw [progression_of_notMem hslash, if_neg hstar, if_neg (by simpa using hdash),
    value_overlong hdigits hlong]
  rfl

/-- The texts of the fields of an expression for midnight. -/
def midnightTexts : Field → List Char
  | .second | .minute | .hour => ['0']
  | .dayOfWeek => ['?']
  | _ => ['*']

/-- **An expression that begins with a numeral that is too long neither compiles nor is
malformed.**  Leading zeros count, so the number may be in the range of its field. -/
theorem compile_overlong (strict : Bool) (hdigits : isNumeral digits = true)
    (hlong : maxDigits < digits.length) :
    compile strict (joinWith [' '] [digits, ['0'], ['0'], ['*'], ['*'], ['?']]) =
      .error (.overlong ⟨digits.length⟩) := by
  let texts := Function.update midnightTexts .second digits
  have hothers : ∀ field,
      (midnightTexts field).Forall (· ∈ plainChars) ∧ [] ∉ pieces ',' (midnightTexts field) := by
    intro field
    cases field <;> decide
  have htexts : ∀ field, (∀ c ∈ texts field, c ∈ plainChars) ∧ [] ∉ pieces ',' (texts field) := by
    intro field
    by_cases hfield : field = .second
    · obtain ⟨hne, hall⟩ := isNumeral_iff.1 hdigits
      have hcomma : ',' ∉ digits := notMem_of_isNumeral hdigits (by decide)
      have htext : texts field = digits := by
        rw [hfield]
        exact Function.update_self ..
      rw [htext, pieces_of_notMem hcomma]
      exact ⟨fun c hc => List.mem_append_left _ (mem_digits_of_isDigit (hall c hc)),
        by simpa using hne.symm⟩
    · have htext : texts field = midnightTexts field := Function.update_of_ne hfield ..
      rw [htext]
      exact (hothers field).imp_left List.forall_iff_forall_mem.1
  obtain ⟨tokens, htokens, hfields⟩ :=
    tokenize_canonical (fun field => (htexts field).1) fun field => (htexts field).2
  have hsecond : tokens.second.text = digits := hfields .second
  have hvalues := compileValues_overlong (hsecond ▸ hdigits) (hsecond ▸ hlong)
  have hfailure : tokens.compile = .error (.overlong ⟨digits.length⟩) := by
    rw [Tokens.compile, hvalues, error_bind, hsecond]
  have hexpression : Schedule.dropOpenYear (Field.all.map texts) =
      [digits, ['0'], ['0'], ['*'], ['*'], ['?']] := rfl
  rw [hexpression] at htokens
  rw [compile, htokens]
  simp [hfailure, Except.mapError]

/-! ## Validations -/

/-- **Validations decide an expression in which no run of digits is too long to be read**, and they
agree.  A validation finds nothing wrong or fails because the expression is malformed.  There are no
messages in the first case, and the message of the error is the only one in the second.  The
expression is valid exactly if there are no messages, and exactly if it has a schedule. -/
theorem validation_decides (strict : Bool) (hshort : ShortRuns expression) :
    ∃ found valid, messages strict expression = .ok found ∧ isValid strict expression = .ok valid ∧
      ((validate strict expression = .ok () ∧ found = []) ∨
        ∃ e, validate strict expression = .error (.malformed e) ∧ found = [e.message]) ∧
      (valid = true ↔ found = []) ∧
      (valid = true ↔ ∃ s, Schedule.parse strict expression = .ok s) := by
  have houtcome := compile_outcome strict hshort
  cases hcompile : compile strict expression with
  | ok t =>
      have hvalidate : validate strict expression = .ok () := by
        rw [validate, hcompile]
        rfl
      refine ⟨[], true, ?_, ?_, Or.inl ⟨hvalidate, rfl⟩, by simp, ?_⟩
      · rw [messages, hvalidate]
        rfl
      · rw [isValid, hvalidate]
        rfl
      · exact iff_of_true rfl ⟨Schedule.make expression t, by rw [Schedule.parse, hcompile]; rfl⟩
  | error failure =>
      obtain ⟨e, rfl⟩ := houtcome.of_eq_error hcompile
      have hvalidate : validate strict expression = .error (.malformed e) := by
        rw [validate, hcompile]
        rfl
      refine ⟨[e.message], false, ?_, ?_, Or.inr ⟨e, hvalidate, rfl⟩, by simp, ?_⟩
      · rw [messages, hvalidate]
        rfl
      · rw [isValid, hvalidate]
        rfl
      · refine iff_of_false (by simp) ?_
        rintro ⟨s, hs⟩
        rw [Schedule.parse, hcompile] at hs
        cases hs

/-- The day before the last 31 days of a month is malformed, and all validations say so. -/
theorem validation_last_offset :
    let expression := "0 0 12 L-31 * ?".toList
    ShortRuns expression ∧ ∃ e, validate false expression = .error (.malformed e) ∧
      messages false expression = .ok [e.message] ∧ isValid false expression = .ok false ∧
      ¬∃ s, Schedule.parse false expression = .ok s := by
  intro expression
  have hshort : ShortRuns expression := shortRuns_of_length (by decide)
  obtain ⟨found, valid, hmessages, hvalid, hvalidate, hempty, hparse⟩ :=
    validation_decides false hshort
  have hfalse : (isValid false expression).toOption = some false := by decide +kernel
  rw [hvalid] at hfalse
  obtain rfl : valid = false := Option.some.inj hfalse
  rcases hvalidate with ⟨-, rfl⟩ | ⟨e, he, rfl⟩
  · exact absurd (hempty.2 rfl) (by decide)
  · exact ⟨hshort, e, he, hmessages, hvalid, fun hs => absurd (hparse.2 hs) (by decide)⟩

/-- With 4301 zeros for the seconds, no validation comes to a verdict. -/
theorem validation_undecided :
    let expression := List.replicate 4301 '0' ++ [' ', '0', ' ', '0', ' ', '*', ' ', '*', ' ', '?']
    validate false expression = .error (.overlong ⟨4301⟩) ∧
      messages false expression = .error (.overlong ⟨4301⟩) ∧
      isValid false expression = .error (.overlong ⟨4301⟩) := by
  intro expression
  have hdigits : isNumeral (List.replicate 4301 '0') = true := by
    refine isNumeral_iff.2 ⟨List.cons_ne_nil '0' (List.replicate 4300 '0'), fun c hc => ?_⟩
    rw [List.eq_of_mem_replicate hc]
    rfl
  have hcompile : compile false expression = .error (.overlong ⟨4301⟩) := by
    have hlength := List.length_replicate (n := 4301) (a := '0')
    have hlong : maxDigits < (List.replicate 4301 '0').length := by
      rw [hlength]
      decide
    have hoverlong := compile_overlong false hdigits hlong
    rwa [hlength, joinWith_cons _ (by decide)] at hoverlong
  have hvalidate : validate false expression = .error (.overlong ⟨4301⟩) := by
    rw [validate, hcompile]
    rfl
  exact ⟨hvalidate, by rw [messages, hvalidate]; rfl, by rw [isValid, hvalidate]; rfl⟩

end CronSchedule.Expression
