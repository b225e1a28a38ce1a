import CronSchedule.Proofs.Expression.Completeness

/-!
# The texts that a field accepts

* `FieldDenotes.eq_singleton_of_marker` — a marker is not combined with other elements.
* `not_denotes_refused` — a text without a meaning is refused with an error of its field.
* **`compileField_exact`** — a field accepts the language of its grammar, with its meaning, and
  refuses every other text.
-/

namespace CronSchedule.Expression

open Text

variable {token : Token} {field : Field} {text term : List Char} {constraint m : Constraint}

/-- A text with a marker among its elements has no other elements. -/
lemma FieldDenotes.eq_singleton_of_marker (h : FieldDenotes field text constraint)
    (hterm : term ∈ pieces ',' text) (hmarker : MarkerDenotes field term m) :
    pieces ',' text = [term] := by
  cases h with
  | wildcard hmark hset =>
      obtain rfl : term = ['*'] := List.mem_singleton.1 hterm
      rfl
  | marker h =>
      have hpieces := pieces_of_notMem h.comma_notMem
      rw [hpieces, List.mem_singleton] at hterm
      rw [hpieces, hterm]
  | list hne hstar hterms hmark hset =>
      rw [TermValues.pieces_eq hterms hne] at hterm
      obtain ⟨set, hset⟩ := TermValues.of_mem hterms hterm
      exact absurd hmarker hset.ne_marker

/-- A text that denotes nothing is refused with an error that names the field. -/
lemma not_denotes_refused (hshort : ShortRuns token.text)
    (h : ∀ c, ¬FieldDenotes token.field token.text c) :
    ∃ e, compileField token = .error (.malformed e) ∧ e.field = some token.field := by
  have houtcome := compileField_outcome token
  cases hresult : compileField token with
  | ok c => exact absurd (houtcome.of_eq_ok hresult) (h c)
  | error failure =>
      cases failure with
      | malformed e =>
          obtain ⟨defect, offset, -, rfl⟩ := houtcome.of_eq_error hresult
          exact ⟨_, rfl, rfl⟩
      | overlong o => exact absurd hshort (houtcome.of_eq_error hresult)

/-- **A field accepts the language of its grammar and nothing else.**  If no run of digits in the
text is too long to be read, the text compiles to a constraint exactly if it denotes it, and a text
that denotes nothing is refused with an error that names the field.  In particular, a marker beside
another element is refused. -/
theorem compileField_exact (token : Token) (hshort : ShortRuns token.text) :
    (∀ c, compileField token = .ok c ↔ FieldDenotes token.field token.text c) ∧
      ((∀ c, ¬FieldDenotes token.field token.text c) →
        ∃ e, compileField token = .error (.malformed e) ∧ e.field = some token.field) ∧
      (∀ term ∈ token.terms, ∀ m, MarkerDenotes token.field term m → token.terms ≠ [term] →
        ∃ e, compileField token = .error (.malformed e) ∧ e.field = some token.field) := by
  refine ⟨fun c => ⟨?_, ?_⟩, not_denotes_refused hshort, ?_⟩
  · intro hok
    exact (compileField_outcome token).of_eq_ok hok
  · intro hdenotes
    exact compileField_complete hdenotes hshort
  · intro term hterm m hmarker hothers
    refine not_denotes_refused hshort fun c hdenotes => ?_
    exact hothers (hdenotes.eq_singleton_of_marker hterm hmarker)

/-- The second Friday of a month. -/
theorem compileField_second_friday :
    ShortRuns ['F', 'R', 'I', '#', '2'] ∧
      compileField ⟨.dayOfWeek, ['F', 'R', 'I', '#', '2'], 0, ['F', 'R', 'I', '#', '2']⟩ =
        .ok (.rule (.nthWeekday 6 2)) := by
  have hshort : ShortRuns ['F', 'R', 'I', '#', '2'] := fun run hrun _ =>
    hrun.length_le.trans (by decide)
  have hfriday : IsValue .dayOfWeek ['F', 'R', 'I'] 6 := .name (by decide)
  have hmarker : MarkerDenotes .dayOfWeek (['F', 'R', 'I'] ++ '#' :: ['2'])
      (.rule (.nthWeekday 6 (ofDigits ['2']))) :=
    .nthWeekday hfriday (by decide) (by decide) (by decide)
  exact ⟨hshort, ((compileField_exact ⟨.dayOfWeek, _, 0, _⟩ hshort).1 _).2 (.marker hmarker)⟩

end CronSchedule.Expression
