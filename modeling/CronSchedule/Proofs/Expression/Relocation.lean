import CronSchedule.Expression.Term
import CronSchedule.Proofs.Outcome

/-!
# Compiling a word somewhere else

A token knows where its word stands, but only to say so in its errors.  `moved` is the same word
further on in another expression, and an error of it is the error of the word that is moved along:
compiling commutes with moving.

* `Token.moved`, `Malformed.moved`, `Failure.moved` — tokens, errors and failures somewhere else.
* `Token.value_moved`, …, `Token.marker?_moved` — the steps, from values to terms and markers.
* **`compileField_moved`** — a field.
-/

namespace CronSchedule.Expression

open Text

/-! ## Moving -/

/-- A token whose word stands further on in another expression. -/
def Token.moved (distance : Int) (expression : List Char) (token : Token) : Token :=
  { token with position := token.position + distance, expression }

def Problem.moved (distance : Int) : Problem → Problem
  | .inField field text position defect => .inField field text (position + distance) defect
  | problem => problem

/-- An error that was found further on in another expression. -/
def Malformed.moved (distance : Int) (expression : List Char) (e : Malformed) : Malformed :=
  ⟨e.problem.moved distance, expression, e.position + distance, e.field⟩

/-- A failure that was found further on in another expression. -/
def Failure.moved (distance : Int) (expression : List Char) : Failure → Failure
  | .malformed e => .malformed (e.moved distance expression)
  | .overlong o => .overlong o

variable {α : Type} {distance : Int} {expression : List Char} {token : Token}

@[simp] lemma Token.moved_field : (token.moved distance expression).field = token.field := rfl

@[simp] lemma Token.moved_text : (token.moved distance expression).text = token.text := rfl

@[simp] lemma Token.moved_elements :
    (token.moved distance expression).elements = token.elements := rfl

/-- The error for a defect of a token is moved with the token. -/
lemma Token.malformed_moved (defect : Defect) (offset : Nat) :
    (token.moved distance expression).malformed defect offset =
      (token.malformed defect offset).moved distance expression := by
  simp only [Token.malformed, Token.moved, Malformed.moved, Problem.moved, Int.add_right_comm]

@[simp] lemma Token.fail_moved (defect : Defect) (offset : Nat) :
    ((token.moved distance expression).fail defect offset : Except Failure α) =
      (token.fail defect offset).mapError (Failure.moved distance expression) := by
  rw [Token.fail, Token.malformed_moved]
  rfl

/-- A numeral that is too long is so everywhere. -/
@[simp] lemma readNumeral_mapError (digits : List Char) :
    (readNumeral digits).mapError (Failure.moved distance expression) = readNumeral digits := by
  unfold readNumeral
  cases readDigits digits <;> rfl

/-! ## Terms -/

variable (term : List Char) (offset : Nat)

lemma Token.checkCharactersFrom_moved (text : List Char) :
    (token.moved distance expression).checkCharactersFrom offset text =
      (token.checkCharactersFrom offset text).mapError (Failure.moved distance expression) := by
  induction text generalizing offset with
  | nil => rfl
  | cons c rest ih => simp [Token.checkCharactersFrom, ih]

@[simp] lemma Token.checkCharacters_moved :
    (token.moved distance expression).checkCharacters =
      token.checkCharacters.mapError (Failure.moved distance expression) :=
  Token.checkCharactersFrom_moved 0 token.text

@[simp] lemma Token.value_moved :
    (token.moved distance expression).value term offset =
      (token.value term offset).mapError (Failure.moved distance expression) := by
  simp only [Token.value, Token.moved_field]
  split
  · rfl
  · simp

@[simp] lemma Token.range_moved :
    (token.moved distance expression).range term offset =
      (token.range term offset).mapError (Failure.moved distance expression) := by
  simp only [Token.range]
  split
  · simp
  · simp

@[simp] lemma Token.step_moved :
    (token.moved distance expression).step term offset =
      (token.step term offset).mapError (Failure.moved distance expression) := by
  simp [Token.step]

@[simp] lemma Token.stepBase_moved (base : List Char) :
    (token.moved distance expression).stepBase term base offset =
      (token.stepBase term base offset).mapError (Failure.moved distance expression) := by
  simp [Token.stepBase]

@[simp] lemma Token.progression_moved :
    (token.moved distance expression).progression term offset =
      (token.progression term offset).mapError (Failure.moved distance expression) := by
  simp only [Token.progression]
  split
  · simp
  · simp
  · simp

/-! ## Markers -/

lemma Token.dayOfMonthMarker?_moved :
    (token.moved distance expression).dayOfMonthMarker? term offset =
      (token.dayOfMonthMarker? term offset).mapError (Failure.moved distance expression) := by
  simp only [Token.dayOfMonthMarker?, mapError_ite, mapError_pure]
  refine if_congr Iff.rfl rfl (if_congr Iff.rfl rfl ?_)
  split
  · simp
  · simp

lemma Token.dayOfWeekMarker?_moved :
    (token.moved distance expression).dayOfWeekMarker? term offset =
      (token.dayOfWeekMarker? term offset).mapError (Failure.moved distance expression) := by
  simp only [Token.dayOfWeekMarker?, mapError_ite, mapError_pure, Token.moved_field]
  refine if_congr Iff.rfl rfl ?_
  split
  · simp
  · simp
  · simp

@[simp] lemma Token.marker?_moved :
    (token.moved distance expression).marker? term offset =
      (token.marker? term offset).mapError (Failure.moved distance expression) := by
  simp only [Token.marker?, Token.moved_field]
  split
  · exact Token.dayOfMonthMarker?_moved term offset
  · exact Token.dayOfWeekMarker?_moved term offset
  · rfl

/-! ## Fields -/

/-- Terms are read one by one, so if the reading of each is moved, the reading of all is. -/
lemma readTerms_moved {read read' : List Char → Nat → Except Failure Progression}
    (hread : ∀ term offset, read' term offset =
      (read term offset).mapError (Failure.moved distance expression))
    (terms : List (List Char)) :
    readTerms read' offset terms =
      (readTerms read offset terms).mapError (Failure.moved distance expression) := by
  induction terms generalizing offset with
  | nil => rfl
  | cons term rest ih => simp [readTerms, hread, ih]

lemma Token.compileValues_moved :
    (token.moved distance expression).compileValues =
      token.compileValues.mapError (Failure.moved distance expression) := by
  simp [Token.compileValues,
    readTerms_moved _ fun term offset => token.progression_moved term offset]

@[simp] lemma Token.element_moved :
    (token.moved distance expression).element term offset =
      (token.element term offset).mapError (Failure.moved distance expression) := by
  simp only [Token.element, Token.marker?_moved, mapError_bind]
  refine bind_congr fun found => ?_
  cases found with
  | some marker => exact Token.fail_moved _ _
  | none => exact Token.progression_moved term offset

@[simp] lemma Token.compileSingle_moved :
    (token.moved distance expression).compileSingle term =
      (token.compileSingle term).mapError (Failure.moved distance expression) := by
  simp only [Token.compileSingle, Token.marker?_moved, mapError_bind]
  refine bind_congr fun found => ?_
  cases found with
  | some marker => rfl
  | none => simp

@[simp] lemma Token.compileList_moved (rest : List (List Char)) :
    (token.moved distance expression).compileList term rest =
      (token.compileList term rest).mapError (Failure.moved distance expression) := by
  simp [Token.compileList, readTerms_moved _ fun term offset => token.element_moved term offset]

lemma Token.compileDay_moved :
    (token.moved distance expression).compileDay =
      token.compileDay.mapError (Failure.moved distance expression) := by
  simp only [Token.compileDay, Token.moved_elements]
  rcases token.elements with ⟨term, _ | ⟨second, others⟩⟩
  · simp
  · simp

/-- **A field is compiled alike wherever its word stands**: the constraint is the same, and a
failure is moved along. -/
theorem compileField_moved (distance : Int) (expression : List Char) (token : Token) :
    compileField (token.moved distance expression) =
      (compileField token).mapError (Failure.moved distance expression) := by
  simp [compileField, Token.compileDay_moved, Token.compileValues_moved]

end CronSchedule.Expression
