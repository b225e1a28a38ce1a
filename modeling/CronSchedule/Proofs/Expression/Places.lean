import CronSchedule.Proofs.Expression.Compiled
import CronSchedule.Proofs.Text.Case
import CronSchedule.Proofs.Text.Words

/-!
# Where errors point

An error of a field gives a position in the expression.  It is the position of the word of the field
plus an offset into the upper case of that word, so it points at the culprit as long as upper case
leaves the characters of the word at their places.  A character that becomes several ones, such as
`ß`, moves what stands behind it.

* `Malformed.Reports` — an error that is about a forbidden character.
* **`malformed_place`** — an error of a field points into its word, and a report of a forbidden
  character at that character.
-/

namespace CronSchedule.Expression

open Text

/-- The error is about a character that its field does not permit. -/
def Malformed.Reports (e : Malformed) (c : Char) : Prop :=
  ∃ field text position, e.problem = .inField field text position (.forbidden c)

/-- The error for a defect points at the place that shows it. -/
lemma Token.Flags.place {token : Token} {e : Malformed} (h : token.Flags e) :
    e.expression = token.expression ∧ e.field = some token.field ∧
      ∃ offset : Nat, e.position = token.position + offset ∧ offset ≤ token.text.length ∧
        ∀ c, e.Reports c → token.text[offset]? = some c := by
  obtain ⟨defect, offset, hshows, rfl⟩ := h
  refine ⟨rfl, rfl, offset, rfl, hshows.within, ?_⟩
  rintro c ⟨_, _, _, hproblem⟩
  exact (hshows.forbidden c (Problem.inField.inj hproblem).2.2.2).1

/-- **An error of a field points into the upper case of the word of the field**, and one about a
forbidden character at that character there.  So if upper case leaves the characters of the word at
their places, the error points into the word or right behind it, and one about a forbidden character
at the character of the expression that becomes it. -/
theorem malformed_place {strict : Bool} {text : List Char} {e : Malformed} {field : Field}
    (h : compile strict text = .error (.malformed e)) (hfield : e.field = some field) :
    ∃ (position : Nat) (word : List Char),
      (words e.expression)[field.index]? = some (position, word) ∧
      (position ≤ e.position ∧ e.position ≤ position + (upper word).length) ∧
      (∀ c, e.Reports c → (upper word)[(e.position - position).toNat]? = some c) ∧
      (KeepsPlaces word →
        e.position ≤ position + word.length ∧
        ∀ c, e.Reports c → ∃ d, e.expression[e.position.toNat]? = some d ∧ c ∈ upperChar d) := by
  rcases (compile_refusal strict text).of_eq_error h with
    ⟨e, ⟨⟩, hnone⟩ | ⟨field', ⟨position, word⟩, hword, hflags⟩
  · rw [hnone] at hfield
    cases hfield
  obtain ⟨hexpression, hfield', offset, hposition, hwithin, hreports⟩ := Token.Flags.place hflags
  simp only [Token.atWord] at hexpression hfield' hposition hwithin hreports
  obtain rfl : field = field' := Option.some.inj (hfield.symm.trans hfield')
  rw [← hexpression] at hword
  refine ⟨position, word, hword, ⟨by omega, by omega⟩, fun c hc => ?_, fun hkeeps => ⟨?_, ?_⟩⟩
  · have hoffset : (e.position - position).toNat = offset := by omega
    rw [hoffset]
    exact hreports c hc
  · rw [hkeeps.length_upper] at hwithin
    omega
  · intro c hc
    obtain ⟨d, hd, hcd⟩ := hkeeps.exists_getElem? (hreports c hc)
    have hplace : e.position.toNat = position + offset := by omega
    refine ⟨d, ?_, hcd⟩
    rw [hplace]
    exact getElem?_of_mem_words (List.mem_of_getElem? hword) hd

/-- An umlaut in the name of a month, in lower case. -/
theorem malformed_place_umlaut :
    let text := "0 0 0 ? jän *".toList
    ∃ e, compile false text = .error (.malformed e) ∧ e.field = some .month ∧ e.Reports 'Ä' ∧
      (words e.expression)[Field.month.index]? = some (8, ['j', 'ä', 'n']) ∧
      KeepsPlaces ['j', 'ä', 'n'] ∧
      ∃ d, e.expression[e.position.toNat]? = some d ∧ 'Ä' ∈ upperChar d := by
  intro text
  let e := (Token.atWord text .month (8, ['j', 'ä', 'n'])).malformed (.forbidden 'Ä') 1
  have he : compile false text = .error (.malformed e) := by decide +kernel
  have hreports : e.Reports 'Ä' := ⟨_, _, _, rfl⟩
  have hkeeps : KeepsPlaces ['j', 'ä', 'n'] := by decide
  have hword : (words e.expression)[Field.month.index]? = some (8, ['j', 'ä', 'n']) := by
    decide +kernel
  obtain ⟨position, word, hfound, -, -, hplace⟩ := malformed_place he rfl
  obtain ⟨rfl, rfl⟩ : 8 = position ∧ ['j', 'ä', 'n'] = word := by
    simpa using hword.symm.trans hfound
  exact ⟨e, he, rfl, hreports, hword, hkeeps, (hplace hkeeps).2 'Ä' hreports⟩

/-- Two letters that become four move the error behind a word that ends at 13. -/
theorem malformed_place_moved :
    ∃ e, compile false "0 0 0 ? * ßß@".toList = .error (.malformed e) ∧
      e.field = some .dayOfWeek ∧
      (words e.expression)[Field.dayOfWeek.index]? = some (10, ['ß', 'ß', '@']) ∧
      e.Reports '@' ∧ e.position = 14 ∧ e.expression[e.position.toNat]? = none := by
  let text := "0 0 0 ? * ßß@".toList
  let e := (Token.atWord text .dayOfWeek (10, ['ß', 'ß', '@'])).malformed (.forbidden '@') 4
  have he : compile false text = .error (.malformed e) := by decide +kernel
  exact ⟨e, he, rfl, by decide +kernel, ⟨_, _, _, rfl⟩, by decide +kernel, by decide +kernel⟩

end CronSchedule.Expression
