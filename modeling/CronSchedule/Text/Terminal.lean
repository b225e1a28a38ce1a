import CronSchedule.Text.Numeral

/-!
# Text for terminals

A control sequence is an escape character and an opening bracket, then digits, semicolons and
question marks, then one letter.  Text that is printed keeps none.

* `afterControl?` — what follows a control sequence.
* `withoutControls` — a text without its control sequences.
* `printed` — lines as they are printed.
-/

namespace CronSchedule.Text

/-! ## Control sequences -/

/-- Whether a character may stand between the bracket and the letter of a control sequence. -/
def isControlMark (c : Char) : Bool :=
  isDigit c || c == ';' || c == '?'

/-- What follows the letter that ends a control sequence. -/
def afterLetter? : List Char → Option (List Char)
  | letter :: rest => if letter.isAlpha then some rest else none
  | [] => none

/-- What follows a control sequence, if the text begins with one. -/
def afterControl? : List Char → Option (List Char)
  | '\x1b' :: '[' :: rest => afterLetter? (rest.dropWhile isControlMark)
  | _ => none

theorem length_afterLetter? {text rest : List Char} (h : afterLetter? text = some rest) :
    rest.length < text.length := by
  cases text with
  | nil => simp [afterLetter?] at h
  | cons c text =>
    simp only [afterLetter?] at h
    split at h
    · cases h
      simp
    · cases h

theorem length_afterControl? {text rest : List Char} (h : afterControl? text = some rest) :
    rest.length < text.length := by
  unfold afterControl? at h
  split at h
  · next inner =>
    have shorter := length_afterLetter? h
    have kept : (inner.dropWhile isControlMark).length ≤ inner.length :=
      (List.dropWhile_sublist isControlMark).length_le
    simp only [List.length_cons]
    omega
  · cases h

def withoutControls : List Char → List Char
  | [] => []
  | c :: rest =>
    match h : afterControl? (c :: rest) with
    | some after =>
      have := length_afterControl? h
      withoutControls after
    | none => c :: withoutControls rest
termination_by text => text.length
decreasing_by
  · assumption
  · exact Nat.lt_succ_self rest.length

/-! ## Printing -/

/-- Lines as they are printed: without control sequences, and each with an end. -/
def printed (lines : List String) : String :=
  String.join (lines.map fun line => String.ofList (withoutControls line.toList) ++ "\n")

end CronSchedule.Text
