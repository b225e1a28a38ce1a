import CronSchedule.ValueSet
import Mathlib.Tactic.Lemma

/-!
# Bisection

Halving a range of places finds where the values of a list cease to pass a test, provided that those
that pass come first.  What is known of the range is that all values before it pass and none behind
it does; the value in the middle extends one of the two parts.

* `PassFirst` — the values of a list that pass a test come before the others.
* `Brackets` — what is known of a range of places while it is halved; `Brackets.above` and
  `Brackets.below` — what one look at a value adds.
* **`bisect_brackets`** — the halving ends on a place that has all the values that pass before it.
* **`lt_iff_lt_bisectLeft`**, **`le_iff_lt_bisectRight`** — the place of a value in an increasing
  list.
-/

namespace CronSchedule

variable {test : Int → Bool} {values : List Int} {low high i : Nat} {value : Int}

/-! ## Ranges of places -/

/-- The values of a list that pass a test come before the others. -/
def PassFirst (test : Int → Bool) (values : List Int) : Prop :=
  values.Pairwise fun v w => test w = true → test v = true

/-- All values before a range of places pass a test, and none behind it does. -/
structure Brackets (test : Int → Bool) (values : List Int) (low high : Nat) : Prop where
  ordered : low ≤ high
  within : high ≤ values.length
  passed : ∀ (i : Nat) (hi : i < values.length), i < low → test values[i] = true
  refused : ∀ (i : Nat) (hi : i < values.length), high ≤ i → ¬test values[i] = true

lemma PassFirst.passed_of_le (h : PassFirst test values) {j : Nat} (hj : j < values.length)
    (hij : i ≤ j) (hpass : test values[j] = true) : test values[i] = true := by
  rcases Nat.lt_or_eq_of_le hij with hlt | rfl
  · exact List.pairwise_iff_getElem.1 h i j (by omega) hj hlt hpass
  · exact hpass

lemma brackets_whole : Brackets test values 0 values.length where
  ordered := Nat.zero_le _
  within := Nat.le_refl _
  passed _ _ hlt := absurd hlt (Nat.not_lt_zero _)
  refused _ hi hle := absurd hi (Nat.not_lt.2 hle)

/-- A value that passes puts itself and all values before it before the range. -/
lemma Brackets.above (h : Brackets test values low high) (hfirst : PassFirst test values)
    (hi : i < values.length) (hhigh : i < high) (hpass : test values[i] = true) :
    Brackets test values (i + 1) high where
  ordered := hhigh
  within := h.within
  passed _ _ hlt := hfirst.passed_of_le hi (Nat.le_of_lt_succ hlt) hpass
  refused := h.refused

/-- A value that does not pass puts itself and all values after it behind the range. -/
lemma Brackets.below (h : Brackets test values low high) (hfirst : PassFirst test values)
    (hi : i < values.length) (hlow : low ≤ i) (hrefuse : ¬test values[i] = true) :
    Brackets test values low i where
  ordered := hlow
  within := Nat.le_of_lt hi
  passed := h.passed
  refused _ hj hle hpass := hrefuse (hfirst.passed_of_le hj hle hpass)

/-! ## Halving -/

/-- **The halving ends on a place that has all the values that pass before it.** -/
theorem bisect_brackets (hfirst : PassFirst test values) (hhigh : high ≤ values.length)
    (h : Brackets test values low high) :
    Brackets test values (bisect test values low high hhigh)
      (bisect test values low high hhigh) := by
  fun_induction bisect test values low high hhigh with
  | case1 low high hhigh hlow hmiddle hpass ih =>
      exact ih (h.above hfirst hmiddle (by omega) hpass)
  | case2 low high hhigh hlow hmiddle hrefuse ih =>
      exact ih (h.below hfirst hmiddle (by omega) hrefuse)
  | case3 low high hhigh hlow =>
      -- the range is empty, so both of its ends are the place
      obtain rfl : low = high := Nat.le_antisymm h.ordered (Nat.not_lt.1 hlow)
      exact h

/-- The values that pass are those before the place that the halving of the whole list ends on. -/
lemma passes_iff_lt_bisect (hfirst : PassFirst test values) (hi : i < values.length) :
    test values[i] = true ↔ i < bisect test values 0 values.length (Nat.le_refl _) := by
  have hplace := bisect_brackets hfirst (Nat.le_refl _) brackets_whole
  constructor
  · intro hpass
    exact Nat.not_le.1 fun hle => hplace.refused i hi hle hpass
  · exact hplace.passed i hi

/-! ## The place of a value -/

lemma passFirst_lt (hvalues : values.Pairwise (· < ·)) : PassFirst (· < value) values :=
  hvalues.imp fun hvw hw => decide_eq_true (Int.lt_trans hvw (of_decide_eq_true hw))

lemma passFirst_le (hvalues : values.Pairwise (· < ·)) : PassFirst (· ≤ value) values :=
  hvalues.imp fun hvw hw =>
    decide_eq_true (Int.le_trans (Int.le_of_lt hvw) (of_decide_eq_true hw))

/-- **The values below a value are those before its left place.** -/
theorem lt_iff_lt_bisectLeft (hvalues : values.Pairwise (· < ·)) (hi : i < values.length) :
    values[i] < value ↔ i < bisectLeft values value := by
  rw [bisectLeft, ← passes_iff_lt_bisect (passFirst_lt hvalues) hi, decide_eq_true_iff]

/-- **The values not above a value are those before its right place.** -/
theorem le_iff_lt_bisectRight (hvalues : values.Pairwise (· < ·)) (hi : i < values.length) :
    values[i] ≤ value ↔ i < bisectRight values value := by
  rw [bisectRight, ← passes_iff_lt_bisect (passFirst_le hvalues) hi, decide_eq_true_iff]

lemma bisectRight_le_length (hvalues : values.Pairwise (· < ·)) :
    bisectRight values value ≤ values.length :=
  (bisect_brackets (passFirst_le hvalues) (Nat.le_refl _) brackets_whole).within

end CronSchedule
