import CronSchedule.ValueSet
import Mathlib.Data.Int.ConditionallyCompleteOrder
import Mathlib.Order.ConditionallyCompleteLattice.Basic
import Mathlib.Data.List.Sort
import Mathlib.Order.Interval.Set.Defs
import Mathlib.Tactic.Lemma

/-!
# Sets of values as sets

The members of a set of values, read as a set of integers, and what the ways to build one give.

* `stepsUpTo` — the values from a first one in equal steps up to a bound.
* `Progression.toSet`, `ValueSet.toSet` — the set behind a progression and behind a set of values.
* **`ValueSet.eq_of_toSet`** — a set of values is determined by its members and its mark.
-/

namespace CronSchedule

/-! ## Progressions -/

/-- The values `first`, `first + step`, … that are not above `last`. -/
def stepsUpTo (first : Int) (step : Nat) (last : Int) : Set Int :=
  {v | (∃ i : Nat, v = first + step * i) ∧ v ≤ last}

lemma stepsUpTo_subset (first : Int) (step : Nat) (last : Int) :
    stepsUpTo first step last ⊆ Set.Icc first last := by
  rintro v ⟨⟨i, rfl⟩, hle⟩
  have hgrowth : 0 ≤ (step : Int) * i :=
    Int.mul_nonneg (Int.natCast_nonneg _) (Int.natCast_nonneg _)
  exact ⟨by omega, hle⟩

/-- The set of the values of a progression. -/
def Progression.toSet (p : Progression) : Set Int :=
  {v | v ∈ p.values}

lemma Progression.mem_toSet {p : Progression} {v : Int} :
    v ∈ p.toSet ↔ ∃ i : Nat, i ≤ p.extra ∧ v = p.start + p.step * i := by
  simp only [toSet, values, Set.mem_ofPred_eq, List.mem_map, List.mem_range, Nat.lt_succ_iff]
  exact exists_congr fun i => and_congr_right fun _ => eq_comm

/-- **A progression that is stopped by a bound has all its steps up to the bound.** -/
theorem Progression.toSet_upTo {first last : Int} {step : Nat} (h : first ≤ last)
    (hstep : 0 < step) : (Progression.upTo first last step).toSet = stepsUpTo first step last := by
  ext v
  have hpos : (0 : Int) < step := by omega
  have hquot : 0 ≤ (last - first) / step := Int.ediv_nonneg (by omega) hpos.le
  -- the number of steps that fit is the quotient, so a step fits exactly if it is not past it
  have hfit : ∀ i : Nat, i ≤ ((last - first) / step).toNat ↔ first + step * i ≤ last := by
    intro i
    have hle : (i : Int) ≤ (last - first) / step ↔ i * step ≤ last - first :=
      Int.le_ediv_iff_mul_le hpos
    have hcomm : (step : Int) * i = i * step := Int.mul_comm _ _
    omega
  rw [mem_toSet]
  constructor
  · rintro ⟨i, hi, rfl⟩
    exact ⟨⟨i, rfl⟩, (hfit i).1 hi⟩
  · rintro ⟨⟨i, rfl⟩, hle⟩
    exact ⟨i, (hfit i).2 hle, rfl⟩

lemma stepsUpTo_one (first last : Int) : stepsUpTo first 1 last = Set.Icc first last := by
  ext v
  constructor
  · rintro ⟨⟨i, rfl⟩, hle⟩
    exact ⟨by omega, hle⟩
  · rintro ⟨hfirst, hlast⟩
    exact ⟨⟨(v - first).toNat, by omega⟩, hlast⟩

lemma Progression.toSet_single (value : Int) : (⟨value, 1, 0⟩ : Progression).toSet = {value} := by
  ext v
  rw [mem_toSet]
  constructor
  · rintro ⟨i, hi, rfl⟩
    obtain rfl : i = 0 := Nat.le_zero.1 hi
    simp
  · rintro rfl
    exact ⟨0, le_rfl, by simp⟩

lemma Progression.start_mem_values (p : Progression) : p.start ∈ p.values :=
  mem_toSet.2 ⟨0, Nat.zero_le _, by simp⟩

/-! ## Sets of values -/

namespace ValueSet

/-- The members of a set of values, as a set. -/
def toSet (set : ValueSet) : Set Int :=
  {v | v ∈ set.members}

/-- **A set of values is determined by its members and its mark.** -/
theorem eq_of_toSet {a b : ValueSet} (hmembers : a.toSet = b.toSet)
    (hwildcard : a.wildcard = b.wildcard) : a = b := by
  have hlist : a.members = b.members :=
    a.increasing.eq_of_mem_iff b.increasing (Set.ext_iff.1 hmembers)
  cases a
  cases b
  simp_all

lemma mem_ofValues {v first : Int} {rest : List Int} {wildcard : Bool} :
    v ∈ (ofValues first rest wildcard).toSet ↔ v = first ∨ v ∈ rest := by
  simp [toSet, ofValues]

lemma toSet_single (value : Int) : (single value).toSet = {value} := by
  ext v
  simp [single, mem_ofValues]

lemma toSet_ofProgressions (first : Progression) (rest : List Progression) :
    (ofProgressions first rest).toSet = {v | ∃ p ∈ first :: rest, v ∈ p.toSet} := by
  ext v
  have hstart := first.start_mem_values
  simp only [ofProgressions, mem_ofValues, List.mem_append, List.mem_flatMap, Set.mem_ofPred_eq,
    List.mem_cons, exists_eq_or_imp, Progression.toSet]
  constructor
  · rintro (rfl | hv)
    · exact Or.inl hstart
    · exact hv
  · exact Or.inr

lemma toSet_full (field : Field) (wildcard : Bool) :
    (full field wildcard).toSet = Set.Icc field.low field.high := by
  have hrange : field.low ≤ field.high := by cases field <;> decide
  have hsteps := Progression.toSet_upTo hrange Nat.one_pos
  rw [stepsUpTo_one] at hsteps
  ext v
  rw [← hsteps, full, mem_ofValues]
  constructor
  · rintro (rfl | hv)
    · exact (Progression.upTo field.low field.high 1).start_mem_values
    · exact hv
  · exact Or.inr

end ValueSet

end CronSchedule
