import CronSchedule.Proofs.Bisection
import CronSchedule.Timetable.Search
import Mathlib.Data.Int.ConditionallyCompleteOrder
import Mathlib.Order.ConditionallyCompleteLattice.Basic
import Mathlib.Order.Bounds.Image
import Mathlib.Tactic.Lemma

/-!
# First and last members

Every part of a search answers the same kind of question: which member of a set comes first, or
last, and is there one at all?

* `FirstIn`, `LastIn` — an optional value is the least (greatest) member of a set, or the set is
  empty and there is none.
* **`ceiling_firstIn`**, **`floor_lastIn`** — the nearest members of a set of values, read off the
  places that bisection finds.
* `firstPassing_firstIn`, `firstPassing_lastIn` — the first value of a monotone list that passes a
  test that may fail.
-/

namespace CronSchedule

section

variable {α : Type*} [Preorder α]

/-- The least member of a set, or nothing if the set is empty. -/
def FirstIn (s : Set α) : Option α → Prop
  | some a => IsLeast s a
  | none => s = ∅

/-- The greatest member of a set, or nothing if the set is empty. -/
def LastIn (s : Set α) : Option α → Prop
  | some a => IsGreatest s a
  | none => s = ∅

variable {β : Type*} [Preorder β] {s : Set α} {f : α → β} {found : Option α}

/-- A monotone map takes the first member along. -/
lemma FirstIn.map (h : FirstIn s found) (hf : Monotone f) : FirstIn (f '' s) (found.map f) := by
  cases found with
  | none => exact Set.image_eq_empty.2 h
  | some a => exact hf.map_isLeast h

/-- A monotone map takes the last member along. -/
lemma LastIn.map (h : LastIn s found) (hf : Monotone f) : LastIn (f '' s) (found.map f) := by
  cases found with
  | none => exact Set.image_eq_empty.2 h
  | some a => exact hf.map_isGreatest h

end

section

variable {α : Type*} [PartialOrder α] {s : Set α} {found : Option α} {a : α}

/-- What is first in a set is its least member and nothing else. -/
lemma FirstIn.eq_some_iff (h : FirstIn s found) : found = some a ↔ IsLeast s a := by
  cases found with
  | none =>
      obtain rfl : s = ∅ := h
      exact iff_of_false nofun fun ha => ha.1
  | some b =>
      rw [Option.some.injEq]
      exact ⟨fun hb => hb ▸ h, fun ha => IsLeast.unique h ha⟩

/-- What is last in a set is its greatest member and nothing else. -/
lemma LastIn.eq_some_iff (h : LastIn s found) : found = some a ↔ IsGreatest s a := by
  cases found with
  | none =>
      obtain rfl : s = ∅ := h
      exact iff_of_false nofun fun ha => ha.1
  | some b =>
      rw [Option.some.injEq]
      exact ⟨fun hb => hb ▸ h, fun ha => IsGreatest.unique h ha⟩

end

/-! ## Members of a list by position -/

/-- In a list that is ordered by `r`, all that pass a test come after the first one that passes. -/
lemma rel_of_first {r : Int → Int → Prop} {p : Int → Prop} {before after : List Int} {v w : Int}
    (hr : (before ++ v :: after).Pairwise r) (hbefore : ∀ u ∈ before, ¬p u)
    (hw : w ∈ before ++ v :: after) (hpw : p w) : w = v ∨ r v w := by
  rcases List.mem_append.1 hw with hw | hw
  · exact absurd hpw (hbefore w hw)
  · rcases List.mem_cons.1 hw with rfl | hw
    · exact Or.inl rfl
    · exact Or.inr ((List.pairwise_cons.1 (List.pairwise_append.1 hr).2.1).1 w hw)

lemma isLeast_of_first {p : Int → Prop} {before after : List Int} {v : Int}
    (hr : (before ++ v :: after).Pairwise (· < ·)) (hv : p v) (hbefore : ∀ u ∈ before, ¬p u) :
    IsLeast {w | w ∈ before ++ v :: after ∧ p w} v := by
  refine ⟨⟨by simp, hv⟩, fun w hw => ?_⟩
  rcases rel_of_first hr hbefore hw.1 hw.2 with rfl | hlt
  · exact le_rfl
  · exact hlt.le

lemma isGreatest_of_first {p : Int → Prop} {before after : List Int} {v : Int}
    (hr : (before ++ v :: after).Pairwise (· > ·)) (hv : p v) (hbefore : ∀ u ∈ before, ¬p u) :
    IsGreatest {w | w ∈ before ++ v :: after ∧ p w} v := by
  refine ⟨⟨by simp, hv⟩, fun w hw => ?_⟩
  rcases rel_of_first hr hbefore hw.1 hw.2 with rfl | hgt
  · exact le_rfl
  · exact hgt.le

/-! ## Sets of values -/

namespace ValueSet

/-- Members are ordered as their places are. -/
lemma member_le_member (set : ValueSet) {i j : Nat} (hj : j < set.members.length) (hij : i ≤ j) :
    set.members[i] ≤ set.members[j] := by
  rcases hij.lt_or_eq with hlt | rfl
  · exact (List.pairwise_iff_getElem.1 set.increasing i j (by omega) hj hlt).le
  · exact le_rfl

/-- **The ceiling is the least member that is not below the value.**  It stands at the left place of
the value, which is the end of the list if all members are below the value. -/
theorem ceiling_firstIn (set : ValueSet) (value : Int) :
    FirstIn {w | w ∈ set.members ∧ value ≤ w} (set.ceiling value) := by
  have hplace (i : Nat) (hi : i < set.members.length) :
      set.members[i] < value ↔ i < bisectLeft set.members value :=
    lt_iff_lt_bisectLeft set.increasing hi
  cases h : set.ceiling value with
  | none =>
      have hend : set.members.length ≤ bisectLeft set.members value := List.getElem?_eq_none_iff.1 h
      refine Set.eq_empty_iff_forall_notMem.2 fun w ⟨hw, hle⟩ => ?_
      obtain ⟨i, hi, rfl⟩ := List.getElem_of_mem hw
      exact not_lt.2 hle ((hplace i hi).2 (by omega))
  | some v =>
      obtain ⟨hin, rfl⟩ := List.getElem?_eq_some_iff.1 h
      refine ⟨⟨List.getElem_mem hin, ?_⟩, fun w ⟨hw, hle⟩ => ?_⟩
      · exact not_lt.1 fun hlt => lt_irrefl _ ((hplace _ hin).1 hlt)
      · obtain ⟨i, hi, rfl⟩ := List.getElem_of_mem hw
        refine set.member_le_member hi (not_lt.1 fun hlt => ?_)
        exact not_lt.2 hle ((hplace i hi).2 hlt)

/-- **The floor is the greatest member that is not above the value.**  It stands right before the
right place of the value, which is the beginning of the list if all members are above the value. -/
theorem floor_lastIn (set : ValueSet) (value : Int) :
    LastIn {w | w ∈ set.members ∧ w ≤ value} (set.floor value) := by
  have hplace (i : Nat) (hi : i < set.members.length) :
      set.members[i] ≤ value ↔ i < bisectRight set.members value :=
    le_iff_lt_bisectRight set.increasing hi
  have hlength : bisectRight set.members value ≤ set.members.length :=
    bisectRight_le_length set.increasing
  rw [floor]
  cases hright : bisectRight set.members value with
  | zero =>
      refine Set.eq_empty_iff_forall_notMem.2 fun w ⟨hw, hle⟩ => ?_
      obtain ⟨i, hi, rfl⟩ := List.getElem_of_mem hw
      exact Nat.not_lt_zero i (hright ▸ (hplace i hi).1 hle)
  | succ place =>
      rw [hright] at hplace hlength
      have hin : place < set.members.length := hlength
      simp only [List.getElem?_eq_getElem hin]
      refine ⟨⟨List.getElem_mem hin, (hplace place hin).2 (Nat.lt_succ_self _)⟩,
        fun w ⟨hw, hle⟩ => ?_⟩
      obtain ⟨i, hi, rfl⟩ := List.getElem_of_mem hw
      exact set.member_le_member hin (Nat.le_of_lt_succ ((hplace i hi).1 hle))

end ValueSet

/-! ## Tests along a list -/

lemma mem_integersFrom {first last v : Int} :
    v ∈ integersFrom first last ↔ first ≤ v ∧ v ≤ last := by
  simp only [integersFrom, List.mem_map, List.mem_range]
  constructor
  · rintro ⟨i, hi, rfl⟩
    omega
  · rintro ⟨hfirst, hlast⟩
    exact ⟨(v - first).toNat, by omega, by omega⟩

lemma pairwise_integersFrom (first last : Int) : (integersFrom first last).Pairwise (· < ·) := by
  rw [integersFrom, List.pairwise_map]
  exact List.pairwise_lt_range.imp fun h => by omega

lemma head?_integersFrom {first last : Int} (h : first ≤ last) :
    (integersFrom first last).head? = some first := by
  have hlength : (last - first + 1).toNat ≠ 0 := by omega
  simp [integersFrom, List.head?_range, hlength]

lemma head?_reverse_integersFrom {first last : Int} (h : first ≤ last) :
    (integersFrom first last).reverse.head? = some last := by
  have hlength : (last - first + 1).toNat ≠ 0 := by omega
  have hlast : first + ((last - first + 1).toNat - 1 : Nat) = last := by omega
  simp [integersFrom, List.getLast?_range, hlength, hlast]

section

variable {ε : Type} {test : Int → Except ε Bool}

/-- A search along a list ends at the first value that passes, all before it having been refused;
or all have been refused. -/
lemma firstPassing_cases {values : List Int} {found : Option Int}
    (h : firstPassing test values = .ok found) :
    (found = none ∧ ∀ w ∈ values, test w = .ok false) ∨
    ∃ v before after, found = some v ∧ values = before ++ v :: after ∧ test v = .ok true ∧
      ∀ w ∈ before, test w = .ok false := by
  induction values with
  | nil => simp_all [firstPassing]
  | cons value rest ih =>
      rw [firstPassing] at h
      cases hv : test value with
      | error e => simp [hv, bind, Except.bind] at h
      | ok passed =>
          cases passed with
          | true =>
              rw [hv] at h
              obtain rfl : some value = found := Except.ok.inj h
              exact Or.inr ⟨value, [], rest, rfl, rfl, hv, by simp⟩
          | false =>
              rw [hv] at h
              rcases ih h with ⟨hnone, hall⟩ | ⟨v, before, after, hsome, rfl, hpass, hbefore⟩
              · exact Or.inl ⟨hnone, by simpa [hv] using hall⟩
              · have hall : ∀ w ∈ value :: before, test w = .ok false := by simpa [hv] using hbefore
                exact Or.inr ⟨v, value :: before, after, hsome, rfl, hpass, hall⟩

lemma firstPassing_of_head {values : List Int} {v : Int} (hhead : values.head? = some v)
    (hv : test v = .ok true) : firstPassing test values = .ok (some v) := by
  cases values with
  | nil => cases hhead
  | cons value rest =>
      obtain rfl : value = v := Option.some.inj hhead
      rw [firstPassing, hv]
      rfl

lemma firstPassing_ok (test : Int → Except ε Bool) (values : List Int)
    (h : ∀ w ∈ values, ∃ passed, test w = .ok passed) :
    ∃ found, firstPassing test values = .ok found := by
  induction values with
  | nil => exact ⟨none, rfl⟩
  | cons value rest ih =>
      obtain ⟨passed, hv⟩ := h value (by simp)
      obtain ⟨found, hrest⟩ := ih fun w hw => h w (List.mem_cons_of_mem _ hw)
      rw [firstPassing, hv]
      cases passed with
      | true => exact ⟨some value, rfl⟩
      | false => exact ⟨found, hrest⟩

lemma firstPassing_firstIn {values : List Int} {found : Option Int}
    (hr : values.Pairwise (· < ·)) (h : firstPassing test values = .ok found) :
    FirstIn {w | w ∈ values ∧ test w = .ok true} found := by
  rcases firstPassing_cases h with ⟨rfl, hall⟩ | ⟨v, before, after, rfl, rfl, hv, hbefore⟩
  · refine Set.eq_empty_iff_forall_notMem.2 fun w hw => ?_
    simpa [hall w hw.1] using hw.2
  · exact isLeast_of_first hr hv fun w hw => by simp [hbefore w hw]

lemma firstPassing_lastIn {values : List Int} {found : Option Int}
    (hr : values.Pairwise (· > ·)) (h : firstPassing test values = .ok found) :
    LastIn {w | w ∈ values ∧ test w = .ok true} found := by
  rcases firstPassing_cases h with ⟨rfl, hall⟩ | ⟨v, before, after, rfl, rfl, hv, hbefore⟩
  · refine Set.eq_empty_iff_forall_notMem.2 fun w hw => ?_
    simpa [hall w hw.1] using hw.2
  · exact isGreatest_of_first hr hv fun w hw => by simp [hbefore w hw]

end

end CronSchedule
