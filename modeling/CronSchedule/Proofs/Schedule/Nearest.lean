import CronSchedule.Proofs.Schedule.Search
import Mathlib.Data.Set.Card

/-!
# The nearest fire time in a direction

The two directions of a search are mirror images, so what holds of both is said once, of a
direction.

* `Direction.Passes` — one instant comes after another one in a direction.
* `Direction.Nearest` — the first member of a set in a direction, or nothing if the set is empty.
* `Schedule.ahead` — the fire times that lie ahead of an instant.
* **`nearest_spec`** — a search finds the nearest of the fire times ahead of its start.
* **`ahead_eq_insert`** — what lies ahead of the start is the nearest fire time and what lies ahead
  of it.
* **`nearest_opposite`** — from the nearest fire time, the search in the other direction finds the
  way back.
-/

namespace CronSchedule

open Calendar

/-- Instants with the same microseconds and the same offset are in order, or the same. -/
lemma lt_or_eq_or_gt_instant {a b : Instant} (hmicros : a.micros = b.micros)
    (hoffset : a.offset = b.offset) : a < b ∨ a = b ∨ b < a := by
  rcases lt_trichotomy a.clock b.clock with h | h | h
  · exact Or.inl (Or.inl h)
  · refine Or.inr (Or.inl ?_)
    cases a
    cases b
    simp_all
  · exact Or.inr (Or.inr (Or.inl h))

/-! ## Directions -/

namespace Direction

/-- An instant comes after another one in a direction: later or earlier. -/
def Passes : Direction → Instant → Instant → Prop
  | .next, a, b => a < b
  | .previous, a, b => b < a

def opposite : Direction → Direction
  | .next => .previous
  | .previous => .next

/-- The first member of a set in a direction, or nothing if the set is empty. -/
def Nearest (direction : Direction) (set : Set Instant) : Option Instant → Prop
  | some t => t ∈ set ∧ ∀ u ∈ set, ¬direction.Passes u t
  | none => set = ∅

variable {direction : Direction} {a b c : Instant} {set : Set Instant} {found : Option Instant}

lemma passes_opposite : direction.opposite.Passes a b ↔ direction.Passes b a := by
  cases direction <;> rfl

lemma Passes.trans (hab : direction.Passes a b) (hbc : direction.Passes b c) :
    direction.Passes a c := by
  cases direction with
  | next => exact lt_trans hab hbc
  | previous => exact lt_trans hbc hab

lemma not_passes_self : ¬direction.Passes a a := by
  cases direction <;> exact lt_irrefl a

lemma passes_trichotomy (direction : Direction) (hmicros : a.micros = b.micros)
    (hoffset : a.offset = b.offset) : direction.Passes a b ∨ a = b ∨ direction.Passes b a := by
  rcases lt_or_eq_or_gt_instant hmicros hoffset with h | h | h
  · cases direction
    · exact Or.inl h
    · exact Or.inr (Or.inr h)
  · exact Or.inr (Or.inl h)
  · cases direction
    · exact Or.inr (Or.inr h)
    · exact Or.inl h

lemma nearest_of_firstIn (h : FirstIn set found) : Direction.next.Nearest set found := by
  cases found with
  | none => exact h
  | some t => exact ⟨h.1, fun u hu => not_lt_of_ge (h.2 hu)⟩

lemma nearest_of_lastIn (h : LastIn set found) : Direction.previous.Nearest set found := by
  cases found with
  | none => exact h
  | some t => exact ⟨h.1, fun u hu => not_lt_of_ge (h.2 hu)⟩

end Direction

/-! ## Searches -/

namespace Schedule

variable {s : Schedule} {direction : Direction} {start t u : Instant}

/-- The fire times that lie ahead of an instant in a direction: whole seconds with the offset of the
instant that the schedule accepts. -/
def ahead (s : Schedule) (direction : Direction) (start : Instant) : Set Instant :=
  {t | t.IsDatetime ∧ t.micros = 0 ∧ t.offset = start.offset ∧ direction.Passes start t ∧
    s.accepts t = .ok true}

lemma ahead_subset (s : Schedule) (direction : Direction) (start : Instant) :
    s.ahead direction start ⊆ s.timetable.fireInstants start.offset :=
  fun _ ht => ⟨ht.1, ht.2.1, ht.2.2.1, ht.2.2.2.2⟩

lemma ahead_eq (s : Schedule) (direction : Direction) (start : Instant) :
    s.ahead direction start =
      {t | t ∈ s.timetable.fireInstants start.offset ∧ direction.Passes start t} := by
  ext t
  simp only [ahead, Timetable.fireInstants, accepts, Set.mem_ofPred_eq]
  tauto

/-- **A search finds the nearest of the fire times ahead of its start.** -/
theorem nearest_spec (hs : s.timetable.WellFormed) (hstart : start.IsDatetime)
    (direction : Direction) : ∃ found, s.nearest start direction = .ok found ∧
      direction.Nearest (s.ahead direction start) found := by
  rw [ahead_eq]
  cases direction with
  | next =>
      obtain ⟨found, hfound, hfirst⟩ := Timetable.next_firstIn hs hstart
      exact ⟨found, hfound, Direction.nearest_of_firstIn hfirst⟩
  | previous =>
      obtain ⟨found, hfound, hlast⟩ := Timetable.previous_lastIn hs hstart
      exact ⟨found, hfound, Direction.nearest_of_lastIn hlast⟩

lemma nearest_some (hs : s.timetable.WellFormed) (hstart : start.IsDatetime)
    (h : s.nearest start direction = .ok (some t)) :
    t ∈ s.ahead direction start ∧ ∀ u ∈ s.ahead direction start, ¬direction.Passes u t := by
  obtain ⟨found, hfound, hnearest⟩ := nearest_spec hs hstart direction
  obtain rfl : found = some t := Except.ok.inj (hfound.symm.trans h)
  exact hnearest

/-- **What lies ahead of the start is the nearest fire time and what lies ahead of it.** -/
theorem ahead_eq_insert (hs : s.timetable.WellFormed) (hstart : start.IsDatetime)
    (h : s.nearest start direction = .ok (some t)) :
    s.ahead direction start = insert t (s.ahead direction t) := by
  obtain ⟨hmem, hfirst⟩ := nearest_some hs hstart h
  obtain ⟨ht, hmicros, hoffset, hpast, htAccepts⟩ := hmem
  ext u
  constructor
  · intro hmem
    obtain ⟨hu, huMicros, huOffset, huPast, huAccepts⟩ := hmem
    rcases direction.passes_trichotomy (huMicros.trans hmicros.symm)
      (huOffset.trans hoffset.symm) with hbefore | rfl | hafter
    · exact absurd hbefore (hfirst u ⟨hu, huMicros, huOffset, huPast, huAccepts⟩)
    · exact Set.mem_insert _ _
    · exact Or.inr ⟨hu, huMicros, huOffset.trans hoffset.symm, hafter, huAccepts⟩
  · rintro (rfl | ⟨hu, huMicros, huOffset, hafter, huAccepts⟩)
    · exact ⟨ht, hmicros, hoffset, hpast, htAccepts⟩
    · exact ⟨hu, huMicros, huOffset.trans hoffset, hpast.trans hafter, huAccepts⟩

lemma notMem_ahead_self : t ∉ s.ahead direction t :=
  fun h => Direction.not_passes_self h.2.2.2.1

/-- With every step of a run, one fire time less lies ahead. -/
lemma ncard_ahead (hs : s.timetable.WellFormed) (hstart : start.IsDatetime)
    (h : s.nearest start direction = .ok (some t)) :
    (s.ahead direction start).ncard = (s.ahead direction t).ncard + 1 := by
  have hfinite : (s.ahead direction t).Finite :=
    (Timetable.fireInstants_finite hs t.offset).subset (ahead_subset s direction t)
  rw [ahead_eq_insert hs hstart h, Set.ncard_insert_of_notMem notMem_ahead_self hfinite]

/-- **From the nearest fire time, the search in the other direction finds the way back** to the fire
time from which it was reached. -/
theorem nearest_opposite (hs : s.timetable.WellFormed) (ht : t.IsDatetime) (hmicros : t.micros = 0)
    (haccepts : s.accepts t = .ok true) (h : s.nearest t direction = .ok (some u)) :
    s.nearest u direction.opposite = .ok (some t) := by
  obtain ⟨⟨hu, huMicros, huOffset, hpast, -⟩, hfirst⟩ := nearest_some hs ht h
  have hback : t ∈ s.ahead direction.opposite u :=
    ⟨ht, hmicros, huOffset.symm, Direction.passes_opposite.2 hpast, haccepts⟩
  obtain ⟨found, hfound, hnearest⟩ := nearest_spec hs hu direction.opposite
  cases found with
  | none => exact absurd hback (Set.eq_empty_iff_forall_notMem.1 hnearest t)
  | some v =>
      obtain ⟨⟨hv, hvMicros, hvOffset, hvBack, hvAccepts⟩, hvFirst⟩ := hnearest
      have hbetween := hvFirst t hback
      rw [Direction.passes_opposite] at hvBack hbetween
      rcases direction.passes_trichotomy (hvMicros.trans hmicros.symm)
        (hvOffset.trans huOffset) with hearlier | rfl | hlater
      · exact absurd hearlier hbetween
      · exact hfound
      · exact absurd hvBack (hfirst v ⟨hv, hvMicros, hvOffset.trans huOffset, hlater, hvAccepts⟩)

end Schedule

end CronSchedule
