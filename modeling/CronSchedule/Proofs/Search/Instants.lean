import CronSchedule.Proofs.Search.Backward
import CronSchedule.Proofs.Search.Forward
import CronSchedule.Proofs.Timetable.WellFormed
import Mathlib.Data.Int.Interval

/-!
# The search from an instant

A search from an instant is a search from a clock: the next second if it goes forward, the previous
one or, where the instant has microseconds, its own if it goes backward.  A start outside the range
of years is not moved by a second.  For a well-formed timetable this makes no difference, for no
fire time is near such a start; a year field put together by hand may fire there.

* `Timetable.fireInstants` — the instants at which a timetable fires; **`fireInstants_finite`** — of
  a well-formed one there are finitely many.
* `Reached`, `ReachedBack` — the clocks among which a search looks for a fire time.
* `firstCandidate_spec`, `lastCandidate_spec` — the clock from which a search runs.
* **`next_reached`**, **`previous_reached`** — a search finds the nearest of the fire times that it
  can reach, whatever the timetable, as long as its day fields decide.
* **`next_firstIn`**, **`previous_lastIn`** — for a well-formed timetable, that is the nearest fire
  time.
-/

namespace CronSchedule.Timetable

open Calendar WallClock

variable {t : Timetable} {start : Instant}

lemma WellFormed.daysDecided (ht : t.WellFormed) : t.DaysDecided :=
  fun _ _ _ _ hyear hmonth hday => dayMatches_ok ht ⟨hyear, hmonth, hday⟩

/-- The fire times of a well-formed timetable lie in the years that the year field can name. -/
lemma WellFormed.year_of_fires (ht : t.WellFormed) {c : WallClock} (hc : t.Fires c) :
    Field.year.low ≤ c.year ∧ c.year ≤ Field.year.high :=
  (ht .year).set.inRange (accepts_eq_true_iff.1 hc.2).1

/-- The instants on whole seconds, with a given offset, that a timetable accepts. -/
def fireInstants (t : Timetable) (offset : Option Int) : Set Instant :=
  {i | i.IsDatetime ∧ i.micros = 0 ∧ i.offset = offset ∧ t.accepts i.clock = .ok true}

lemma mem_fireInstants_iff (ht : t.WellFormed) {offset : Option Int} {i : Instant} :
    i ∈ t.fireInstants offset ↔ t.Fires i.clock ∧ i.micros = 0 ∧ i.offset = offset := by
  constructor
  · rintro ⟨hdatetime, hmicros, hoffset, haccepts⟩
    exact ⟨⟨hdatetime.1, haccepts⟩, hmicros, hoffset⟩
  · rintro ⟨hfires, hmicros, hoffset⟩
    obtain ⟨hlow, hhigh⟩ := ht.year_of_fires hfires
    have hfirst : firstYear ≤ Field.year.low := by decide
    have hlast : Field.year.high ≤ lastYear := by decide
    refine ⟨⟨hfires.1, ⟨hfirst.trans hlow, hhigh.trans hlast⟩, ?_⟩, hmicros, hoffset, hfires.2⟩
    simp [hmicros]

/-- **A well-formed timetable has finitely many fire times**, for they lie in the range of years and
are told apart by their ranks. -/
theorem fireInstants_finite (ht : t.WellFormed) (offset : Option Int) :
    (t.fireInstants offset).Finite := by
  have hstart : rangeStart.IsValid := by decide
  have hend : rangeEnd.IsValid := by decide
  refine Set.Finite.of_finite_image (f := fun i => i.clock.rank) ?_ ?_
  · refine (Set.finite_Icc rangeStart.rank rangeEnd.rank).subset ?_
    rintro _ ⟨i, hi, rfl⟩
    have hfires := ((mem_fireInstants_iff ht).1 hi).1
    obtain ⟨hlow, hhigh⟩ := ht.year_of_fires hfires
    have hafter : rangeStart < i.clock := lt_iff.2 (Or.inl (lt_of_lt_of_le (by decide) hlow))
    have hbefore : i.clock < rangeEnd := lt_iff.2 (Or.inl (lt_of_le_of_lt hhigh (by decide)))
    exact ⟨((rank_lt_rank_iff hstart hfires.1).2 hafter).le,
      ((rank_lt_rank_iff hfires.1 hend).2 hbefore).le⟩
  · intro a ha b hb hrank
    obtain ⟨haFires, haMicros, haOffset⟩ := (mem_fireInstants_iff ht).1 ha
    obtain ⟨hbFires, hbMicros, hbOffset⟩ := (mem_fireInstants_iff ht).1 hb
    have hclock : a.clock = b.clock := by
      rcases lt_trichotomy a.clock b.clock with h | h | h
      · exact absurd hrank ((rank_lt_rank_iff haFires.1 hbFires.1).2 h).ne
      · exact h
      · exact absurd hrank ((rank_lt_rank_iff hbFires.1 haFires.1).2 h).ne'
    cases a
    cases b
    simp_all

/-- The instants at which a timetable fires are its fire times with the offset of the start. -/
lemma fireInstants_eq_image (ht : t.WellFormed) {p : Instant → Prop} {q : WallClock → Prop}
    (h : ∀ u, t.Fires u → (p (start.withClock u) ↔ q u)) :
    {i | i ∈ t.fireInstants start.offset ∧ p i} = start.withClock '' {u | t.Fires u ∧ q u} := by
  ext i
  rw [Set.mem_ofPred_eq, mem_fireInstants_iff ht]
  constructor
  · rintro ⟨⟨hfires, hmicros, hoffset⟩, hp⟩
    have hi : start.withClock i.clock = i := by
      rw [Instant.withClock, ← hmicros, ← hoffset]
    exact ⟨i.clock, ⟨hfires, (h _ hfires).1 (hi ▸ hp)⟩, hi⟩
  · rintro ⟨u, ⟨hfires, hq⟩, rfl⟩
    exact ⟨⟨hfires, rfl, rfl⟩, (h u hfires).2 hq⟩

/-! ## Building what was found -/

lemma instantAt_ok {found : Option WallClock}
    (h : ∀ u, found = some u → u.IsValid ∧ firstYear ≤ u.year ∧ u.year ≤ lastYear) :
    instantAt start found = .ok (found.map start.withClock) := by
  cases found with
  | none => rfl
  | some u =>
      obtain ⟨hvalid, hyear⟩ := h u rfl
      simp [instantAt, check_ok hvalid hyear]

/-! ## Forward -/

/-- The clocks among which a search forward looks: those after the start, and the start's own clock
where it lies before the range of years. -/
def Reached (start : Instant) (u : WallClock) : Prop :=
  start.clock < u ∨ start.clock.year < Field.year.low ∧ u = start.clock

lemma Reached.le {u : WallClock} (h : Reached start u) : start.clock ≤ u :=
  h.elim le_of_lt fun h => h.2.ge

/-- The clock from which a search forward runs. -/
lemma firstCandidate_spec (hstart : start.IsDatetime)
    (hyear : start.clock.year ≤ Field.year.high) :
    ∃ c, firstCandidate start = .ok c ∧ c.IsValid ∧ firstYear ≤ c.year ∧
      ∀ u : WallClock, u.IsValid → (c ≤ u ↔ Reached start u) := by
  obtain ⟨hvalid, ⟨hfirst, -⟩, -⟩ := hstart
  simp only [firstCandidate, Reached]
  split_ifs with hlow
  · have hlast : start.clock.year < lastYear := lt_of_le_of_lt hyear (by decide)
    obtain ⟨c, hc, ⟨hcValid, hlater⟩, hleast⟩ := nextSecond_spec hvalid ⟨hfirst, hlast⟩
    refine ⟨c, hc, hcValid, hfirst.trans (year_le hlater.le), fun u hu => ⟨fun hcu => ?_, ?_⟩⟩
    · exact Or.inl (hlater.trans_le hcu)
    · rintro (hlt | ⟨hbelow, -⟩)
      · exact hleast ⟨hu, hlt⟩
      · exact absurd hlow (not_le.2 hbelow)
  · refine ⟨start.clock, rfl, hvalid, hfirst, fun u _ => ?_⟩
    rw [le_iff_lt_or_eq, and_iff_right (not_le.1 hlow), eq_comm]

/-- **A search forward finds the first of the fire times that it can reach.** -/
theorem next_reached (ht : t.DaysDecided) (hstart : start.IsDatetime) :
    ∃ found, t.next start = .ok (found.map start.withClock) ∧
      FirstIn {u | t.Fires u ∧ Reached start u ∧ u.year ≤ Field.year.high} found := by
  simp only [next]
  split_ifs with hyear
  · refine ⟨none, rfl, Set.eq_empty_iff_forall_notMem.2 ?_⟩
    rintro u ⟨-, hreached, hhigh⟩
    exact absurd ((year_le hreached.le).trans hhigh) (not_le.2 hyear)
  · obtain ⟨c, hc, hvalid, hfirst, hreached⟩ := firstCandidate_spec hstart (not_lt.1 hyear)
    obtain ⟨found, hfound, hleast⟩ := earliestFrom_firstIn ht hvalid hfirst
    have hset : {u | t.Fires u ∧ Reached start u ∧ u.year ≤ Field.year.high}
        = {u | t.Fires u ∧ c ≤ u ∧ u.year ≤ Field.year.high} := by
      ext u
      exact and_congr_right fun hu => and_congr_left fun _ => (hreached u hu.1).symm
    have hbuilt : instantAt start found = .ok (found.map start.withClock) := by
      refine instantAt_ok fun u hu => ?_
      subst hu
      obtain ⟨hfires, hle, hhigh⟩ := hleast.1
      exact ⟨hfires.1, hfirst.trans (year_le hle), hhigh.trans (by decide)⟩
    exact ⟨found, by simp [hc, hfound, hbuilt], hset ▸ hleast⟩

/-- **A search forward finds the first fire time after the start.** -/
theorem next_firstIn (ht : t.WellFormed) (hstart : start.IsDatetime) :
    ∃ found, t.next start = .ok found ∧
      FirstIn {i | i ∈ t.fireInstants start.offset ∧ start < i} found := by
  obtain ⟨found, hfound, hfirst⟩ := next_reached ht.daysDecided hstart
  refine ⟨_, hfound, ?_⟩
  rw [fireInstants_eq_image ht (q := fun u => Reached start u ∧ u.year ≤ Field.year.high)]
  · exact hfirst.map start.withClock_mono
  · intro u hu
    obtain ⟨hlow, hhigh⟩ := ht.year_of_fires hu
    rw [Instant.lt_withClock_iff, Reached]
    constructor
    · intro hlt
      exact ⟨Or.inl hlt, hhigh⟩
    · rintro ⟨hlt | ⟨hbelow, rfl⟩, -⟩
      · exact hlt
      · exact absurd hlow (not_le.2 hbelow)

/-! ## Backward -/

/-- The clocks among which a search backward looks: those before the start, and the start's own
clock where it lies after the range of years and on a whole second. -/
def ReachedBack (start : Instant) (u : WallClock) : Prop :=
  start.withClock u < start ∨
    (Field.year.high < start.clock.year ∧ start.micros = 0) ∧ u = start.clock

lemma ReachedBack.le {u : WallClock} (h : ReachedBack start u) : u ≤ start.clock :=
  h.elim (fun h => h.elim le_of_lt fun h => h.1.le) fun h => h.2.le

/-- The clock from which a search backward runs. -/
lemma lastCandidate_spec (hstart : start.IsDatetime)
    (hyear : Field.year.low ≤ start.clock.year) :
    ∃ c, lastCandidate start = .ok c ∧ c.IsValid ∧ c.year ≤ lastYear ∧
      ∀ u : WallClock, u.IsValid → (u ≤ c ↔ ReachedBack start u) := by
  obtain ⟨hvalid, ⟨-, hlast⟩, -⟩ := hstart
  simp only [lastCandidate, ReachedBack, Instant.withClock_lt_iff]
  split_ifs with hmicros hhigh
  · refine ⟨start.clock, rfl, hvalid, hlast, fun u _ => ?_⟩
    rw [le_iff_lt_or_eq]
    simp [Nat.pos_of_ne_zero hmicros, hmicros]
  · have hfirst : firstYear < start.clock.year := lt_of_lt_of_le (by decide) hyear
    obtain ⟨c, hc, ⟨hcValid, hearlier⟩, hgreatest⟩ := previousSecond_spec hvalid ⟨hfirst, hlast⟩
    refine ⟨c, hc, hcValid, (year_le hearlier.le).trans hlast, fun u hu => ?_⟩
    simp only [not_not.1 hmicros, lt_irrefl, and_false, or_false, not_lt.2 hhigh, false_and]
    exact ⟨fun huc => huc.trans_lt hearlier, fun hlt => hgreatest ⟨hu, hlt⟩⟩
  · refine ⟨start.clock, rfl, hvalid, hlast, fun u _ => ?_⟩
    rw [le_iff_lt_or_eq]
    simp [not_not.1 hmicros, not_le.1 hhigh]

/-- **A search backward finds the last of the fire times that it can reach.** -/
theorem previous_reached (ht : t.DaysDecided) (hstart : start.IsDatetime) :
    ∃ found, t.previous start = .ok (found.map start.withClock) ∧
      LastIn {u | t.Fires u ∧ ReachedBack start u ∧ Field.year.low ≤ u.year} found := by
  simp only [previous]
  split_ifs with hyear
  · refine ⟨none, rfl, Set.eq_empty_iff_forall_notMem.2 ?_⟩
    rintro u ⟨-, hreached, hlow⟩
    exact absurd (hlow.trans (year_le hreached.le)) (not_le.2 hyear)
  · obtain ⟨c, hc, hvalid, hlast, hreached⟩ := lastCandidate_spec hstart (not_lt.1 hyear)
    obtain ⟨found, hfound, hgreatest⟩ := latestFrom_lastIn ht hvalid hlast
    have hset : {u | t.Fires u ∧ ReachedBack start u ∧ Field.year.low ≤ u.year}
        = {u | t.Fires u ∧ u ≤ c ∧ Field.year.low ≤ u.year} := by
      ext u
      exact and_congr_right fun hu => and_congr_left fun _ => (hreached u hu.1).symm
    have hbuilt : instantAt start found = .ok (found.map start.withClock) := by
      refine instantAt_ok fun u hu => ?_
      subst hu
      obtain ⟨hfires, hle, hlow⟩ := hgreatest.1
      exact ⟨hfires.1, le_trans (by decide) hlow, (year_le hle).trans hlast⟩
    exact ⟨found, by simp [hc, hfound, hbuilt], hset ▸ hgreatest⟩

/-- **A search backward finds the last fire time before the start.** -/
theorem previous_lastIn (ht : t.WellFormed) (hstart : start.IsDatetime) :
    ∃ found, t.previous start = .ok found ∧
      LastIn {i | i ∈ t.fireInstants start.offset ∧ i < start} found := by
  obtain ⟨found, hfound, hlast⟩ := previous_reached ht.daysDecided hstart
  refine ⟨_, hfound, ?_⟩
  rw [fireInstants_eq_image ht (q := fun u => ReachedBack start u ∧ Field.year.low ≤ u.year)]
  · exact hlast.map start.withClock_mono
  · intro u hu
    obtain ⟨hlow, hhigh⟩ := ht.year_of_fires hu
    rw [ReachedBack]
    constructor
    · intro hlt
      exact ⟨Or.inl hlt, hlow⟩
    · rintro ⟨hlt | ⟨⟨habove, -⟩, rfl⟩, -⟩
      · exact hlt
      · exact absurd hhigh (not_le.2 habove)

end CronSchedule.Timetable
