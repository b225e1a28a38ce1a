import CronSchedule.Proofs.Schedule.Run
import Mathlib.Data.List.ReduceOption

/-!
# Schedules put together by hand

A schedule that is put together by hand may name values outside the ranges of its fields.  Its
searches go strictly ahead as long as they meet no year outside the range of years; from a fire time
in such a year a search finds its own start.

* `Constraint.IsListed` — a constraint that lists values or says nothing.
* `Timetable.StepsFrom` — between an instant and the range of years, a timetable names no year.
* **`nearest_steps`** — a search from such an instant finds one that lies ahead of it.
* **`nearest_self`** — a search from a fire time outside the range of years finds its own start.
* **`runs_strict`** — the runs from such an instant go strictly ahead.
-/

namespace CronSchedule

open Calendar

/-! ## Constraints of a hand-made schedule -/

/-- A constraint that lists values or says nothing. -/
def Constraint.IsListed (constraint : Constraint) : Prop :=
  (∃ set, constraint = .values set) ∨ constraint = .unspecified

lemma Constraint.IsListed.accepts_ok {constraint : Constraint} (h : constraint.IsListed)
    (value : Int) (date : Option Date) :
    ∃ accepted, constraint.accepts value date = .ok accepted := by
  rcases h with ⟨set, rfl⟩ | rfl
  · exact ⟨_, rfl⟩
  · exact ⟨_, rfl⟩

namespace Timetable

variable {t : Timetable} {constraints : List Constraint}

lemma valuesFor_eq_ok_iff {field : Field} {constraint : Constraint} {set : ValueSet} :
    valuesFor field constraint = .ok set ↔ constraint = .values set := by
  cases constraint <;> simp [valuesFor, Constraint.valueSet?]

/-- A timetable has the constraints from which it is made. -/
lemma constraints_eq (h : ofConstraints? constraints = .ok t) : t.constraints = constraints := by
  unfold ofConstraints? at h
  split at h
  · simp only [bind_eq_ok_iff, pure_eq_ok_iff, valuesFor_eq_ok_iff] at h
    obtain ⟨_, rfl, _, rfl, _, rfl, _, rfl, _, rfl, rfl⟩ := h
    rfl
  · cases h

/-- Day fields that list values or say nothing have an answer for every date. -/
lemma daysDecided_of_isListed (hmonth : t.dayOfMonth.IsListed) (hweek : t.dayOfWeek.IsListed) :
    t.DaysDecided := by
  intro year month day _ hyear hmonths hdays
  exact dayMatches_of_answers ⟨hyear, hmonths, hdays⟩ (fun value => hmonth.accepts_ok value _)
    fun value => hweek.accepts_ok value _

/-- Between an instant and the range of years, a timetable names no year. -/
def StepsFrom (t : Timetable) : Direction → Instant → Prop
  | .next, start => ∀ year ∈ t.year.members, start.clock.year ≤ year → Field.year.low ≤ year
  | .previous, start => ∀ year ∈ t.year.members, year ≤ start.clock.year → year ≤ Field.year.high

end Timetable

/-- An instant before the range of years, or after it in the other direction. -/
def Direction.Outside : Direction → Instant → Prop
  | .next, start => start.clock.year < Field.year.low
  | .previous, start => Field.year.high < start.clock.year

namespace Schedule

variable {s : Schedule} {direction : Direction} {start : Instant} {c : WallClock}

/-! ## Searches -/

lemma isDatetime_withClock (start : Instant) (hc : c.IsValid)
    (hyear : Field.year.low ≤ c.year ∧ c.year ≤ Field.year.high) :
    (start.withClock c).IsDatetime := by
  have hfirst : firstYear ≤ Field.year.low := by decide
  have hlast : Field.year.high ≤ lastYear := by decide
  have hmicros : 0 < 1000000 := by decide
  exact ⟨hc, ⟨hfirst.trans hyear.1, hyear.2.trans hlast⟩, hmicros⟩

/-- **A search finds an instant that lies ahead of its start**, if the timetable names no year
between the start and the range of years; and the next search may go on from there. -/
theorem nearest_steps (hs : s.timetable.DaysDecided) (hstart : start.IsDatetime)
    (hsteps : s.timetable.StepsFrom direction start) :
    ∃ found, s.nearest start direction = .ok found ∧ ∀ u, found = some u →
      direction.Passes start u ∧ u.IsDatetime ∧ s.timetable.StepsFrom direction u := by
  have hnamed : ∀ {c}, s.timetable.Fires c → c.year ∈ s.timetable.year.members :=
    fun hfires => (Timetable.accepts_eq_true_iff.1 hfires.2).1
  cases direction with
  | next =>
      obtain ⟨found, hfound, hfirst⟩ := Timetable.next_reached hs hstart
      refine ⟨_, hfound, fun u hu => ?_⟩
      obtain ⟨c, rfl, rfl⟩ := Option.map_eq_some_iff.1 hu
      obtain ⟨hfires, hreached, hhigh⟩ := hfirst.1
      have hyears : start.clock.year ≤ c.year := WallClock.year_le hreached.le
      have hlow : Field.year.low ≤ c.year := hsteps c.year (hnamed hfires) hyears
      have hpast : start < start.withClock c := by
        rcases hreached with hlt | ⟨hbelow, rfl⟩
        · exact Instant.lt_withClock_iff.2 hlt
        · exact absurd hlow (not_le.2 hbelow)
      refine ⟨hpast, isDatetime_withClock start hfires.1 ⟨hlow, hhigh⟩, fun year hyear hle => ?_⟩
      exact hsteps year hyear (hyears.trans hle)
  | previous =>
      obtain ⟨found, hfound, hlast⟩ := Timetable.previous_reached hs hstart
      refine ⟨_, hfound, fun u hu => ?_⟩
      obtain ⟨c, rfl, rfl⟩ := Option.map_eq_some_iff.1 hu
      obtain ⟨hfires, hreached, hlow⟩ := hlast.1
      have hyears : c.year ≤ start.clock.year := WallClock.year_le hreached.le
      have hhigh : c.year ≤ Field.year.high := hsteps c.year (hnamed hfires) hyears
      have hpast : start.withClock c < start := by
        rcases hreached with hlt | ⟨⟨habove, -⟩, rfl⟩
        · exact hlt
        · exact absurd hhigh (not_le.2 habove)
      refine ⟨hpast, isDatetime_withClock start hfires.1 ⟨hlow, hhigh⟩, fun year hyear hle => ?_⟩
      exact hsteps year hyear (hle.trans hyears)

/-- **A search from a fire time outside the range of years finds its own start.** -/
theorem nearest_self (hs : s.timetable.DaysDecided) (hstart : start.IsDatetime)
    (hmicros : start.micros = 0) (haccepts : s.accepts start = .ok true)
    (houtside : direction.Outside start) : s.nearest start direction = .ok (some start) := by
  have hfires : s.timetable.Fires start.clock := ⟨hstart.1, haccepts⟩
  have hrange : Field.year.low ≤ Field.year.high := by decide
  have hself : start.withClock start.clock = start := by
    rw [Instant.withClock, ← hmicros]
  cases direction with
  | next =>
      obtain ⟨found, hfound, hfirst⟩ := Timetable.next_reached hs hstart
      have hmem : start.clock ∈ {u | s.timetable.Fires u ∧ Timetable.Reached start u ∧
          u.year ≤ Field.year.high} :=
        ⟨hfires, Or.inr ⟨houtside, rfl⟩, (lt_of_lt_of_le houtside hrange).le⟩
      cases found with
      | none => exact absurd hmem (Set.eq_empty_iff_forall_notMem.1 hfirst _)
      | some c =>
          obtain rfl : c = start.clock := le_antisymm (hfirst.2 hmem) hfirst.1.2.1.le
          rw [nearest, hfound, Option.map_some, hself]
  | previous =>
      obtain ⟨found, hfound, hlast⟩ := Timetable.previous_reached hs hstart
      have hmem : start.clock ∈ {u | s.timetable.Fires u ∧ Timetable.ReachedBack start u ∧
          Field.year.low ≤ u.year} :=
        ⟨hfires, Or.inr ⟨⟨houtside, hmicros⟩, rfl⟩, (lt_of_le_of_lt hrange houtside).le⟩
      cases found with
      | none => exact absurd hmem (Set.eq_empty_iff_forall_notMem.1 hlast _)
      | some c =>
          obtain rfl : c = start.clock := le_antisymm hlast.1.2.1.le (hlast.2 hmem)
          rw [nearest, hfound, Option.map_some, hself]

/-! ## Runs -/

lemma reduceOption_outcomes (times : List Instant) (spent : Nat) :
    (times.map some ++ List.replicate spent none).reduceOption = times := by
  rw [List.reduceOption_append, List.reduceOption_replicate_none, List.append_nil]
  simp [List.reduceOption]

/-- **The searches of a schedule that is put together by hand go strictly ahead**, if the schedule
names no year between their start and the range of years.  A search finds nothing, or an instant
that lies ahead of its start.  So what a run gives goes strictly ahead from the start, and no instant
is given twice. -/
theorem runs_strict {constraints : List Constraint} {t : Timetable} (text : List Char)
    (ht : Timetable.ofConstraints? constraints = .ok t)
    (hlisted : ∀ constraint ∈ constraints, constraint.IsListed) (hstart : start.IsDatetime)
    (hsteps : t.StepsFrom direction start) :
    (∃ result, (make text t).search start direction = .ok result ∧
      ∀ u, result.instant = some u → direction.Passes start u) ∧
    ∀ limit count, ∃ outcomes, (Run.start (make text t) start direction limit).pulls count =
        .ok outcomes ∧
      (start :: outcomes.reduceOption).Pairwise direction.Passes ∧ outcomes.reduceOption.Nodup := by
  have hmember : ∀ field, t.constraint field ∈ constraints := by
    intro field
    rw [← Timetable.constraints_eq ht]
    exact List.mem_map_of_mem (by cases field <;> decide)
  have hdecided : t.DaysDecided := Timetable.daysDecided_of_isListed
    (hlisted _ (hmember .dayOfMonth)) (hlisted _ (hmember .dayOfWeek))
  let p : Instant → Prop := fun a => a.IsDatetime ∧ t.StepsFrom direction a
  have hp : p start := ⟨hstart, hsteps⟩
  have hstep : ∀ a, p a → ∃ found, (make text t).nearest a direction = .ok found ∧
      ∀ u, found = some u → direction.Passes a u ∧ p u := by
    intro a ha
    exact nearest_steps hdecided ha.1 ha.2
  refine ⟨?_, fun limit count => ?_⟩
  · obtain ⟨found, hfound, hpast⟩ := hstep start hp
    exact ⟨⟨found, _, direction⟩, by rw [search, hfound]; rfl, fun u hu => (hpast u hu).1⟩
  · have hsearch : ∀ a, p a → ∃ found, (make text t).nearest a direction = .ok found ∧
        ∀ u, found = some u → p u :=
      fun a ha => (hstep a ha).imp fun found h => ⟨h.1, fun u hu => (h.2 u hu).2⟩
    obtain ⟨times, spent, stop, hpulls, hfollows⟩ :=
      @Run.exists_pulls (Run.start (make text t) start direction limit) p hp hsearch count
    have hpairwise : (start :: times).Pairwise direction.Passes := by
      refine hfollows.pairwise hp fun a b ha hb => ?_
      obtain ⟨found, hfound, hpast⟩ := hstep a ha
      exact hpast b (Except.ok.inj (hfound.symm.trans hb))
    refine ⟨_, hpulls, ?_⟩
    rw [reduceOption_outcomes]
    refine ⟨hpairwise, (List.pairwise_cons.1 hpairwise).2.imp ?_⟩
    rintro a b hpasses rfl
    exact Direction.not_passes_self hpasses

/-- Leap days at noon, with values that no clock shows and with years on both sides of the range,
from a start between the first two of the years. -/
theorem runs_strict_leap_days :
    let set (value : Int) (more : List Int) : Constraint := .values (.ofValues value more false)
    let constraints := [set 0 [], set 0 [], set 12 [25], set 29 [31, 99], set 2 [], .unspecified,
      set 1940 [1972, 1980, 2104]]
    let start : Instant := ⟨⟨1950, 1, 1, 0, 0, 0⟩, 0, none⟩
    ∃ t, Timetable.ofConstraints? constraints = .ok t ∧
      (∀ constraint ∈ constraints, constraint.IsListed) ∧ start.IsDatetime ∧
      t.StepsFrom .next start ∧
      ∃ outcomes, (Run.start (make [] t) start .next none).pulls 4 = .ok outcomes ∧
        (start :: outcomes.reduceOption).Pairwise Direction.next.Passes := by
  intro set constraints start
  let t : Timetable := ⟨.single 0, .single 0, .ofValues 12 [25] false, set 29 [31, 99], .single 2,
    .unspecified, .ofValues 1940 [1972, 1980, 2104] false⟩
  have ht : Timetable.ofConstraints? constraints = .ok t := rfl
  have hlisted : ∀ constraint ∈ constraints, constraint.IsListed := by
    simp [constraints, set, Constraint.IsListed]
  have hstart : start.IsDatetime := by decide
  have hsteps : t.StepsFrom .next start := by
    show ∀ year ∈ t.year.members, start.clock.year ≤ year → Field.year.low ≤ year
    decide
  obtain ⟨-, hruns⟩ := runs_strict [] ht hlisted hstart hsteps
  obtain ⟨outcomes, hpulls, hpairwise, -⟩ := hruns none 4
  exact ⟨t, ht, hlisted, hstart, hsteps, outcomes, hpulls, hpairwise⟩

/-- A schedule for the new year of 1960 finds its own start again and again. -/
theorem run_stays :
    let value (n : Int) : Constraint := .values (.single n)
    let start : Instant := ⟨⟨1960, 1, 1, 0, 0, 0⟩, 0, none⟩
    ∃ t, Timetable.ofConstraints? [value 0, value 0, value 0, value 1, value 1, .unspecified,
        value 1960] = .ok t ∧ start.IsDatetime ∧
      (make [] t).search start .next = .ok ⟨some start, [], .next⟩ ∧
      ∀ count, (Run.start (make [] t) start .next none).pulls count =
        .ok (List.replicate count (some start)) := by
  intro value start
  let t : Timetable :=
    ⟨.single 0, .single 0, .single 0, value 1, .single 1, .unspecified, .single 1960⟩
  have hstart : start.IsDatetime := by decide
  have hdecided : (make [] t).timetable.DaysDecided :=
    Timetable.daysDecided_of_isListed (Or.inl ⟨_, rfl⟩) (Or.inr rfl)
  have houtside : Direction.next.Outside start := by
    show (1960 : Int) < Field.year.low
    decide
  have hself : (make [] t).nearest start .next = .ok (some start) :=
    nearest_self hdecided hstart rfl rfl houtside
  refine ⟨t, rfl, hstart, ?_, fun count => Run.pulls_of_nearest_self hself count 0⟩
  rw [search, hself]
  rfl

end Schedule

end CronSchedule
