import CronSchedule.Proofs.Schedule.Nearest
import CronSchedule.Schedule.Run

/-!
# What runs give

A run is a chain of searches, each from the result of the one before.  Every search takes the first
of the fire times ahead, so the chain takes them in order and without a gap; and as there are
finitely many, it ends.

* `Schedule.Follows` — a chain of searches: where it begins, what it finds and where it stands then.
* `Direction.Lists` — all members of a set in the order of a direction.
* **`exists_follows`** — the searches from an instant list the fire times ahead of it.
* **`pulls_eq`**, **`fireTimes_eq`** — a run and a list of fire times give what the searches find,
  up to their limit.
* **`Follows.retrace`** — the searches in the other direction go back the same way.
-/

namespace CronSchedule

open Calendar

/-- All members of a set, each once, in the order of a direction. -/
structure Direction.Lists (direction : Direction) (set : Set Instant) (times : List Instant) :
    Prop where
  ordered : times.Pairwise direction.Passes
  mem_iff : ∀ t, t ∈ times ↔ t ∈ set

namespace Schedule

variable {s : Schedule} {direction : Direction} {start stop t u : Instant} {times : List Instant}

/-! ## Chains of searches -/

/-- The searches from `start` on find these fire times one after the other, the last of which is
`stop`. -/
inductive Follows (s : Schedule) (direction : Direction) :
    Instant → List Instant → Instant → Prop
  | nil (t : Instant) : Follows s direction t [] t
  | cons {start t stop : Instant} {times : List Instant}
      (h : s.nearest start direction = .ok (some t)) (hrest : Follows s direction t times stop) :
      Follows s direction start (t :: times) stop

namespace Follows

lemma snoc (h : s.Follows direction start times t)
    (hstep : s.nearest t direction = .ok (some u)) :
    s.Follows direction start (times ++ [u]) u := by
  induction h with
  | nil t => exact .cons hstep (.nil u)
  | cons h _ ih => exact .cons h (ih hstep)

/-- A chain stands where its last search has found something. -/
lemma stop_eq (h : s.Follows direction start times stop) : stop = times.getLast?.getD start := by
  induction h with
  | nil t => rfl
  | @cons start t stop times h hrest ih =>
      rw [ih]
      cases times with
      | nil => rfl
      | cons u times => simp [List.getLast?_eq_some_getLast]

/-- If each step from where a chain can stand is a step ahead, the chain is in order. -/
lemma pairwise {p : Instant → Prop} (h : s.Follows direction start times stop) (hstart : p start)
    (hstep : ∀ a b, p a → s.nearest a direction = .ok (some b) → direction.Passes a b ∧ p b) :
    (start :: times).Pairwise direction.Passes := by
  induction h with
  | nil t => exact List.pairwise_singleton _ _
  | @cons start t stop times h _ ih =>
      obtain ⟨hpast, ht⟩ := hstep start t hstart h
      have hrest := ih ht
      refine List.pairwise_cons.2 ⟨fun u hu => ?_, hrest⟩
      rcases List.mem_cons.1 hu with rfl | hu
      · exact hpast
      · exact hpast.trans ((List.pairwise_cons.1 hrest).1 u hu)

/-- **The searches in the other direction go back the same way**, up to the fire time from which the
chain begins. -/
theorem retrace (hs : s.timetable.WellFormed) (h : s.Follows direction start times stop)
    (hstart : start.IsDatetime) (hmicros : start.micros = 0)
    (haccepts : s.accepts start = .ok true) :
    s.Follows direction.opposite stop (start :: times).dropLast.reverse start := by
  induction h with
  | nil t => exact .nil t
  | @cons start t stop times h _ ih =>
      obtain ⟨⟨ht, htMicros, -, -, htAccepts⟩, -⟩ := nearest_some hs hstart h
      have hback := nearest_opposite hs hstart hmicros haccepts h
      have hrest := (ih ht htMicros htAccepts).snoc hback
      rwa [List.dropLast_cons_cons, List.reverse_cons]

/-- From the last fire time of a chain, the searches in the other direction find the earlier
ones. -/
lemma retrace_last {earlier : List Instant} {last : Instant} (hs : s.timetable.WellFormed)
    (h : s.Follows direction start (earlier ++ [last]) stop) (hstart : start.IsDatetime) :
    ∃ first, s.Follows direction.opposite last earlier.reverse first := by
  obtain rfl : stop = last := by simpa using h.stop_eq
  cases earlier with
  | nil => exact ⟨stop, .nil stop⟩
  | cons first rest =>
      rw [List.cons_append] at h
      obtain _ | ⟨hfound, hrest⟩ := h
      obtain ⟨⟨hfirst, hmicros, -, -, haccepts⟩, -⟩ := nearest_some hs hstart hfound
      have hback := hrest.retrace hs hfirst hmicros haccepts
      rw [← List.cons_append, List.dropLast_concat] at hback
      exact ⟨first, hback⟩

end Follows

/-- **The searches from an instant list the fire times ahead of it** and then find nothing.  With
every search, one fire time less lies ahead. -/
theorem exists_follows {start : Instant} (hs : s.timetable.WellFormed) (hstart : start.IsDatetime)
    (direction : Direction) : ∃ times stop, s.Follows direction start times stop ∧
      s.nearest stop direction = .ok none ∧ direction.Lists (s.ahead direction start) times := by
  obtain ⟨found, hfound, hnearest⟩ := nearest_spec hs hstart direction
  cases found with
  | none =>
      have hempty := Set.eq_empty_iff_forall_notMem.1 hnearest
      exact ⟨[], start, .nil start, hfound, .nil, by simpa using hempty⟩
  | some t =>
      have hcard := ncard_ahead hs hstart hfound
      obtain ⟨times, stop, hfollows, hend, hlists⟩ := exists_follows hs hnearest.1.1 direction
      refine ⟨t :: times, stop, .cons hfound hfollows, hend, ?_, fun u => ?_⟩
      · refine List.pairwise_cons.2 ⟨fun u hu => ?_, hlists.ordered⟩
        exact ((hlists.mem_iff u).1 hu).2.2.2.1
      · rw [ahead_eq_insert hs hstart hfound, List.mem_cons, hlists.mem_iff u, Set.mem_insert_iff]
termination_by (s.ahead direction start).ncard
decreasing_by omega

/-! ## Lists of fire times -/

/-- **The first fire times are the first that the searches find.** -/
theorem fireTimes_eq (h : s.Follows direction start times stop)
    (hend : s.nearest stop direction = .ok none) (count : Nat) :
    s.fireTimes direction count start = .ok (times.take count) := by
  induction count generalizing start times with
  | zero => rfl
  | succ count ih =>
      cases h with
      | nil t => simp [fireTimes, hend]
      | cons h hrest => simp [fireTimes, h, ih hrest]

end Schedule

/-! ## Pulls -/

namespace Run

open Schedule

variable {run : Run} {stop t : Instant} {times : List Instant}

/-- What pulls give that find these times and then nothing. -/
def outcomes (times : List Instant) (count : Nat) : List (Option Instant) :=
  (times.map some ++ List.replicate count none).take count

/-- The times that a run may still give of those ahead of it. -/
def due (run : Run) (times : List Instant) : List Instant :=
  match run.limit with
  | none => times
  | some limit => times.take (limit - run.given).toNat

lemma outcomes_nil (count : Nat) : outcomes [] count = List.replicate count none := by
  simp [outcomes]

lemma outcomes_cons (t : Instant) (times : List Instant) (count : Nat) :
    outcomes (t :: times) (count + 1) = some t :: outcomes times count := by
  simp [outcomes, List.replicate_succ', ← List.append_assoc, List.take_append]

/-- A run that gives nothing stays where it is, so it never gives anything. -/
lemma pulls_of_pull_none (h : run.pull = .ok (none, run)) (count : Nat) :
    run.pulls count = .ok (outcomes [] count) := by
  rw [outcomes_nil]
  induction count with
  | zero => rfl
  | succ count ih => simp [pulls, h, ih, List.replicate_succ]

/-- The run after a fire time was pulled. -/
def after (run : Run) (t : Instant) : Run :=
  { run with current := t, given := run.given + 1 }

lemma pull_of_atLimit (h : run.atLimit = true) : run.pull = .ok (none, run) := by
  simp [pull, h]

lemma pull_eq (h : run.atLimit = false) {found : Option Instant}
    (hfound : run.schedule.nearest run.current run.direction = .ok found) :
    run.pull = .ok (found, found.elim run run.after) := by
  cases found <;> simp [pull, h, hfound, after]

/-- A fire time that is pulled is what the search from the place of the run finds. -/
lemma nearest_of_pull {next : Run} (h : run.pull = .ok (some t, next)) :
    run.schedule.nearest run.current run.direction = .ok (some t) ∧ next = run.after t := by
  cases hlimit : run.atLimit with
  | true =>
      rw [pull_of_atLimit hlimit] at h
      cases h
  | false =>
      cases hfound : run.schedule.nearest run.current run.direction with
      | error e => simp [pull, hlimit, hfound] at h
      | ok found =>
          rw [pull_eq hlimit hfound] at h
          obtain ⟨rfl, rfl⟩ := Prod.mk.inj (Except.ok.inj h)
          exact ⟨rfl, rfl⟩

lemma due_of_atLimit (h : run.atLimit = true) (times : List Instant) : run.due times = [] := by
  cases hlimit : run.limit with
  | none => simp [atLimit, hlimit] at h
  | some limit =>
      have hle : limit ≤ run.given := by simpa [atLimit, hlimit] using h
      simp [due, hlimit, Int.toNat_eq_zero.2 (Int.sub_nonpos_of_le hle)]

lemma due_nil (run : Run) : run.due [] = [] := by
  cases hlimit : run.limit <;> simp [due, hlimit]

lemma due_cons (h : run.atLimit = false) (t : Instant) (times : List Instant) :
    run.due (t :: times) = t :: (run.after t).due times := by
  cases hlimit : run.limit with
  | none => simp [due, after, hlimit]
  | some limit =>
      have hlt : (run.given : Int) < limit := by simpa [atLimit, hlimit] using h
      obtain ⟨left, hleft⟩ : ∃ left, (limit - run.given).toNat = left + 1 :=
        ⟨(limit - run.given).toNat - 1, by omega⟩
      have hless : (limit - (run.given + 1 : Nat)).toNat = left := by omega
      simp only [due, after, hlimit, hleft, hless, List.take_succ_cons]

/-- **Pulling a run gives what the searches find, up to its limit, and then nothing.** -/
theorem pulls_eq (h : run.schedule.Follows run.direction run.current times stop)
    (hend : run.schedule.nearest stop run.direction = .ok none) (count : Nat) :
    run.pulls count = .ok (outcomes (run.due times) count) := by
  induction count generalizing run times with
  | zero => rfl
  | succ count ih =>
      cases hlimit : run.atLimit with
      | true =>
          rw [due_of_atLimit hlimit]
          exact pulls_of_pull_none (pull_of_atLimit hlimit) _
      | false =>
          cases times with
          | nil =>
              cases h
              rw [due_nil]
              exact pulls_of_pull_none (pull_eq hlimit hend) _
          | cons t times =>
              obtain _ | ⟨hfound, hrest⟩ := h
              have hnext := @ih (run.after t) _ hrest hend
              rw [due_cons hlimit, outcomes_cons]
              simp [pulls, pull_eq hlimit hfound, hnext]

/-- A run whose searches do not fail gives what they find, and then nothing. -/
lemma exists_pulls {p : Instant → Prop} (hcurrent : p run.current)
    (hstep : ∀ a, p a → ∃ found, run.schedule.nearest a run.direction = .ok found ∧
      ∀ b, found = some b → p b) (count : Nat) :
    ∃ times spent stop, run.pulls count = .ok (times.map some ++ List.replicate spent none) ∧
      run.schedule.Follows run.direction run.current times stop := by
  have hdone : ∀ {run : Run} {count : Nat}, run.pull = .ok (none, run) →
      ∃ times spent stop, run.pulls count = .ok (times.map some ++ List.replicate spent none) ∧
        run.schedule.Follows run.direction run.current times stop := by
    intro run count hpull
    refine ⟨[], count, run.current, ?_, .nil _⟩
    rw [pulls_of_pull_none hpull, outcomes_nil]
    rfl
  induction count generalizing run with
  | zero => exact ⟨[], 0, run.current, rfl, .nil _⟩
  | succ count ih =>
      cases hlimit : run.atLimit with
      | true => exact hdone (pull_of_atLimit hlimit)
      | false =>
          obtain ⟨found, hfound, hp⟩ := hstep run.current hcurrent
          cases found with
          | none => exact hdone (pull_eq hlimit hfound)
          | some t =>
              obtain ⟨times, spent, stop, hpulls, hfollows⟩ := @ih (run.after t) (hp t rfl) hstep
              refine ⟨t :: times, spent, stop, ?_, .cons hfound hfollows⟩
              simp [pulls, pull_eq hlimit hfound, hpulls]

/-- A run without a limit that finds its own place stays there. -/
lemma pulls_of_nearest_self {s : Schedule} {direction : Direction}
    (h : s.nearest t direction = .ok (some t)) (count given : Nat) :
    pulls count ⟨s, t, direction, none, given⟩ = .ok (List.replicate count (some t)) := by
  induction count generalizing given with
  | zero => rfl
  | succ count ih =>
      have hpull := @pull_eq ⟨s, t, direction, none, given⟩ rfl _ h
      simp [pulls, hpull, after, ih, List.replicate_succ]

/-- What a run gives, the searches find. -/
lemma follows_of_pulls {count : Nat} (h : run.pulls count = .ok (times.map some)) :
    ∃ stop, run.schedule.Follows run.direction run.current times stop := by
  induction count generalizing run times with
  | zero =>
      obtain rfl : times = [] := List.map_eq_nil_iff.1 (Except.ok.inj h).symm
      exact ⟨_, .nil _⟩
  | succ count ih =>
      simp only [pulls, bind_eq_ok_iff, pure_eq_ok_iff] at h
      obtain ⟨⟨found, next⟩, hpull, rest, hpulls, hlist⟩ := h
      cases times with
      | nil => cases hlist
      | cons t times =>
          obtain ⟨rfl, rfl⟩ := List.cons.inj hlist
          obtain ⟨hfound, rfl⟩ := nearest_of_pull hpull
          obtain ⟨stop, hrest⟩ := ih hpulls
          exact ⟨stop, .cons hfound hrest⟩

/-- Without a limit, a run gives what the searches find. -/
lemma pulls_of_follows {s : Schedule} {direction : Direction} {start : Instant} {given : Nat}
    (h : s.Follows direction start times stop) :
    pulls times.length ⟨s, start, direction, none, given⟩ = .ok (times.map some) := by
  induction h generalizing given with
  | nil t => rfl
  | @cons start t stop times h _ ih =>
      have hpull := @pull_eq ⟨s, start, direction, none, given⟩ rfl _ h
      have hnext := @ih (given + 1)
      simp [pulls, hpull, after, hnext]

end Run

end CronSchedule
