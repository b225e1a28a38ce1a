import CronSchedule.Proofs.Search.Instants
import CronSchedule.Schedule

/-!
# The rounds of a search

A search repeats its rounds until one of them ends it.  `Rounds` is this loop on its own, without
the bound by ranks that makes the searches total: it holds of a candidate, the clocks to which the
rounds have moved it, and how the last round ended.  Whatever values a timetable names, such a loop
ends.  A round may jump to an hour 25 or to a month 0, but what carries or borrows from there has
already left the candidate behind, so the clocks of a loop go strictly ahead.

* `Timetable.round`, `Direction.Leads`, `Direction.Beyond` — a round, the order of clocks and the
  end of the range of years, in a direction.
* `Timetable.Rounds` — the rounds from a candidate until one of them ends the search.
* `round_outcome` — a move goes strictly ahead to a valid clock, and a round fails only where the
  day fields do.
* `Rounds.ordered` — so do all clocks to which the rounds move.
* `exists_rounds` — a search gives what its rounds give.
* **`nearest_rounds`** — the search from an instant is a loop that ends.
-/

namespace CronSchedule

open Calendar

/-! ## Directions -/

namespace Direction

/-- One clock comes after another one in a direction: later or earlier. -/
def Leads : Direction → WallClock → WallClock → Prop
  | .next, c, d => c < d
  | .previous, c, d => d < c

/-- A clock lies beyond the years up to which a search in a direction looks. -/
def Beyond : Direction → WallClock → Prop
  | .next, c => Field.year.high < c.year
  | .previous, c => c.year < Field.year.low

instance (direction : Direction) (c : WallClock) : Decidable (direction.Beyond c) :=
  match direction with
  | .next => inferInstanceAs (Decidable (Field.year.high < c.year))
  | .previous => inferInstanceAs (Decidable (c.year < Field.year.low))

variable {direction : Direction} {c d d' : WallClock}

lemma Leads.trans (h : direction.Leads c d) (h' : direction.Leads d d') :
    direction.Leads c d' := by
  cases direction with
  | next => exact lt_trans h h'
  | previous => exact lt_trans h' h

end Direction

namespace Timetable

variable {t : Timetable} {direction : Direction} {start : Instant} {c d : WallClock}
  {visited : List WallClock} {outcome : Except CalendarError (Option WallClock)}

/-! ## Rounds in a direction -/

/-- One round of tests. -/
def round (t : Timetable) : Direction → WallClock → Except CalendarError Progress
  | .next => t.forwardStep
  | .previous => t.backwardStep

/-- The verdict of the day fields. -/
def dayVerdict (t : Timetable) : Direction → WallClock → Except CalendarError Verdict
  | .next => t.dayAhead
  | .previous => t.dayBehind

/-- The clock from which a search runs. -/
def candidate (start : Instant) : Direction → Except CalendarError WallClock
  | .next => firstCandidate start
  | .previous => lastCandidate start

/-- The nearest fire time in a direction, from a clock on. -/
def nearestFrom (t : Timetable) : Direction → WallClock → Except CalendarError (Option WallClock)
  | .next => t.earliestFrom
  | .previous => t.latestFrom

/-- **A round that moves goes strictly ahead to a valid clock**, and a round fails only where the
day fields do. -/
theorem round_outcome (hc : c.IsValid) :
    Outcome (fun e => t.dayVerdict direction c = .error e)
      (fun p => ∀ d, p = .moved d → direction.Leads c d ∧ d.IsValid) (t.round direction c) := by
  cases direction with
  | next =>
      refine (forwardStep_outcome hc).imp (fun e he => he.2.2) ?_
      rintro p hsound d rfl
      exact ⟨hsound.2.1, hsound.1⟩
  | previous =>
      refine (backwardStep_outcome hc).imp (fun e he => he.2.2) ?_
      rintro p hsound d rfl
      exact ⟨hsound.2.1, hsound.1⟩

lemma round_moved (hc : c.IsValid) (h : t.round direction c = .ok (.moved d)) :
    direction.Leads c d ∧ d.IsValid :=
  (round_outcome hc).of_eq_ok h d rfl

/-! ## Loops -/

/-- The rounds from a candidate on move it to the clocks of a list, one after the other, until one
of them ends the search. -/
inductive Rounds (t : Timetable) (direction : Direction) :
    WallClock → List WallClock → Except CalendarError (Option WallClock) → Prop
  | failed {c : WallClock} {e : CalendarError} (h : t.round direction c = .error e) :
      Rounds t direction c [] (.error e)
  | exhausted {c : WallClock} (h : t.round direction c = .ok .exhausted) :
      Rounds t direction c [] (.ok none)
  | found {c d : WallClock} (h : t.round direction c = .ok (.found d)) :
      Rounds t direction c [] (.ok (some d))
  | moved {c d : WallClock} {visited : List WallClock}
      {outcome : Except CalendarError (Option WallClock)}
      (h : t.round direction c = .ok (.moved d)) (hrest : Rounds t direction d visited outcome) :
      Rounds t direction c (d :: visited) outcome

/-- **The clocks of a loop go strictly ahead and are all valid.** -/
theorem Rounds.ordered (h : t.Rounds direction c visited outcome) (hc : c.IsValid) :
    (c :: visited).Pairwise direction.Leads ∧ ∀ d ∈ visited, d.IsValid := by
  induction h with
  | failed h => exact ⟨List.pairwise_singleton _ _, by simp⟩
  | exhausted h => exact ⟨List.pairwise_singleton _ _, by simp⟩
  | found h => exact ⟨List.pairwise_singleton _ _, by simp⟩
  | @moved c d visited outcome h hrest ih =>
      obtain ⟨hlead, hd⟩ := round_moved hc h
      obtain ⟨hordered, hvalid⟩ := ih hd
      refine ⟨List.pairwise_cons.2 ⟨fun u hu => ?_, hordered⟩, List.forall_mem_cons.2 ⟨hd, hvalid⟩⟩
      rcases List.mem_cons.1 hu with rfl | hu
      · exact hlead
      · exact hlead.trans ((List.pairwise_cons.1 hordered).1 u hu)

/-- A loop whose candidate lies beyond the range of years ends with its next round. -/
lemma rounds_of_beyond (h : direction.Beyond c) : t.Rounds direction c [] (.ok none) := by
  refine .exhausted ?_
  cases direction with
  | next => exact if_pos h
  | previous => exact if_pos h

/-- **A search gives what its rounds give.**  The bound by ranks only ever cuts off a round whose
candidate lies beyond the range of years. -/
theorem exists_rounds (hc : c.IsValid) :
    ∃ visited, t.Rounds direction c visited (t.nearestFrom direction c) := by
  cases direction with
  | next =>
      show ∃ visited, t.Rounds .next c visited (t.earliestFrom c)
      fun_induction earliestFrom t c with
      | case1 c e hstep => exact ⟨[], .failed hstep⟩
      | case2 c hstep => exact ⟨[], .exhausted hstep⟩
      | case3 c d hstep => exact ⟨[], .found hstep⟩
      | case4 c d hstep hguard ih =>
          obtain ⟨-, hd⟩ : Direction.next.Leads c d ∧ d.IsValid := round_moved hc hstep
          obtain ⟨visited, hrest⟩ := ih hd
          exact ⟨d :: visited, .moved hstep hrest⟩
      | case5 c d hstep hguard =>
          obtain ⟨hlead, hd⟩ : Direction.next.Leads c d ∧ d.IsValid := round_moved hc hstep
          have hend : rangeEnd.rank ≤ d.rank := by
            have := (WallClock.rank_lt_rank_iff hc hd).2 hlead
            omega
          exact ⟨[d], .moved hstep (rounds_of_beyond (high_lt_of_rangeEnd_le hd hend le_rfl))⟩
  | previous =>
      show ∃ visited, t.Rounds .previous c visited (t.latestFrom c)
      fun_induction latestFrom t c with
      | case1 c e hstep => exact ⟨[], .failed hstep⟩
      | case2 c hstep => exact ⟨[], .exhausted hstep⟩
      | case3 c d hstep => exact ⟨[], .found hstep⟩
      | case4 c d hstep hguard ih =>
          obtain ⟨-, hd⟩ : Direction.previous.Leads c d ∧ d.IsValid := round_moved hc hstep
          obtain ⟨visited, hrest⟩ := ih hd
          exact ⟨d :: visited, .moved hstep hrest⟩
      | case5 c d hstep hguard =>
          obtain ⟨hlead, hd⟩ : Direction.previous.Leads c d ∧ d.IsValid := round_moved hc hstep
          have hend : d.rank ≤ rangeStart.rank := by
            have := (WallClock.rank_lt_rank_iff hd hc).2 hlead
            omega
          exact ⟨[d], .moved hstep (rounds_of_beyond (year_lt_of_le_rangeStart hd hend le_rfl))⟩

/-! ## From an instant -/

/-- A search within the range of years has a clock from which it runs.  The clocks ahead of that one
can be built, up to the end of the range. -/
lemma candidate_spec (hstart : start.IsDatetime) (hrange : ¬direction.Beyond start.clock) :
    ∃ c, candidate start direction = .ok c ∧ c.IsValid ∧ ∀ d, d.IsValid → direction.Leads c d →
      ¬direction.Beyond d → (start.withClock d).IsDatetime := by
  have hmicros : (0 : Nat) < 1000000 := by decide
  cases direction with
  | next =>
      obtain ⟨c, hc, hvalid, hfirst, -⟩ := firstCandidate_spec hstart (not_lt.1 hrange)
      refine ⟨c, hc, hvalid, fun d hd hlead hwithin => ⟨hd, ⟨?_, ?_⟩, hmicros⟩⟩
      · exact hfirst.trans (WallClock.year_le (le_of_lt hlead))
      · exact (not_lt.1 hwithin).trans (by decide)
  | previous =>
      obtain ⟨c, hc, hvalid, hlast, -⟩ := lastCandidate_spec hstart (not_lt.1 hrange)
      refine ⟨c, hc, hvalid, fun d hd hlead hwithin => ⟨hd, ⟨?_, ?_⟩, hmicros⟩⟩
      · exact le_trans (by decide) (not_lt.1 hwithin)
      · exact (WallClock.year_le (le_of_lt hlead)).trans hlast

end Timetable

namespace Schedule

variable {s : Schedule} {direction : Direction} {start : Instant} {c : WallClock}

lemma nearest_of_beyond (h : direction.Beyond start.clock) :
    s.nearest start direction = .ok none := by
  cases direction with
  | next => exact if_pos h
  | previous => exact if_pos h

lemma nearest_of_candidate (hrange : ¬direction.Beyond start.clock)
    (hc : Timetable.candidate start direction = .ok c) :
    s.nearest start direction =
      s.timetable.nearestFrom direction c >>= Timetable.instantAt start := by
  cases direction with
  | next =>
      have hyear : ¬Field.year.high < start.clock.year := hrange
      rw [Timetable.candidate] at hc
      rw [nearest, Timetable.next, if_neg hyear, hc]
      rfl
  | previous =>
      have hyear : ¬start.clock.year < Field.year.low := hrange
      rw [Timetable.candidate] at hc
      rw [nearest, Timetable.previous, if_neg hyear, hc]
      rfl

/-- **The loops of a search end**, whatever values a schedule names and whatever its day fields say.
A round from a valid clock that neither ends the search nor fails moves strictly ahead to a valid
clock.  So a search is a loop that runs through a finite list of clocks, each strictly ahead of all
before it and, up to the end of the range of years, an instant that can be built; and the search
gives what the last round gives. -/
theorem nearest_rounds (s : Schedule) (direction : Direction) (hstart : start.IsDatetime) :
    (∀ c : WallClock, c.IsValid →
      (∀ d, s.timetable.round direction c = .ok (.moved d) → direction.Leads c d ∧ d.IsValid) ∧
      ∀ e, s.timetable.round direction c = .error e →
        s.timetable.dayVerdict direction c = .error e) ∧
    (direction.Beyond start.clock ∧ s.nearest start direction = .ok none ∨
      ∃ c visited outcome, Timetable.candidate start direction = .ok c ∧ c.IsValid ∧
        s.timetable.Rounds direction c visited outcome ∧
        (c :: visited).Pairwise direction.Leads ∧
        (∀ d ∈ visited, d.IsValid ∧ (¬direction.Beyond d → (start.withClock d).IsDatetime)) ∧
        s.nearest start direction = outcome >>= Timetable.instantAt start) := by
  refine ⟨fun c hc => ⟨fun d h => ?_, fun e h => ?_⟩, ?_⟩
  · exact Timetable.round_moved hc h
  · exact (Timetable.round_outcome hc).of_eq_error h
  by_cases hrange : direction.Beyond start.clock
  · exact Or.inl ⟨hrange, nearest_of_beyond hrange⟩
  obtain ⟨c, hc, hvalid, hbuilt⟩ := Timetable.candidate_spec hstart hrange
  obtain ⟨visited, hrounds⟩ :
      ∃ visited, s.timetable.Rounds direction c visited (s.timetable.nearestFrom direction c) :=
    Timetable.exists_rounds hvalid
  obtain ⟨hordered, hall⟩ := hrounds.ordered hvalid
  refine Or.inr ⟨c, visited, _, hc, hvalid, hrounds, hordered, fun d hd => ⟨hall d hd, ?_⟩, ?_⟩
  · exact hbuilt d (hall d hd) ((List.pairwise_cons.1 hordered).1 d hd)
  · exact nearest_of_candidate hrange hc

/-- A schedule whose hours, seconds and months no clock shows, searched in both directions. -/
theorem nearest_rounds_out_of_range :
    let set (value : Int) (more : List Int) : ValueSet := .ofValues value more false
    let s := make [] ⟨set (-3) [75], set 60 [], set 25 [], .unspecified, set 0 [13], .unspecified,
      set 1999 [2098, 5000]⟩
    let start : Instant := ⟨⟨2024, 2, 29, 23, 59, 59⟩, 0, none⟩
    start.IsDatetime ∧ ∀ direction, ∃ c visited outcome,
      Timetable.candidate start direction = .ok c ∧
      s.timetable.Rounds direction c visited outcome ∧
      (c :: visited).Pairwise direction.Leads ∧
      s.nearest start direction = outcome >>= Timetable.instantAt start := by
  intro set s start
  have hstart : start.IsDatetime := by decide
  refine ⟨hstart, fun direction => ?_⟩
  obtain ⟨-, ⟨hbeyond, -⟩ | ⟨c, visited, outcome, hc, -, hrounds, hordered, -, hgives⟩⟩ :=
    nearest_rounds s direction hstart
  · exact absurd hbeyond (by cases direction <;> decide)
  · exact ⟨c, visited, outcome, hc, hrounds, hordered, hgives⟩

end Schedule

end CronSchedule
