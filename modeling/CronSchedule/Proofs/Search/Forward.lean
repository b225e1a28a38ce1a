import CronSchedule.Proofs.Search.Fires
import CronSchedule.Proofs.Search.Nearest

/-!
# The search forward

One round of tests either accepts the candidate, or finds nothing left, or moves the candidate to a
later clock that no fire time precedes.  A search repeats rounds, so nothing that fires lies between
its start and its candidate, and the clock on which it ends is the first fire time.

* `Verdict.Ahead` — what the verdict of a field says about the values that are allowed in it.
* `Progress.SoundForward` — what a round may report; `forwardStep_outcome` — what it does report.
* **`earliestFrom_firstIn`** — the first fire time from a clock on, within the range of years.
-/

namespace CronSchedule

open Calendar WallClock

/-! ## Verdicts -/

/-- What a verdict of a search forward says about the values that are allowed in a field. -/
def Verdict.Ahead (allowed : Int → Prop) (value : Int) : Verdict → Prop
  | .stay => allowed value
  | .jump target => value < target ∧ ∀ w, allowed w → value ≤ w → target ≤ w
  | .spent => ∀ w, allowed w → w < value

lemma Verdict.toward_ahead {allowed : Int → Prop} {value : Int} {target : Option Int}
    (h : FirstIn {w | allowed w ∧ value ≤ w} target) :
    (Verdict.toward value target).Ahead allowed value := by
  cases target with
  | none =>
      intro w hw
      by_contra hle
      exact Set.eq_empty_iff_forall_notMem.1 h w ⟨hw, by omega⟩
  | some v =>
      obtain ⟨⟨hv, hle⟩, hleast⟩ := h
      dsimp only [Verdict.toward]
      split_ifs with heq
      · exact heq ▸ hv
      · exact ⟨by omega, fun w hw hvw => hleast ⟨hw, hvw⟩⟩

lemma ValueSet.ahead_spec (set : ValueSet) (value : Int) :
    (set.ahead value).Ahead (· ∈ set.members) value :=
  Verdict.toward_ahead (set.ceiling_firstIn value)

lemma Timetable.dayAhead_spec {t : Timetable} {c : WallClock} (hc : c.IsValid) {v : Verdict}
    (h : t.dayAhead c = .ok v) : v.Ahead (t.DayAllowed c) c.day := by
  obtain ⟨found, hfound, rfl⟩ : ∃ found, firstPassing (fun day => t.dayMatches
      ⟨c.year, c.month, day⟩) (integersFrom c.day (monthLength c.year c.month)) = .ok found ∧
      Verdict.toward c.day found = v := by
    simpa only [dayAhead, bind_eq_ok_iff, pure_eq_ok_iff] using h
  refine Verdict.toward_ahead ?_
  have hdays : {w | t.DayAllowed c w ∧ c.day ≤ w}
      = {w | w ∈ integersFrom c.day (monthLength c.year c.month) ∧
          t.dayMatches ⟨c.year, c.month, w⟩ = .ok true} := by
    ext w
    have hday := hc.2.1.1
    simp only [DayAllowed, Set.mem_ofPred_eq, mem_integersFrom]
    constructor
    · rintro ⟨⟨⟨-, hlen⟩, hmatch⟩, hle⟩
      exact ⟨⟨hle, hlen⟩, hmatch⟩
    · rintro ⟨⟨hle, hlen⟩, hmatch⟩
      exact ⟨⟨⟨by omega, hlen⟩, hmatch⟩, hle⟩
  rw [hdays]
  exact firstPassing_firstIn (pairwise_integersFrom _ _) hfound

/-! ## Rounds -/

/-- What the outcome of a round forward says about the fire times from the candidate on. -/
def Progress.SoundForward (t : Timetable) (c : WallClock) : Progress → Prop
  | .found d => d = c ∧ t.Fires c ∧ c.year ≤ Field.year.high
  | .exhausted => ∀ u, t.Fires u → c ≤ u → Field.year.high < u.year
  | .moved d => d.IsValid ∧ c < d ∧ ∀ u, t.Fires u → c ≤ u → d ≤ u

namespace Timetable

variable {t : Timetable} {c : WallClock} {bad : CalendarError → Prop}

/-- A move to a later value is sound if no fire time from the candidate on precedes its raw
clock. -/
lemma soundForward_of_move (hc : c.IsValid) (unit : TimeUnit) {value : Int}
    (hlt : c.field unit < value) (hskip : ∀ u, t.Fires u → c ≤ u → c.startOf unit value ≤ u) :
    Outcome bad (·.SoundForward t c) (moveTo (c.move .start unit value)) := by
  obtain ⟨d, hd, ⟨hvalid, hle⟩, hleast⟩ :=
    move_start_ceiling hc unit value ((fromFirst_field hc unit).mono hlt.le)
  rw [hd]
  exact ⟨hvalid, lt_of_lt_of_le (lt_startOf hlt) hle,
    fun u hu hcu => hleast ⟨hu.1, hskip u hu hcu⟩⟩

lemma soundForward_of_jump (hc : c.IsValid) (unit : TimeUnit) {value : Int}
    (hv : (Verdict.jump value).Ahead (t.Allowed c unit) (c.field unit)) :
    Outcome bad (·.SoundForward t c) (moveTo (c.move .start unit value)) := by
  refine soundForward_of_move hc unit hv.1 fun u hu hcu => (startOf_le_iff hu.1 unit value).2 ?_
  rcases le_above hcu unit with hbefore | ⟨hsame, hle⟩
  · exact Or.inl hbefore
  · exact Or.inr ⟨hsame, hv.2 _ (hu.allowed hsame) hle⟩

/-- Where a field has nothing left, every fire time from the candidate on is later above it. -/
lemma beforeAbove_of_spent (unit : TimeUnit)
    (hv : Verdict.spent.Ahead (t.Allowed c unit) (c.field unit)) {u : WallClock}
    (hu : t.Fires u) (hcu : c ≤ u) : BeforeAbove c u unit := by
  rcases le_above hcu unit with hbefore | ⟨hsame, hle⟩
  · exact hbefore
  · exact absurd hle (not_le.2 (hv _ (hu.allowed hsame)))

lemma soundForward_of_spent (hc : c.IsValid) (unit : TimeUnit) (hunit : unit ≠ .year)
    (hv : Verdict.spent.Ahead (t.Allowed c unit) (c.field unit)) :
    Outcome bad (·.SoundForward t c)
      (moveTo (c.move .start (above unit) (c.field (above unit) + 1))) := by
  refine soundForward_of_move hc _ (by omega) fun u hu hcu => (startOf_le_iff hu.1 _ _).2 ?_
  rcases (beforeAbove_iff hunit).1 (beforeAbove_of_spent unit hv hu hcu) with hbefore | ⟨hsame, hlt⟩
  · exact Or.inl hbefore
  · exact Or.inr ⟨hsame, by omega⟩

/-- **A round forward never passes a fire time**, and it fails only where the day fields do.  The
fields are tested from the year down, and the first one that does not accept decides the move. -/
theorem forwardStep_outcome (hc : c.IsValid) :
    Outcome (fun e => c.year ∈ t.year.members ∧ c.year ≤ Field.year.high ∧ t.dayAhead c = .error e)
      (·.SoundForward t c) (t.forwardStep c) := by
  have hyear := t.year.ahead_spec c.year
  have hmonth := t.month.ahead_spec c.month
  have hhour := t.hour.ahead_spec c.hour
  have hminute := t.minute.ahead_spec c.minute
  have hsecond := t.second.ahead_spec c.second
  simp only [forwardStep]
  split_ifs with hrange
  · intro u _ hcu
    exact lt_of_lt_of_le hrange (year_le hcu)
  cases hv : t.year.ahead c.year with
  | spent => exact fun u hu hcu => (beforeAbove_of_spent .year (hv ▸ hyear) hu hcu).elim
  | jump year => exact soundForward_of_jump hc .year (hv ▸ hyear)
  | stay =>
  rw [hv] at hyear
  cases hv : t.month.ahead c.month with
  | spent => exact soundForward_of_spent hc .month nofun (hv ▸ hmonth)
  | jump month => exact soundForward_of_jump hc .month (hv ▸ hmonth)
  | stay =>
  rw [hv] at hmonth
  have hdays : Outcome (fun e => c.year ∈ t.year.members ∧ c.year ≤ Field.year.high ∧
      t.dayAhead c = .error e) (·.Ahead (t.DayAllowed c) c.day) (t.dayAhead c) :=
    Outcome.intro (fun v => dayAhead_spec hc) fun e he => ⟨hyear, not_lt.1 hrange, he⟩
  refine hdays.bind fun v hday => ?_
  cases v with
  | spent => exact soundForward_of_spent hc .day nofun hday
  | jump day => exact soundForward_of_jump hc .day hday
  | stay =>
  cases hv : t.hour.ahead c.hour with
  | spent => exact soundForward_of_spent hc .hour nofun (hv ▸ hhour)
  | jump hour => exact soundForward_of_jump hc .hour (hv ▸ hhour)
  | stay =>
  rw [hv] at hhour
  cases hv : t.minute.ahead c.minute with
  | spent => exact soundForward_of_spent hc .minute nofun (hv ▸ hminute)
  | jump minute => exact soundForward_of_jump hc .minute (hv ▸ hminute)
  | stay =>
  rw [hv] at hminute
  cases hv : t.second.ahead c.second with
  | spent => exact soundForward_of_spent hc .second nofun (hv ▸ hsecond)
  | jump second => exact soundForward_of_jump hc .second (hv ▸ hsecond)
  | stay =>
  rw [hv] at hsecond
  refine ⟨rfl, (fires_iff_allowed hc).2 fun unit => ?_, not_lt.1 hrange⟩
  cases unit <;> assumption

/-! ## Runs of rounds -/

lemma high_lt_of_rangeEnd_le {d u : WallClock} (hd : d.IsValid) (h : rangeEnd.rank ≤ d.rank)
    (hdu : d ≤ u) : Field.year.high < u.year := by
  have hrange : rangeEnd.IsValid := by decide
  have hle : rangeEnd ≤ d := not_lt.1 fun hlt => not_lt.2 h ((rank_lt_rank_iff hd hrange).2 hlt)
  exact lt_of_lt_of_le (by decide) (year_le (hle.trans hdu))

/-- **A search forward ends on the first fire time**, and it fails only where the day fields do.
The rounds keep all fire times from the candidate on ahead of them; the clock of the last round is
the least of these. -/
theorem earliestFrom_outcome (hc : c.IsValid) :
    Outcome (fun e => ∃ d, d.IsValid ∧ c ≤ d ∧ d.year ∈ t.year.members ∧
        d.year ≤ Field.year.high ∧ t.dayAhead d = .error e)
      (FirstIn {u | t.Fires u ∧ c ≤ u ∧ u.year ≤ Field.year.high}) (t.earliestFrom c) := by
  fun_induction earliestFrom t c with
  | case1 c e hstep =>
      obtain ⟨hyear, hrange, hdays⟩ := (forwardStep_outcome hc).of_eq_error hstep
      exact ⟨c, hc, le_rfl, hyear, hrange, hdays⟩
  | case2 c hstep =>
      have hnone := (forwardStep_outcome hc).of_eq_ok hstep
      refine Set.eq_empty_iff_forall_notMem.2 fun u hu => ?_
      exact not_lt.2 hu.2.2 (hnone u hu.1 hu.2.1)
  | case3 c d hstep =>
      obtain ⟨rfl, hfires, hrange⟩ := (forwardStep_outcome hc).of_eq_ok hstep
      exact ⟨⟨hfires, le_rfl, hrange⟩, fun u hu => hu.2.1⟩
  | case4 c d hstep hguard ih =>
      obtain ⟨hd, hlt, hskip⟩ := (forwardStep_outcome hc).of_eq_ok hstep
      have hsame : {u | t.Fires u ∧ c ≤ u ∧ u.year ≤ Field.year.high}
          = {u | t.Fires u ∧ d ≤ u ∧ u.year ≤ Field.year.high} := by
        ext u
        exact ⟨fun ⟨hu, hcu, hyear⟩ => ⟨hu, hskip u hu hcu, hyear⟩,
          fun ⟨hu, hdu, hyear⟩ => ⟨hu, hlt.le.trans hdu, hyear⟩⟩
      rw [hsame]
      refine (ih hd).imp (fun e => ?_) fun found hfound => hfound
      rintro ⟨d', hd', hle, hrest⟩
      exact ⟨d', hd', hlt.le.trans hle, hrest⟩
  | case5 c d hstep hguard =>
      -- on valid clocks a move is always later, so the guard can only fail at the end of the range
      obtain ⟨hd, hlt, hskip⟩ := (forwardStep_outcome hc).of_eq_ok hstep
      have hend : rangeEnd.rank ≤ d.rank := by
        have := (rank_lt_rank_iff hc hd).2 hlt
        omega
      refine Set.eq_empty_iff_forall_notMem.2 fun u hu => ?_
      exact not_lt.2 hu.2.2 (high_lt_of_rangeEnd_le hd hend (hskip u hu.1 hu.2.1))

lemma dayAhead_ok (ht : t.DaysDecided) (hc : c.IsValid) (hyear : c.year ∈ t.year.members)
    (hrange : firstYear ≤ c.year ∧ c.year ≤ lastYear) : ∃ v, t.dayAhead c = .ok v := by
  have hall : ∀ day ∈ integersFrom c.day (monthLength c.year c.month),
      ∃ matched, t.dayMatches ⟨c.year, c.month, day⟩ = .ok matched := fun day hday =>
    have hfrom := mem_integersFrom.1 hday
    ht _ _ _ hyear hrange hc.1 ⟨hc.2.1.1.trans hfrom.1, hfrom.2⟩
  obtain ⟨found, hfound⟩ := firstPassing_ok _ _ hall
  exact ⟨.toward c.day found, by simp [dayAhead, hfound]⟩

/-- **Where the day fields decide, a search forward has a result.** -/
theorem earliestFrom_firstIn (ht : t.DaysDecided) (hc : c.IsValid) (hfirst : firstYear ≤ c.year) :
    ∃ found, t.earliestFrom c = .ok found ∧
      FirstIn {u | t.Fires u ∧ c ≤ u ∧ u.year ≤ Field.year.high} found := by
  refine (earliestFrom_outcome hc).exists_ok fun e => ?_
  rintro ⟨d, hd, hcd, hyear, hrange, herror⟩
  have hlast : Field.year.high ≤ lastYear := by decide
  obtain ⟨v, hv⟩ := dayAhead_ok ht hd hyear ⟨hfirst.trans (year_le hcd), hrange.trans hlast⟩
  rw [hv] at herror
  cases herror

end Timetable

end CronSchedule
