import CronSchedule.Proofs.Search.Fires
import CronSchedule.Proofs.Search.Nearest

/-!
# The search backward

The search for the last fire time up to a clock.  Its rounds borrow where those of the search
forward carry: a day below the first is the last day of the month before, whatever its length.

* `Verdict.Behind` — what the verdict of a field says about the values that are allowed in it.
* `Progress.SoundBackward` — what a round may report; `backwardStep_outcome` — what it does report.
* **`latestFrom_lastIn`** — the last fire time up to a clock, within the range of years.
-/

namespace CronSchedule

open Calendar WallClock

/-! ## Verdicts -/

/-- What a verdict of a search backward says about the values that are allowed in a field. -/
def Verdict.Behind (allowed : Int → Prop) (value : Int) : Verdict → Prop
  | .stay => allowed value
  | .jump target => target < value ∧ ∀ w, allowed w → w ≤ value → w ≤ target
  | .spent => ∀ w, allowed w → value < w

lemma Verdict.toward_behind {allowed : Int → Prop} {value : Int} {target : Option Int}
    (h : LastIn {w | allowed w ∧ w ≤ value} target) :
    (Verdict.toward value target).Behind allowed value := by
  cases target with
  | none =>
      intro w hw
      by_contra hle
      exact Set.eq_empty_iff_forall_notMem.1 h w ⟨hw, by omega⟩
  | some v =>
      obtain ⟨⟨hv, hle⟩, hgreatest⟩ := h
      dsimp only [Verdict.toward]
      split_ifs with heq
      · exact heq ▸ hv
      · exact ⟨by omega, fun w hw hwv => hgreatest ⟨hw, hwv⟩⟩

lemma ValueSet.behind_spec (set : ValueSet) (value : Int) :
    (set.behind value).Behind (· ∈ set.members) value :=
  Verdict.toward_behind (set.floor_lastIn value)

lemma Timetable.dayBehind_spec {t : Timetable} {c : WallClock} (hc : c.IsValid) {v : Verdict}
    (h : t.dayBehind c = .ok v) : v.Behind (t.DayAllowed c) c.day := by
  obtain ⟨found, hfound, rfl⟩ : ∃ found, firstPassing (fun day => t.dayMatches
      ⟨c.year, c.month, day⟩) (integersFrom 1 c.day).reverse = .ok found ∧
      Verdict.toward c.day found = v := by
    simpa only [dayBehind, bind_eq_ok_iff, pure_eq_ok_iff] using h
  refine Verdict.toward_behind ?_
  have hdays : {w | t.DayAllowed c w ∧ w ≤ c.day}
      = {w | w ∈ (integersFrom 1 c.day).reverse ∧
          t.dayMatches ⟨c.year, c.month, w⟩ = .ok true} := by
    ext w
    have hday := hc.2.1.2
    simp only [DayAllowed, Set.mem_ofPred_eq, List.mem_reverse, mem_integersFrom]
    constructor
    · rintro ⟨⟨⟨hfirst, -⟩, hmatch⟩, hle⟩
      exact ⟨⟨hfirst, hle⟩, hmatch⟩
    · rintro ⟨⟨hfirst, hle⟩, hmatch⟩
      exact ⟨⟨⟨hfirst, by omega⟩, hmatch⟩, hle⟩
  rw [hdays]
  exact firstPassing_lastIn (List.pairwise_reverse.2 (pairwise_integersFrom _ _)) hfound

/-! ## Rounds -/

/-- What the outcome of a round backward says about the fire times up to the candidate. -/
def Progress.SoundBackward (t : Timetable) (c : WallClock) : Progress → Prop
  | .found d => d = c ∧ t.Fires c ∧ Field.year.low ≤ c.year
  | .exhausted => ∀ u, t.Fires u → u ≤ c → u.year < Field.year.low
  | .moved d => d.IsValid ∧ d < c ∧ ∀ u, t.Fires u → u ≤ c → u ≤ d

namespace Timetable

variable {t : Timetable} {c : WallClock} {bad : CalendarError → Prop}

/-- A move to an earlier value is sound if no fire time up to the candidate follows its raw
clock. -/
lemma soundBackward_of_move (hc : c.IsValid) (unit : TimeUnit) {value : Int}
    (hlt : value < c.field unit) (hskip : ∀ u, t.Fires u → u ≤ c → u ≤ c.endOf unit value) :
    Outcome bad (·.SoundBackward t c) (moveTo (c.move .finish unit value)) := by
  obtain ⟨d, hd, ⟨hvalid, hle⟩, hgreatest⟩ :=
    move_finish_floor hc unit value ((toLast_field hc unit).mono hlt.le)
  rw [hd]
  exact ⟨hvalid, lt_of_le_of_lt hle (endOf_lt hlt),
    fun u hu huc => hgreatest ⟨hu.1, hskip u hu huc⟩⟩

lemma soundBackward_of_jump (hc : c.IsValid) (unit : TimeUnit) {value : Int}
    (hv : (Verdict.jump value).Behind (t.Allowed c unit) (c.field unit)) :
    Outcome bad (·.SoundBackward t c) (moveTo (c.move .finish unit value)) := by
  refine soundBackward_of_move hc unit hv.1 fun u hu huc => (le_endOf_iff hu.1 unit value).2 ?_
  rcases le_above huc unit with hbefore | ⟨hsame, hle⟩
  · exact Or.inl hbefore
  · exact Or.inr ⟨hsame, hv.2 _ (hu.allowed_below hsame) hle⟩

/-- Where a field has nothing left, every fire time up to the candidate is earlier above it. -/
lemma beforeAbove_of_spentBehind (unit : TimeUnit)
    (hv : Verdict.spent.Behind (t.Allowed c unit) (c.field unit)) {u : WallClock}
    (hu : t.Fires u) (huc : u ≤ c) : BeforeAbove u c unit := by
  rcases le_above huc unit with hbefore | ⟨hsame, hle⟩
  · exact hbefore
  · exact absurd hle (not_le.2 (hv _ (hu.allowed_below hsame)))

lemma soundBackward_of_spent (hc : c.IsValid) (unit : TimeUnit) (hunit : unit ≠ .year)
    (hv : Verdict.spent.Behind (t.Allowed c unit) (c.field unit)) :
    Outcome bad (·.SoundBackward t c)
      (moveTo (c.move .finish (above unit) (c.field (above unit) - 1))) := by
  refine soundBackward_of_move hc _ (by omega) fun u hu huc => (le_endOf_iff hu.1 _ _).2 ?_
  rcases (beforeAbove_iff hunit).1 (beforeAbove_of_spentBehind unit hv hu huc) with
    hbefore | ⟨hsame, hlt⟩
  · exact Or.inl hbefore
  · exact Or.inr ⟨hsame, by omega⟩

/-- **A round backward never passes a fire time**, and it fails only where the day fields do. -/
theorem backwardStep_outcome (hc : c.IsValid) :
    Outcome (fun e => c.year ∈ t.year.members ∧ Field.year.low ≤ c.year ∧ t.dayBehind c = .error e)
      (·.SoundBackward t c) (t.backwardStep c) := by
  have hyear := t.year.behind_spec c.year
  have hmonth := t.month.behind_spec c.month
  have hhour := t.hour.behind_spec c.hour
  have hminute := t.minute.behind_spec c.minute
  have hsecond := t.second.behind_spec c.second
  simp only [backwardStep]
  split_ifs with hrange
  · intro u _ huc
    exact lt_of_le_of_lt (year_le huc) hrange
  cases hv : t.year.behind c.year with
  | spent => exact fun u hu huc => (beforeAbove_of_spentBehind .year (hv ▸ hyear) hu huc).elim
  | jump year => exact soundBackward_of_jump hc .year (hv ▸ hyear)
  | stay =>
  rw [hv] at hyear
  cases hv : t.month.behind c.month with
  | spent => exact soundBackward_of_spent hc .month nofun (hv ▸ hmonth)
  | jump month => exact soundBackward_of_jump hc .month (hv ▸ hmonth)
  | stay =>
  rw [hv] at hmonth
  have hdays : Outcome (fun e => c.year ∈ t.year.members ∧ Field.year.low ≤ c.year ∧
      t.dayBehind c = .error e) (·.Behind (t.DayAllowed c) c.day) (t.dayBehind c) :=
    Outcome.intro (fun v => dayBehind_spec hc) fun e he => ⟨hyear, not_lt.1 hrange, he⟩
  refine hdays.bind fun v hday => ?_
  cases v with
  | spent => exact soundBackward_of_spent hc .day nofun hday
  | jump day => exact soundBackward_of_jump hc .day hday
  | stay =>
  cases hv : t.hour.behind c.hour with
  | spent => exact soundBackward_of_spent hc .hour nofun (hv ▸ hhour)
  | jump hour => exact soundBackward_of_jump hc .hour (hv ▸ hhour)
  | stay =>
  rw [hv] at hhour
  cases hv : t.minute.behind c.minute with
  | spent => exact soundBackward_of_spent hc .minute nofun (hv ▸ hminute)
  | jump minute => exact soundBackward_of_jump hc .minute (hv ▸ hminute)
  | stay =>
  rw [hv] at hminute
  cases hv : t.second.behind c.second with
  | spent => exact soundBackward_of_spent hc .second nofun (hv ▸ hsecond)
  | jump second => exact soundBackward_of_jump hc .second (hv ▸ hsecond)
  | stay =>
  rw [hv] at hsecond
  refine ⟨rfl, (fires_iff_allowed hc).2 fun unit => ?_, not_lt.1 hrange⟩
  cases unit <;> assumption

/-! ## Runs of rounds -/

lemma year_lt_of_le_rangeStart {d u : WallClock} (hd : d.IsValid)
    (h : d.rank ≤ rangeStart.rank) (hud : u ≤ d) : u.year < Field.year.low := by
  have hrange : rangeStart.IsValid := by decide
  have hle : d ≤ rangeStart := not_lt.1 fun hlt => not_lt.2 h ((rank_lt_rank_iff hrange hd).2 hlt)
  exact lt_of_le_of_lt (year_le (hud.trans hle)) (by decide)

/-- **A search backward ends on the last fire time**, and it fails only where the day fields do. -/
theorem latestFrom_outcome (hc : c.IsValid) :
    Outcome (fun e => ∃ d, d.IsValid ∧ d ≤ c ∧ d.year ∈ t.year.members ∧
        Field.year.low ≤ d.year ∧ t.dayBehind d = .error e)
      (LastIn {u | t.Fires u ∧ u ≤ c ∧ Field.year.low ≤ u.year}) (t.latestFrom c) := by
  fun_induction latestFrom t c with
  | case1 c e hstep =>
      obtain ⟨hyear, hrange, hdays⟩ := (backwardStep_outcome hc).of_eq_error hstep
      exact ⟨c, hc, le_rfl, hyear, hrange, hdays⟩
  | case2 c hstep =>
      have hnone := (backwardStep_outcome hc).of_eq_ok hstep
      refine Set.eq_empty_iff_forall_notMem.2 fun u hu => ?_
      exact not_lt.2 hu.2.2 (hnone u hu.1 hu.2.1)
  | case3 c d hstep =>
      obtain ⟨rfl, hfires, hrange⟩ := (backwardStep_outcome hc).of_eq_ok hstep
      exact ⟨⟨hfires, le_rfl, hrange⟩, fun u hu => hu.2.1⟩
  | case4 c d hstep hguard ih =>
      obtain ⟨hd, hlt, hskip⟩ := (backwardStep_outcome hc).of_eq_ok hstep
      have hsame : {u | t.Fires u ∧ u ≤ c ∧ Field.year.low ≤ u.year}
          = {u | t.Fires u ∧ u ≤ d ∧ Field.year.low ≤ u.year} := by
        ext u
        exact ⟨fun ⟨hu, huc, hyear⟩ => ⟨hu, hskip u hu huc, hyear⟩,
          fun ⟨hu, hud, hyear⟩ => ⟨hu, hud.trans hlt.le, hyear⟩⟩
      rw [hsame]
      refine (ih hd).imp (fun e => ?_) fun found hfound => hfound
      rintro ⟨d', hd', hle, hrest⟩
      exact ⟨d', hd', hle.trans hlt.le, hrest⟩
  | case5 c d hstep hguard =>
      -- on valid clocks a move is always earlier, so the guard can only fail before the range
      obtain ⟨hd, hlt, hskip⟩ := (backwardStep_outcome hc).of_eq_ok hstep
      have hend : d.rank ≤ rangeStart.rank := by
        have := (rank_lt_rank_iff hd hc).2 hlt
        omega
      refine Set.eq_empty_iff_forall_notMem.2 fun u hu => ?_
      exact not_lt.2 hu.2.2 (year_lt_of_le_rangeStart hd hend (hskip u hu.1 hu.2.1))

lemma dayBehind_ok (ht : t.DaysDecided) (hc : c.IsValid) (hyear : c.year ∈ t.year.members)
    (hrange : firstYear ≤ c.year ∧ c.year ≤ lastYear) : ∃ v, t.dayBehind c = .ok v := by
  have hall : ∀ day ∈ (integersFrom 1 c.day).reverse,
      ∃ matched, t.dayMatches ⟨c.year, c.month, day⟩ = .ok matched := fun day hday =>
    have hupTo := mem_integersFrom.1 (List.mem_reverse.1 hday)
    ht _ _ _ hyear hrange hc.1 ⟨hupTo.1, hupTo.2.trans hc.2.1.2⟩
  obtain ⟨found, hfound⟩ := firstPassing_ok _ _ hall
  exact ⟨.toward c.day found, by simp [dayBehind, hfound]⟩

/-- **Where the day fields decide, a search backward has a result.** -/
theorem latestFrom_lastIn (ht : t.DaysDecided) (hc : c.IsValid) (hlast : c.year ≤ lastYear) :
    ∃ found, t.latestFrom c = .ok found ∧
      LastIn {u | t.Fires u ∧ u ≤ c ∧ Field.year.low ≤ u.year} found := by
  refine (latestFrom_outcome hc).exists_ok fun e => ?_
  rintro ⟨d, hd, hdc, hyear, hrange, herror⟩
  have hfirst : firstYear ≤ Field.year.low := by decide
  obtain ⟨v, hv⟩ := dayBehind_ok ht hd hyear ⟨hfirst.trans hrange, (year_le hdc).trans hlast⟩
  rw [hv] at herror
  cases herror

end Timetable

end CronSchedule
