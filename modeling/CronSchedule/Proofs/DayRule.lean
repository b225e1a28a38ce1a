import CronSchedule.Proofs.Calendar.Weekdays
import CronSchedule.Proofs.Timetable.WellFormed
import Mathlib.Data.Set.Lattice
import Mathlib.Data.Set.Pairwise.Basic
import Mathlib.Order.Bounds.Basic

/-!
# The days that the rules select

A rule computes its day from the length of the month and from one weekday.  Here is what the day
is: where it stands among the days of the month, among those from Monday to Friday, or among those
with its weekday.

* `resolve_ok` — a well-formed rule can be applied in every month of the calendar.
* **`dayOfMonth_rules`** — the rules of the day of month.
* `Timetable.daysMatched` — the days of a month that the day fields accept.
* **`dayOfWeek_rules`** — the rules of the day of week; the occurrences of a weekday share out its
  days, and the last occurrence is the fourth or the fifth.
-/

namespace CronSchedule

open Calendar

variable {year month : Int}

namespace DayRule

/-- A well-formed rule can be applied in every month of the calendar. -/
lemma resolve_ok {field : Field} {rule : DayRule} (h : rule.WellFormed field)
    (hyear : firstYear ≤ year ∧ year ≤ lastYear) (hmonth : 1 ≤ month ∧ month ≤ 12) :
    rule.resolve year month = .ok (rule.day? year month) := by
  have hlength := monthLength_bounds year month
  have hfirst : Date.IsValid ⟨year, month, 1⟩ := ⟨hyear, hmonth, le_rfl, by dsimp only; omega⟩
  have hcheck : rule.check year month = .ok () := h.check_ok hfirst
  rw [resolve, hcheck]
  rfl

/-! ## Counted from the end of the month -/

lemma lastDay_eq_none_iff {before : Int} :
    (lastDay before).day? year month = none ↔ monthLength year month ≤ before := by
  simp only [day?]
  split
  · simp; omega
  · simp; omega

lemma lastDay_eq_some_iff {before day : Int} (hbefore : 0 ≤ before) :
    (lastDay before).day? year month = some day ↔ day ∈ daysOf year month ∧
      (((daysOf year month).filter (day < ·)).card : Int) = before := by
  constructor
  · intro h
    simp only [day?] at h
    split at h
    · cases h
      have hday : 1 ≤ monthLength year month - before ∧
          monthLength year month - before ≤ monthLength year month := by omega
      refine ⟨mem_daysOf.2 hday, ?_⟩
      rw [card_daysOf_after hday]
      omega
    · cases h
  · rintro ⟨hday, hcard⟩
    rw [mem_daysOf] at hday
    rw [card_daysOf_after hday] at hcard
    simp only [day?]
    rw [if_pos (by omega)]
    exact congrArg some (by omega)

/-! ## Monday to Friday -/

/-- A day of a month from Monday to Friday that is nearer to `day` than all others. -/
def IsNearestWorkday (year month day nearest : Int) : Prop :=
  nearest ∈ workdaysOf year month ∧
    ∀ other ∈ workdaysOf year month, other ≠ nearest →
      (nearest - day).natAbs < (other - day).natAbs

lemma IsNearestWorkday.unique {day a b : Int} (ha : IsNearestWorkday year month day a)
    (hb : IsNearestWorkday year month day b) : a = b := by
  by_contra hne
  have hab := ha.2 b hb.1 (Ne.symm hne)
  have hba := hb.2 a ha.1 hne
  omega

lemma lastWorkday_spec (year month : Int) : ∃ day, lastWorkday.day? year month = some day ∧
    IsGreatest {d | d ∈ workdaysOf year month} day := by
  have hlength := monthLength_bounds year month
  obtain ⟨base, hbase⟩ := exists_weekdayOf_eq year month
  have hgreatest : ∀ day, 2 ≤ (base + day) % 7 + 1 ∧ (base + day) % 7 + 1 ≤ 6 → 1 ≤ day →
      day ≤ monthLength year month →
      (∀ u, day < u → u ≤ monthLength year month →
        ¬(2 ≤ (base + u) % 7 + 1 ∧ (base + u) % 7 + 1 ≤ 6)) →
      IsGreatest {d | d ∈ workdaysOf year month} day := by
    intro day hworkday hpos hlast hafter
    refine ⟨mem_workdaysOf.2 ⟨⟨hpos, hlast⟩, by rwa [hbase]⟩, fun u hu => ?_⟩
    obtain ⟨⟨-, huLast⟩, huWorkday⟩ := mem_workdaysOf.1 hu
    rw [hbase] at huWorkday
    exact le_of_not_gt fun hlt => hafter u hlt huLast huWorkday
  simp only [day?, hbase]
  split
  · exact ⟨_, rfl, hgreatest _ (by omega) (by omega) (by omega) (by omega)⟩
  · exact ⟨_, rfl, hgreatest _ (by omega) (by omega) (by omega) (by omega)⟩
  · rename_i hsaturday hsunday
    have hweekday : (base + monthLength year month) % 7 + 1 ≠ 7 ∧
        (base + monthLength year month) % 7 + 1 ≠ 1 := ⟨hsaturday, hsunday⟩
    exact ⟨_, rfl, hgreatest _ (by omega) (by omega) (by omega) (by omega)⟩

lemma nearestWorkday_spec {day : Int} (hpos : 1 ≤ day) (hlast : day ≤ monthLength year month) :
    ∃ nearest, (nearestWorkday day).day? year month = some nearest ∧
      IsNearestWorkday year month day nearest := by
  have hlength := monthLength_bounds year month
  obtain ⟨base, hbase⟩ := exists_weekdayOf_eq year month
  have hnearest : ∀ d, (1 ≤ d ∧ d ≤ monthLength year month) →
      2 ≤ (base + d) % 7 + 1 ∧ (base + d) % 7 + 1 ≤ 6 →
      (∀ u, (1 ≤ u ∧ u ≤ monthLength year month) → u ≠ d →
        2 ≤ (base + u) % 7 + 1 ∧ (base + u) % 7 + 1 ≤ 6 →
        (d - day).natAbs < (u - day).natAbs) →
      IsNearestWorkday year month day d := by
    intro d hd hworkday hothers
    refine ⟨mem_workdaysOf.2 ⟨hd, by rwa [hbase]⟩, fun u hu hne => ?_⟩
    obtain ⟨huDay, huWorkday⟩ := mem_workdaysOf.1 hu
    rw [hbase] at huWorkday
    exact hothers u huDay hne huWorkday
  simp only [day?, hbase]
  rw [if_neg (not_lt.2 hlast)]
  split
  · split_ifs with hfirst
    · exact ⟨_, rfl, hnearest _ (by omega) (by omega) (by omega)⟩
    · exact ⟨_, rfl, hnearest _ (by omega) (by omega) (by omega)⟩
  · split_ifs with hend
    · exact ⟨_, rfl, hnearest _ (by omega) (by omega) (by omega)⟩
    · exact ⟨_, rfl, hnearest _ (by omega) (by omega) (by omega)⟩
  · rename_i hsaturday hsunday
    have hweekday : (base + day) % 7 + 1 ≠ 7 ∧ (base + day) % 7 + 1 ≠ 1 :=
      ⟨hsaturday, hsunday⟩
    exact ⟨_, rfl, hnearest _ (by omega) (by omega) (by omega)⟩

lemma nearestWorkday_eq_none_iff {day : Int} :
    (nearestWorkday day).day? year month = none ↔ monthLength year month < day := by
  simp only [day?]
  split
  · rename_i hshort
    exact iff_of_true rfl hshort
  · rename_i hshort
    refine iff_of_false ?_ hshort
    split <;> exact Option.some_ne_none _

lemma nearestWorkday_eq_some_iff {day nearest : Int} (hpos : 1 ≤ day) :
    (nearestWorkday day).day? year month = some nearest ↔
      day ≤ monthLength year month ∧ IsNearestWorkday year month day nearest := by
  constructor
  · intro h
    have hlast : day ≤ monthLength year month := by
      by_contra hshort
      rw [nearestWorkday_eq_none_iff.2 (not_le.1 hshort)] at h
      cases h
    obtain ⟨found, hfound, hnearest⟩ := nearestWorkday_spec hpos hlast
    obtain rfl : nearest = found := Option.some.inj (h.symm.trans hfound)
    exact ⟨hlast, hnearest⟩
  · rintro ⟨hlast, hnearest⟩
    obtain ⟨found, hfound, hspec⟩ := nearestWorkday_spec hpos hlast
    rw [hfound, hspec.unique hnearest]

/-- **The rules of the day of month select what they say.**  `L-n` selects the day that `n` days of
the month follow, if the month is long enough.  `LW` selects the last day from Monday to Friday.
`nW` selects the day from Monday to Friday that is nearer to day `n` than all others of the month,
and nothing if the month has no day `n`. -/
theorem dayOfMonth_rules (hyear : firstYear ≤ year ∧ year ≤ lastYear)
    (hmonth : 1 ≤ month ∧ month ≤ 12) :
    (∀ before, 0 ≤ before → before ≤ 30 → ∃ found,
      (lastDay before).resolve year month = .ok found ∧
      (found = none ↔ monthLength year month ≤ before) ∧
      ∀ day, found = some day ↔ day ∈ daysOf year month ∧
        (((daysOf year month).filter (day < ·)).card : Int) = before) ∧
    (∃ day, lastWorkday.resolve year month = .ok (some day) ∧
      IsGreatest {d | d ∈ workdaysOf year month} day) ∧
    ∀ day, 1 ≤ day → day ≤ 31 → ∃ found,
      (nearestWorkday day).resolve year month = .ok found ∧
      (found = none ↔ monthLength year month < day) ∧
      ∀ nearest, found = some nearest ↔
        day ≤ monthLength year month ∧ IsNearestWorkday year month day nearest := by
  refine ⟨fun before hnonneg hle => ?_, ?_, fun day hpos hle => ?_⟩
  · have hrule : (lastDay before).WellFormed .dayOfMonth := .lastDay hnonneg hle
    exact ⟨_, resolve_ok hrule hyear hmonth, lastDay_eq_none_iff,
      fun day => lastDay_eq_some_iff hnonneg⟩
  · obtain ⟨day, hday, hgreatest⟩ := lastWorkday_spec year month
    have hresolve := resolve_ok DayRule.WellFormed.lastWorkday hyear hmonth
    exact ⟨day, by rw [hresolve, hday], hgreatest⟩
  · have hrule : (nearestWorkday day).WellFormed .dayOfMonth := .nearestWorkday hpos hle
    exact ⟨_, resolve_ok hrule hyear hmonth, nearestWorkday_eq_none_iff,
      fun nearest => nearestWorkday_eq_some_iff hpos⟩

/-- November 2025 begins on a Saturday and ends on a Sunday. -/
theorem dayOfMonth_rules_november :
    (firstYear ≤ 2025 ∧ 2025 ≤ lastYear) ∧ ((1 : Int) ≤ 11 ∧ (11 : Int) ≤ 12) ∧
      (lastDay 30).resolve 2025 11 = .ok none ∧
      IsGreatest {d | d ∈ workdaysOf 2025 11} 28 ∧
      IsNearestWorkday 2025 11 1 3 ∧ IsNearestWorkday 2025 11 30 28 := by
  have hyear : firstYear ≤ 2025 ∧ 2025 ≤ lastYear := by decide
  have hmonth : (1 : Int) ≤ 11 ∧ (11 : Int) ≤ 12 := by decide
  obtain ⟨hlast, ⟨day, hday, hgreatest⟩, hnearest⟩ := dayOfMonth_rules hyear hmonth
  obtain ⟨before, hbefore, hshort, -⟩ := hlast 30 (by decide) (by decide)
  obtain ⟨first, hfirst, -, hfirstNearest⟩ := hnearest 1 (by decide) (by decide)
  obtain ⟨last, hlast, -, hlastNearest⟩ := hnearest 30 (by decide) (by decide)
  obtain rfl : 28 = day := Option.some.inj (Except.ok.inj hday)
  obtain rfl : some 3 = first := Except.ok.inj hfirst
  obtain rfl : some 28 = last := Except.ok.inj hlast
  refine ⟨hyear, hmonth, ?_, hgreatest, ((hfirstNearest 3).1 rfl).2, ((hlastNearest 28).1 rfl).2⟩
  rw [hbefore, hshort.2 (by decide)]

/-! ## Occurrences of a weekday -/

section Weekdays

variable {weekday occurrence : Int}

lemma nthWeekday_eq_none_iff (hweekday : 1 ≤ weekday ∧ weekday ≤ 7) :
    (nthWeekday weekday occurrence).day? year month = none ↔
      ((weekdaysOf year month weekday).card : Int) < occurrence := by
  have hfirst := firstOn_bounds year month weekday
  rw [card_weekdaysOf hweekday]
  simp only [firstOn, day?] at hfirst ⊢
  split
  · simp; omega
  · simp; omega

lemma nthWeekday_eq_some_iff (hweekday : 1 ≤ weekday ∧ weekday ≤ 7) (hpos : 1 ≤ occurrence)
    {day : Int} : (nthWeekday weekday occurrence).day? year month = some day ↔
      IsOccurrence year month weekday occurrence day := by
  rw [isOccurrence_iff hweekday]
  simp only [day?, firstOn]
  split
  · simp; omega
  · simp; omega

lemma lastWeekday_spec (hweekday : 1 ≤ weekday ∧ weekday ≤ 7) :
    ∃ day, (lastWeekday weekday).day? year month = some day ∧
      IsGreatest {d | d ∈ weekdaysOf year month weekday} day := by
  have hlength := monthLength_bounds year month
  obtain ⟨base, hbase⟩ := exists_weekdayOf_eq year month
  refine ⟨_, rfl, ?_, fun u hu => ?_⟩
  · rw [Set.mem_ofPred_eq, mem_weekdaysOf, hbase, hbase]
    omega
  · rw [Set.mem_ofPred_eq, mem_weekdaysOf, hbase] at hu
    rw [hbase]
    omega

end Weekdays

end DayRule

/-! ## The days that the day fields accept -/

namespace Timetable

variable {t : Timetable} {weekday : Int}

/-- The days of a month that the day fields accept. -/
def daysMatched (t : Timetable) (year month : Int) : Set Int :=
  {day | day ∈ daysOf year month ∧ t.dayMatches ⟨year, month, day⟩ = .ok true}

/-- With an open day of month, a restricted day of week decides. -/
lemma dayMatches_of_open (hopen : t.dayOfMonth.isRestricted = false) {constraint : Constraint}
    (hrestricted : constraint.isRestricted = true) {date : Date} (hdate : date.IsValid) :
    { t with dayOfWeek := constraint }.dayMatches date =
      constraint.accepts (weekdayOf date.year date.month date.day) (some date) := by
  rw [dayMatches, if_neg (by simp [hopen]), if_pos hrestricted, weekdayMatches,
    checkDate_ok hdate, ok_bind]

lemma daysMatched_weekday (hopen : t.dayOfMonth.isRestricted = false)
    (hyear : firstYear ≤ year ∧ year ≤ lastYear) (hmonth : 1 ≤ month ∧ month ≤ 12) :
    { t with dayOfWeek := .values (.single weekday) }.daysMatched year month =
      {day | day ∈ weekdaysOf year month weekday} := by
  ext day
  rw [daysMatched, Set.mem_ofPred_eq, Set.mem_ofPred_eq, mem_weekdaysOf, mem_daysOf]
  refine and_congr_right fun hday => ?_
  rw [dayMatches_of_open hopen rfl ⟨hyear, hmonth, hday⟩]
  have hsingle := Set.ext_iff.1 (ValueSet.toSet_single weekday) (weekdayOf year month day)
  simpa [Constraint.accepts, ValueSet.contains, ValueSet.toSet] using hsingle

lemma daysMatched_rule (hopen : t.dayOfMonth.isRestricted = false) {rule : DayRule}
    (hrule : rule.WellFormed .dayOfWeek) (hyear : firstYear ≤ year ∧ year ≤ lastYear)
    (hmonth : 1 ≤ month ∧ month ≤ 12) :
    { t with dayOfWeek := .rule rule }.daysMatched year month =
      {day | day ∈ daysOf year month ∧ rule.day? year month = some day} := by
  ext day
  rw [daysMatched, Set.mem_ofPred_eq, Set.mem_ofPred_eq, mem_daysOf]
  refine and_congr_right fun hday => ?_
  rw [dayMatches_of_open hopen rfl ⟨hyear, hmonth, hday⟩]
  simp [Constraint.accepts, DayRule.resolve_ok hrule hyear hmonth]

lemma daysMatched_nth (hopen : t.dayOfMonth.isRestricted = false)
    (hyear : firstYear ≤ year ∧ year ≤ lastYear) (hmonth : 1 ≤ month ∧ month ≤ 12)
    (hweekday : 1 ≤ weekday ∧ weekday ≤ 7) {occurrence : Int} (hpos : 1 ≤ occurrence)
    (hle : occurrence ≤ 5) :
    { t with dayOfWeek := .rule (.nthWeekday weekday occurrence) }.daysMatched year month =
      {day | IsOccurrence year month weekday occurrence day} := by
  rw [daysMatched_rule hopen (.nthWeekday hweekday.1 hweekday.2 hpos hle) hyear hmonth]
  ext day
  rw [Set.mem_ofPred_eq, Set.mem_ofPred_eq, DayRule.nthWeekday_eq_some_iff hweekday hpos]
  exact and_iff_right_of_imp fun h => Finset.mem_of_mem_filter day h.1

lemma daysMatched_last (hopen : t.dayOfMonth.isRestricted = false)
    (hyear : firstYear ≤ year ∧ year ≤ lastYear) (hmonth : 1 ≤ month ∧ month ≤ 12)
    (hweekday : 1 ≤ weekday ∧ weekday ≤ 7) :
    { t with dayOfWeek := .rule (.lastWeekday weekday) }.daysMatched year month =
      {day | IsGreatest {d | d ∈ weekdaysOf year month weekday} day} := by
  obtain ⟨last, hlast, hgreatest⟩ := @DayRule.lastWeekday_spec year month weekday hweekday
  rw [daysMatched_rule hopen (.lastWeekday hweekday.1 hweekday.2) hyear hmonth]
  ext day
  rw [Set.mem_ofPred_eq, Set.mem_ofPred_eq, hlast, Option.some.injEq]
  constructor
  · rintro ⟨-, rfl⟩
    exact hgreatest
  · intro hday
    exact ⟨Finset.mem_of_mem_filter day hday.1, hgreatest.unique hday⟩

end Timetable

/-! ## The rules of the day of week -/

/-- **The rules of the day of week select what they say.**  `d#n` selects the day on which weekday
`d` occurs for the `n`-th time in the month, if it occurs so often; `dL` selects the last day with
weekday `d`.  So where the day of month is open, the days that `d#1` to `d#5` match are those of the
plain weekday, each of them matched once, and `dL` matches the day of the highest occurrence that
the month has, the fourth or the fifth. -/
theorem dayOfWeek_rules {weekday : Int} (hyear : firstYear ≤ year ∧ year ≤ lastYear)
    (hmonth : 1 ≤ month ∧ month ≤ 12) (hweekday : 1 ≤ weekday ∧ weekday ≤ 7) :
    (∀ occurrence, 1 ≤ occurrence → occurrence ≤ 5 → ∃ found,
      (DayRule.nthWeekday weekday occurrence).resolve year month = .ok found ∧
      (found = none ↔ ((weekdaysOf year month weekday).card : Int) < occurrence) ∧
      ∀ day, found = some day ↔ IsOccurrence year month weekday occurrence day) ∧
    (∃ day, (DayRule.lastWeekday weekday).resolve year month = .ok (some day) ∧
      IsGreatest {d | d ∈ weekdaysOf year month weekday} day) ∧
    ∀ t : Timetable, t.dayOfMonth.isRestricted = false →
      let matched (constraint : Constraint) : Set Int :=
        { t with dayOfWeek := constraint }.daysMatched year month
      let nth (occurrence : Int) : Set Int := matched (.rule (.nthWeekday weekday occurrence))
      matched (.values (.single weekday)) = {day | day ∈ weekdaysOf year month weekday} ∧
      (⋃ occurrence ∈ Set.Icc 1 5, nth occurrence) = matched (.values (.single weekday)) ∧
      (Set.Icc 1 5).PairwiseDisjoint nth ∧
      ∃ highest, (highest = 4 ∨ highest = 5) ∧ (nth highest).Nonempty ∧
        (∀ occurrence, highest < occurrence → occurrence ≤ 5 → nth occurrence = ∅) ∧
        matched (.rule (.lastWeekday weekday)) = nth highest := by
  obtain ⟨last, hlast, hgreatest⟩ := @DayRule.lastWeekday_spec year month weekday hweekday
  have hcases := card_weekdaysOf_cases year month hweekday
  refine ⟨fun occurrence hpos hle => ?_, ⟨last, ?_, hgreatest⟩, fun t hopen => ?_⟩
  · have hrule := DayRule.WellFormed.nthWeekday hweekday.1 hweekday.2 hpos hle
    exact ⟨_, DayRule.resolve_ok hrule hyear hmonth, DayRule.nthWeekday_eq_none_iff hweekday,
      fun day => DayRule.nthWeekday_eq_some_iff hweekday hpos⟩
  · rw [DayRule.resolve_ok (.lastWeekday hweekday.1 hweekday.2) hyear hmonth, hlast]
  intro matched nth
  have hplain : matched (.values (.single weekday)) = {day | day ∈ weekdaysOf year month weekday} :=
    Timetable.daysMatched_weekday hopen hyear hmonth
  have hnth : ∀ occurrence, 1 ≤ occurrence → occurrence ≤ 5 →
      nth occurrence = {day | IsOccurrence year month weekday occurrence day} :=
    fun occurrence hpos hle => Timetable.daysMatched_nth hopen hyear hmonth hweekday hpos hle
  refine ⟨hplain, ?_, ?_, (weekdaysOf year month weekday).card, by omega, ?_, ?_, ?_⟩
  · rw [hplain, ← iUnion_isOccurrence hweekday]
    exact Set.iUnion₂_congr fun occurrence h => hnth occurrence h.1 h.2
  · intro a ha b hb hne
    refine Set.disjoint_left.2 fun day hdayA hdayB => hne ?_
    rw [hnth a ha.1 ha.2] at hdayA
    rw [hnth b hb.1 hb.2] at hdayB
    exact hdayA.unique hdayB
  · rw [hnth _ (by omega) (by omega)]
    exact ⟨last, (isGreatest_weekdaysOf_iff hweekday).1 hgreatest⟩
  · intro occurrence hlt hle
    rw [hnth occurrence (by omega) hle]
    exact Set.eq_empty_iff_forall_notMem.2 fun day hday => absurd hlt (not_lt.2 hday.le_card.2)
  · rw [hnth _ (by omega) (by omega)]
    refine (Timetable.daysMatched_last hopen hyear hmonth hweekday).trans ?_
    ext day
    exact isGreatest_weekdaysOf_iff hweekday

/-- In February 2015, which begins on a Sunday and has four whole weeks, no weekday occurs for the
fifth time. -/
theorem dayOfWeek_rules_february :
    let sundays : Timetable := ⟨.single 0, .single 0, .single 0, .unspecified, .full .month true,
      .values (.single 1), .full .year true⟩
    let nth (occurrence : Int) : Set Int :=
      { sundays with dayOfWeek := .rule (.nthWeekday 1 occurrence) }.daysMatched 2015 2
    (firstYear ≤ 2015 ∧ 2015 ≤ lastYear) ∧ ((1 : Int) ≤ 2 ∧ (2 : Int) ≤ 12) ∧
      ((1 : Int) ≤ 1 ∧ (1 : Int) ≤ 7) ∧ sundays.dayOfMonth.isRestricted = false ∧
      (DayRule.nthWeekday 1 5).resolve 2015 2 = .ok none ∧
      IsOccurrence 2015 2 1 4 22 ∧ IsGreatest {d | d ∈ weekdaysOf 2015 2 1} 22 ∧
      (⋃ occurrence ∈ Set.Icc 1 5, nth occurrence) = sundays.daysMatched 2015 2 := by
  intro sundays nth
  have hyear : firstYear ≤ 2015 ∧ 2015 ≤ lastYear := by decide
  have hmonth : (1 : Int) ≤ 2 ∧ (2 : Int) ≤ 12 := by decide
  have hweekday : (1 : Int) ≤ 1 ∧ (1 : Int) ≤ 7 := by decide
  obtain ⟨hnth, ⟨last, hlast, hgreatest⟩, hmatched⟩ := dayOfWeek_rules hyear hmonth hweekday
  obtain ⟨fourth, hfourth, -, hfourthDay⟩ := hnth 4 (by decide) (by decide)
  obtain rfl : some 22 = fourth := Except.ok.inj hfourth
  obtain rfl : 22 = last := Option.some.inj (Except.ok.inj hlast)
  exact ⟨hyear, hmonth, hweekday, rfl, rfl, (hfourthDay 22).1 rfl, hgreatest,
    (hmatched sundays rfl).2.1⟩

end CronSchedule
