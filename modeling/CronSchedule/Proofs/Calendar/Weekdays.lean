import CronSchedule.Proofs.Calendar.Order
import Mathlib

/-!
# The weekdays of a month

Within a month the weekday goes on by one from day to day.  So the days with one weekday are seven
days apart, and how often the weekday has occurred before a day can be read off the day.

* `daysOf`, `workdaysOf`, `weekdaysOf` — the days of a month, those from Monday to Friday, and those
  with a given weekday.
* `exists_weekdayOf_eq` — the weekdays of a month as remainders.
* `firstOn` — the first day with a weekday; **`mem_weekdaysOf_iff`** — the others come in steps of
  seven.
* **`card_weekdaysOf_before`**, **`card_weekdaysOf`** — how often a weekday occurs before a day, and
  in the whole month.
* `IsOccurrence` — the day on which a weekday occurs for the `n`-th time; `iUnion_isOccurrence` — the
  first five occurrences are all.
* **`isGreatest_weekdaysOf_iff`** — the last occurrence is the one with the number of all.
-/

namespace CronSchedule.Calendar

variable {year month weekday day : Int}

/-! ## Days of a month -/

/-- The days of a month. -/
noncomputable def daysOf (year month : Int) : Finset Int :=
  Finset.Icc 1 (monthLength year month)

/-- The days of a month that fall on Monday to Friday. -/
noncomputable def workdaysOf (year month : Int) : Finset Int :=
  (daysOf year month).filter fun day =>
    2 ≤ weekdayOf year month day ∧ weekdayOf year month day ≤ 6

/-- The days of a month that fall on a weekday. -/
noncomputable def weekdaysOf (year month weekday : Int) : Finset Int :=
  (daysOf year month).filter fun day => weekdayOf year month day = weekday

lemma mem_daysOf : day ∈ daysOf year month ↔ 1 ≤ day ∧ day ≤ monthLength year month :=
  Finset.mem_Icc

lemma mem_workdaysOf : day ∈ workdaysOf year month ↔
    (1 ≤ day ∧ day ≤ monthLength year month) ∧
      2 ≤ weekdayOf year month day ∧ weekdayOf year month day ≤ 6 := by
  simp [workdaysOf, mem_daysOf]

lemma mem_weekdaysOf : day ∈ weekdaysOf year month weekday ↔
    (1 ≤ day ∧ day ≤ monthLength year month) ∧ weekdayOf year month day = weekday := by
  simp [weekdaysOf, mem_daysOf]

/-- The days of a month that come after one of its days. -/
lemma card_daysOf_after (hday : 1 ≤ day ∧ day ≤ monthLength year month) :
    (((daysOf year month).filter (day < ·)).card : Int) = monthLength year month - day := by
  have hafter : (daysOf year month).filter (day < ·) = Finset.Ioc day (monthLength year month) := by
    ext other
    simp only [Finset.mem_filter, mem_daysOf, Finset.mem_Ioc]
    omega
  rw [hafter, Int.card_Ioc]
  omega

/-! ## Weekdays -/

/-- The weekdays of a month go on by one from day to day. -/
lemma exists_weekdayOf_eq (year month : Int) :
    ∃ base, ∀ day, weekdayOf year month day = (base + day) % 7 + 1 := by
  refine ⟨daysBeforeYear year + daysBeforeMonth year month, fun day => ?_⟩
  simp only [weekdayOf, weekdayFromMonday, weekdayOfNumber, dayNumber]
  omega

/-- The first day of a month that falls on a weekday. -/
def firstOn (year month weekday : Int) : Int :=
  1 + (weekday - weekdayOf year month 1) % 7

lemma firstOn_bounds (year month weekday : Int) :
    1 ≤ firstOn year month weekday ∧ firstOn year month weekday ≤ 7 := by
  simp only [firstOn]
  omega

/-- **A weekday occurs in steps of seven days**, from its first day to the end of the month. -/
theorem mem_weekdaysOf_iff (hweekday : 1 ≤ weekday ∧ weekday ≤ 7) :
    day ∈ weekdaysOf year month weekday ↔
      ∃ i : Nat, day = firstOn year month weekday + 7 * i ∧ day ≤ monthLength year month := by
  obtain ⟨base, hbase⟩ := exists_weekdayOf_eq year month
  rw [mem_weekdaysOf, firstOn, hbase, hbase]
  constructor
  · rintro ⟨⟨hpos, hlast⟩, hday⟩
    refine ⟨((day - 1) / 7).toNat, ?_, hlast⟩
    omega
  · rintro ⟨i, rfl, hlast⟩
    exact ⟨⟨by omega, hlast⟩, by omega⟩

/-- The first occurrences of a weekday, one week after the other. -/
def occurrences (year month weekday : Int) (count : Nat) : Finset Int :=
  (Finset.range count).image fun (i : Nat) => firstOn year month weekday + 7 * i

lemma card_occurrences (year month weekday : Int) (count : Nat) :
    (occurrences year month weekday count).card = count := by
  have hinjective : Function.Injective fun (i : Nat) => firstOn year month weekday + 7 * i := by
    intro i j heq
    dsimp only at heq
    omega
  rw [occurrences, Finset.card_image_of_injective _ hinjective, Finset.card_range]

lemma mem_occurrences {count : Nat} : day ∈ occurrences year month weekday count ↔
    ∃ i : Nat, i < count ∧ day = firstOn year month weekday + 7 * i := by
  simp [occurrences, eq_comm]

/-- **Before its day of week `i`, a weekday has occurred `i` times**, weeks counted from zero. -/
theorem card_weekdaysOf_before (hweekday : 1 ≤ weekday ∧ weekday ≤ 7) {i : Nat}
    (hday : day = firstOn year month weekday + 7 * i) (hlast : day ≤ monthLength year month) :
    ((weekdaysOf year month weekday).filter (· < day)).card = i := by
  have hbefore : (weekdaysOf year month weekday).filter (· < day) =
      occurrences year month weekday i := by
    ext other
    rw [Finset.mem_filter, mem_weekdaysOf_iff hweekday, mem_occurrences]
    constructor
    · rintro ⟨⟨j, hother, -⟩, hlt⟩
      exact ⟨j, by omega, hother⟩
    · rintro ⟨j, hj, hother⟩
      exact ⟨⟨j, hother, by omega⟩, by omega⟩
  rw [hbefore, card_occurrences]

/-- **How often a weekday occurs in a month.** -/
theorem card_weekdaysOf (hweekday : 1 ≤ weekday ∧ weekday ≤ 7) :
    ((weekdaysOf year month weekday).card : Int) =
      (monthLength year month - firstOn year month weekday) / 7 + 1 := by
  have hlength := monthLength_bounds year month
  have hfirst := firstOn_bounds year month weekday
  have hall : weekdaysOf year month weekday = occurrences year month weekday
      ((monthLength year month - firstOn year month weekday) / 7 + 1).toNat := by
    ext other
    rw [mem_weekdaysOf_iff hweekday, mem_occurrences]
    constructor
    · rintro ⟨j, hother, hle⟩
      exact ⟨j, by omega, hother⟩
    · rintro ⟨j, hj, hother⟩
      exact ⟨j, hother, by omega⟩
  rw [hall, card_occurrences]
  omega

lemma card_weekdaysOf_cases (year month : Int) (hweekday : 1 ≤ weekday ∧ weekday ≤ 7) :
    (weekdaysOf year month weekday).card = 4 ∨ (weekdaysOf year month weekday).card = 5 := by
  have hlength := monthLength_bounds year month
  have hfirst := firstOn_bounds year month weekday
  have hcard := @card_weekdaysOf year month weekday hweekday
  omega

/-! ## Occurrences -/

/-- On a day, a weekday occurs for the `occurrence`-th time in the month: the day has the weekday,
and `occurrence - 1` earlier days of the month share it. -/
def IsOccurrence (year month weekday occurrence day : Int) : Prop :=
  day ∈ weekdaysOf year month weekday ∧
    (((weekdaysOf year month weekday).filter (· < day)).card : Int) = occurrence - 1

lemma isOccurrence_iff (hweekday : 1 ≤ weekday ∧ weekday ≤ 7) {occurrence : Int} :
    IsOccurrence year month weekday occurrence day ↔ 1 ≤ occurrence ∧
      day = firstOn year month weekday + 7 * (occurrence - 1) ∧ day ≤ monthLength year month := by
  constructor
  · rintro ⟨hmem, hcard⟩
    obtain ⟨i, hday, hlast⟩ := (mem_weekdaysOf_iff hweekday).1 hmem
    rw [card_weekdaysOf_before hweekday hday hlast] at hcard
    exact ⟨by omega, by omega, hlast⟩
  · rintro ⟨hpos, heq, hlast⟩
    have hday : day = firstOn year month weekday + 7 * ((occurrence - 1).toNat : Int) := by omega
    refine ⟨(mem_weekdaysOf_iff hweekday).2 ⟨_, hday, hlast⟩, ?_⟩
    rw [card_weekdaysOf_before hweekday hday hlast]
    omega

/-- Every day with a weekday is an occurrence of it. -/
lemma exists_isOccurrence (hday : day ∈ weekdaysOf year month weekday) :
    ∃ occurrence, IsOccurrence year month weekday occurrence day :=
  ⟨((weekdaysOf year month weekday).filter (· < day)).card + 1, hday, by omega⟩

/-- A weekday does not occur for the sixth time if it occurs five times. -/
lemma IsOccurrence.le_card {occurrence : Int}
    (h : IsOccurrence year month weekday occurrence day) :
    1 ≤ occurrence ∧ occurrence ≤ (weekdaysOf year month weekday).card := by
  have hearlier : ((weekdaysOf year month weekday).filter (· < day)).card <
      (weekdaysOf year month weekday).card :=
    Finset.card_lt_card (Finset.filter_ssubset.2 ⟨day, h.1, lt_irrefl day⟩)
  have hcount := h.2
  omega

/-- A day is one occurrence of its weekday only. -/
lemma IsOccurrence.unique {a b : Int} (ha : IsOccurrence year month weekday a day)
    (hb : IsOccurrence year month weekday b day) : a = b := by
  have hcounts : a - 1 = b - 1 := ha.2.symm.trans hb.2
  omega

/-- The days with a weekday are its first five occurrences. -/
lemma iUnion_isOccurrence (hweekday : 1 ≤ weekday ∧ weekday ≤ 7) :
    (⋃ occurrence ∈ Set.Icc 1 5, {day | IsOccurrence year month weekday occurrence day}) =
      {day | day ∈ weekdaysOf year month weekday} := by
  have hcases := card_weekdaysOf_cases year month hweekday
  ext day
  rw [Set.mem_iUnion₂]
  constructor
  · rintro ⟨occurrence, -, hday⟩
    exact hday.1
  · intro hday
    obtain ⟨occurrence, hoccurs⟩ := exists_isOccurrence hday
    obtain ⟨hpos, hle⟩ := hoccurs.le_card
    exact ⟨occurrence, ⟨hpos, by omega⟩, hoccurs⟩

/-- **The last occurrence of a weekday is the one with the number of all.** -/
theorem isGreatest_weekdaysOf_iff (hweekday : 1 ≤ weekday ∧ weekday ≤ 7) :
    IsGreatest {d | d ∈ weekdaysOf year month weekday} day ↔
      IsOccurrence year month weekday (weekdaysOf year month weekday).card day := by
  rw [isOccurrence_iff hweekday, card_weekdaysOf hweekday]
  have hlength := monthLength_bounds year month
  have hfirst := firstOn_bounds year month weekday
  constructor
  · rintro ⟨hmem, hgreatest⟩
    obtain ⟨i, hday, hlast⟩ := (mem_weekdaysOf_iff hweekday).1 hmem
    -- one week later the month is over, or that day would be a greater one
    have hover : monthLength year month <
        firstOn year month weekday + 7 * ((i + 1 : Nat) : Int) := by
      by_contra hle
      have hlater := hgreatest ((mem_weekdaysOf_iff hweekday).2 ⟨i + 1, rfl, not_lt.1 hle⟩)
      omega
    omega
  · rintro ⟨hpos, hday, hlast⟩
    have hweek : day = firstOn year month weekday +
        7 * (((monthLength year month - firstOn year month weekday) / 7).toNat : Int) := by omega
    refine ⟨(mem_weekdaysOf_iff hweekday).2 ⟨_, hweek, hlast⟩, fun u hu => ?_⟩
    obtain ⟨j, hj, huLast⟩ := (mem_weekdaysOf_iff hweekday).1 hu
    omega

end CronSchedule.Calendar
