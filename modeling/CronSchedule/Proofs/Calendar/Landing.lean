import CronSchedule.Proofs.Calendar.Moves
import Mathlib.Data.List.Lex

/-!
# Where a move lands among all clocks

A move is asked for a value of one field.  Read from the year down to that field, the clocks are in
lexicographic order, and a move ends on the valid clock that is next in this order: forward on the
least one that is not below the fields above and the value, backward on the greatest one that is not
above them.

* `coarser`, `leading` — the fields above a unit, without and with the field of the unit.
* `append_le_leading_iff`, `leading_le_append_iff` — their lexicographic order.
* **`move_extremal`** — every move ends on the extremal clock, and a value past the end of its unit
  carries into the unit above.
-/

namespace CronSchedule.Calendar.WallClock

variable {c u : WallClock} {unit : TimeUnit} {value : Int}

/-! ## Leading fields -/

/-- The fields above a unit, from the year down. -/
def coarser (c : WallClock) : TimeUnit → List Int
  | .year => []
  | .month => [c.year]
  | .day => [c.year, c.month]
  | .hour => [c.year, c.month, c.day]
  | .minute => [c.year, c.month, c.day, c.hour]
  | .second => [c.year, c.month, c.day, c.hour, c.minute]

/-- The fields from the year down to a unit. -/
def leading (c : WallClock) (unit : TimeUnit) : List Int :=
  c.coarser unit ++ [c.field unit]

lemma cons_le_cons {a b : Int} {l m : List Int} : a :: l ≤ b :: m ↔ a < b ∨ a = b ∧ l ≤ m := by
  rw [← not_lt, ← not_lt, List.cons_lt_cons_iff]
  by_cases h : m < l
  · simp only [h, and_true, not_true_eq_false, and_false, or_false]
    omega
  · simp only [h, and_false, or_false, not_false_eq_true, and_true]
    omega

/-- **The leading fields are at least those of a clock with a new value in one field** exactly when
the fields above decide it, or are equal and the value decides it. -/
theorem append_le_leading_iff : c.coarser unit ++ [value] ≤ u.leading unit ↔
    BeforeAbove c u unit ∨ SameAbove c u unit ∧ value ≤ u.field unit := by
  cases unit <;>
    simp only [leading, coarser, BeforeAbove, SameAbove, List.nil_append, List.cons_append,
      cons_le_cons, le_refl, and_true, false_or, true_and] <;> omega

/-- The same, the other way round. -/
theorem leading_le_append_iff : u.leading unit ≤ c.coarser unit ++ [value] ↔
    BeforeAbove u c unit ∨ SameAbove u c unit ∧ u.field unit ≤ value := by
  cases unit <;>
    simp only [leading, coarser, BeforeAbove, SameAbove, List.nil_append, List.cons_append,
      cons_le_cons, le_refl, and_true, false_or, true_and] <;> omega

/-! ## Moves -/

/-- Past the last value of its unit, a move forward is the move of the unit above. -/
lemma move_start_carry (hc : c.IsValid) (h : ¬c.ToLast unit value) :
    c.move .start unit value = c.move .start (above unit) (c.field (above unit) + 1) := by
  cases unit with
  | year => exact absurd trivial h
  | month => exact if_pos (not_le.1 h)
  | day =>
      have hmonth : checkMonth c.month = .ok () := if_pos hc.1
      simp only [move, startDay, hmonth]
      exact if_pos (not_le.1 h)
  | hour => exact if_pos (not_le.1 h)
  | minute => exact if_pos (not_le.1 h)
  | second => exact if_pos (not_le.1 h)

/-- Before the first value of its unit, a move backward is the move of the unit above. -/
lemma move_finish_borrow (h : ¬FromFirst unit value) :
    c.move .finish unit value = c.move .finish (above unit) (c.field (above unit) - 1) := by
  cases unit with
  | year => exact absurd trivial h
  | month => exact if_pos (not_le.1 h)
  | day => exact if_pos (not_le.1 h)
  | hour => exact if_pos (not_le.1 h)
  | minute => exact if_pos (not_le.1 h)
  | second => exact if_pos (not_le.1 h)

/-- **A move ends on the extremal clock.**  From a valid clock, a move forward to a value that is
not below the first of its unit ends on the least valid clock whose fields from the year down to the
unit are lexicographically at least the fields above and the value; a move backward to a value that
is not above the last of its unit ends on the greatest valid clock whose fields are at most these.
A value past the end of its unit leads to the next, or the previous, value of the unit above. -/
theorem move_extremal (hc : c.IsValid) (unit : TimeUnit) (value : Int) :
    (FromFirst unit value → ∃ d, c.move .start unit value = .ok d ∧
      IsLeast {u | u.IsValid ∧ c.coarser unit ++ [value] ≤ u.leading unit} d) ∧
    (¬c.ToLast unit value →
      c.move .start unit value = c.move .start (above unit) (c.field (above unit) + 1)) ∧
    (c.ToLast unit value → ∃ d, c.move .finish unit value = .ok d ∧
      IsGreatest {u | u.IsValid ∧ u.leading unit ≤ c.coarser unit ++ [value]} d) ∧
    (¬FromFirst unit value →
      c.move .finish unit value = c.move .finish (above unit) (c.field (above unit) - 1)) := by
  refine ⟨fun hfirst => ?_, move_start_carry hc, fun hlast => ?_, move_finish_borrow⟩
  · obtain ⟨d, hd, hceil⟩ := move_start_ceiling hc unit value hfirst
    have hset : {u : WallClock | u.IsValid ∧ c.startOf unit value ≤ u}
        = {u | u.IsValid ∧ c.coarser unit ++ [value] ≤ u.leading unit} := by
      ext u
      refine and_congr_right fun hu => ?_
      rw [startOf_le_iff hu, append_le_leading_iff]
    exact ⟨d, hd, hset ▸ hceil⟩
  · obtain ⟨d, hd, hfloor⟩ := move_finish_floor hc unit value hlast
    have hset : {u : WallClock | u.IsValid ∧ u ≤ c.endOf unit value}
        = {u | u.IsValid ∧ u.leading unit ≤ c.coarser unit ++ [value]} := by
      ext u
      refine and_congr_right fun hu => ?_
      rw [le_endOf_iff hu, leading_le_append_iff]
    exact ⟨d, hd, hset ▸ hfloor⟩

/-- The 61st second of a leap day carries into March; day zero of March borrows the leap day. -/
theorem move_extremal_leap_day :
    let leapDay : WallClock := ⟨2024, 2, 29, 23, 59, 59⟩
    let march : WallClock := ⟨2024, 3, 1, 0, 0, 0⟩
    leapDay.IsValid ∧ march.IsValid ∧ FromFirst .second 60 ∧ march.ToLast .day 0 ∧
      leapDay.move .start .second 60 = .ok march ∧
      leapDay.move .start .second 60 = leapDay.move .start .minute 60 ∧
      IsLeast {u | u.IsValid ∧ [2024, 2, 29, 23, 59, 60] ≤ u.leading .second} march ∧
      march.move .finish .day 0 = .ok leapDay ∧
      march.move .finish .day 0 = march.move .finish .month 2 ∧
      IsGreatest {u | u.IsValid ∧ u.leading .day ≤ [2024, 3, 0]} leapDay := by
  intro leapDay march
  have hleap : leapDay.IsValid := by decide
  have hmarch : march.IsValid := by decide
  have hfirst : FromFirst .second 60 := by
    show (0 : Int) ≤ 60
    decide
  have hpast : ¬leapDay.ToLast .second 60 := by
    show ¬(60 : Int) ≤ 59
    decide
  have hlast : march.ToLast .day 0 := by
    show (0 : Int) ≤ monthLength 2024 3
    decide
  have hbefore : ¬FromFirst .day 0 := by
    show ¬(1 : Int) ≤ 0
    decide
  obtain ⟨hforward, hcarry, -, -⟩ := move_extremal hleap .second 60
  obtain ⟨-, -, hbackward, hborrow⟩ := move_extremal hmarch .day 0
  obtain ⟨d, hd, hleast⟩ := hforward hfirst
  obtain ⟨e, he, hgreatest⟩ := hbackward hlast
  obtain rfl : march = d := Except.ok.inj hd
  obtain rfl : leapDay = e := Except.ok.inj he
  exact ⟨hleap, hmarch, hfirst, hlast, hd, hcarry hpast, hleast, he, hborrow hbefore, hgreatest⟩

end CronSchedule.Calendar.WallClock
