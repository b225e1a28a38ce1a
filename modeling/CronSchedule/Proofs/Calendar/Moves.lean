import CronSchedule.Proofs.Calendar.Order

/-!
# Where the moves of a clock lead

A move sets one field to a value and the finer fields to one of their ends.  Read as a raw clock,
the result may lie past the end of a unit; the move then carries or borrows.  Every move leads to
the valid clock next to that raw one, in the direction of the move: `startHour 25` of a day is the
first instant of the next day from which on a fire time may still lie.

* `field`, `SameAbove`, `BeforeAbove` — a field of a clock, and the order by the fields above it.
* `startOf`, `endOf` — the raw clock of a move.
* `FromFirst`, `ToLast` — the values with which a move need not borrow, or need not carry.
* `IsCeilingOf.carry`, `IsFloorOf.borrow` — past an end of a unit, the unit above decides.
* **`move_start_ceiling`**, **`move_finish_floor`** — a move forward ends on the ceiling of its raw
  clock, a move backward on the floor.
* `nextSecond_spec`, `previousSecond_spec` — the neighbouring seconds.
-/

namespace CronSchedule.Calendar

namespace WallClock

variable {c : WallClock}

/-! ## Fields and raw clocks -/

/-- The value of a field. -/
def field (c : WallClock) : TimeUnit → Int
  | .year => c.year
  | .month => c.month
  | .day => c.day
  | .hour => c.hour
  | .minute => c.minute
  | .second => c.second

/-- Two clocks show the same in all fields above `unit`. -/
def SameAbove (a b : WallClock) : TimeUnit → Prop
  | .year => True
  | .month => a.year = b.year
  | .day => a.year = b.year ∧ a.month = b.month
  | .hour => a.year = b.year ∧ a.month = b.month ∧ a.day = b.day
  | .minute => a.year = b.year ∧ a.month = b.month ∧ a.day = b.day ∧ a.hour = b.hour
  | .second =>
    a.year = b.year ∧ a.month = b.month ∧ a.day = b.day ∧ a.hour = b.hour ∧ a.minute = b.minute

/-- One clock is before another already in the fields above `unit`. -/
def BeforeAbove (a b : WallClock) : TimeUnit → Prop
  | .year => False
  | .month => a.year < b.year
  | .day => a.year < b.year ∨ a.year = b.year ∧ a.month < b.month
  | .hour =>
    a.year < b.year ∨ a.year = b.year ∧
    (a.month < b.month ∨ a.month = b.month ∧ a.day < b.day)
  | .minute =>
    a.year < b.year ∨ a.year = b.year ∧
    (a.month < b.month ∨ a.month = b.month ∧
    (a.day < b.day ∨ a.day = b.day ∧ a.hour < b.hour))
  | .second =>
    a.year < b.year ∨ a.year = b.year ∧
    (a.month < b.month ∨ a.month = b.month ∧
    (a.day < b.day ∨ a.day = b.day ∧
    (a.hour < b.hour ∨ a.hour = b.hour ∧ a.minute < b.minute)))

/-- The unit above another one; the year, which has none, stands for itself. -/
def above : TimeUnit → TimeUnit
  | .year | .month => .year
  | .day => .month
  | .hour => .day
  | .minute => .hour
  | .second => .minute

/-- The raw clock of a move forward: `unit` at `value` and the finer fields at their first. -/
def startOf (c : WallClock) (unit : TimeUnit) (value : Int) : WallClock :=
  match unit with
  | .year => ⟨value, 1, 1, 0, 0, 0⟩
  | .month => ⟨c.year, value, 1, 0, 0, 0⟩
  | .day => ⟨c.year, c.month, value, 0, 0, 0⟩
  | .hour => ⟨c.year, c.month, c.day, value, 0, 0⟩
  | .minute => ⟨c.year, c.month, c.day, c.hour, value, 0⟩
  | .second => ⟨c.year, c.month, c.day, c.hour, c.minute, value⟩

/-- The raw clock of a move backward: `unit` at `value` and the finer fields at their last.  A month
ends on a 31st here; no valid clock shows a day past it. -/
def endOf (c : WallClock) (unit : TimeUnit) (value : Int) : WallClock :=
  match unit with
  | .year => ⟨value, 12, 31, 23, 59, 59⟩
  | .month => ⟨c.year, value, 31, 23, 59, 59⟩
  | .day => ⟨c.year, c.month, value, 23, 59, 59⟩
  | .hour => ⟨c.year, c.month, c.day, value, 59, 59⟩
  | .minute => ⟨c.year, c.month, c.day, c.hour, value, 59⟩
  | .second => ⟨c.year, c.month, c.day, c.hour, c.minute, value⟩

/-- The order of clocks read at one field. -/
lemma le_above {a b : WallClock} (h : a ≤ b) (unit : TimeUnit) :
    BeforeAbove a b unit ∨ SameAbove a b unit ∧ a.field unit ≤ b.field unit := by
  rw [le_iff_not_lt, lt_iff] at h
  cases unit <;> simp only [BeforeAbove, SameAbove, field, false_or, true_and] <;> omega

/-- To be earlier in the fields above a unit is to be earlier above the next unit, or in it. -/
lemma beforeAbove_iff {a b : WallClock} {unit : TimeUnit} (h : unit ≠ .year) :
    BeforeAbove a b unit ↔ BeforeAbove a b (above unit) ∨
      SameAbove a b (above unit) ∧ a.field (above unit) < b.field (above unit) := by
  cases unit with
  | year => exact absurd rfl h
  | month => simp [BeforeAbove, SameAbove, field, above]
  | day => exact Iff.rfl
  | _ =>
      simp only [BeforeAbove, SameAbove, field, above]
      omega

lemma lt_startOf {unit : TimeUnit} {value : Int} (h : c.field unit < value) :
    c < c.startOf unit value := by
  rw [lt_iff]
  cases unit <;> dsimp only [startOf, field] at h ⊢ <;> omega

lemma endOf_lt {unit : TimeUnit} {value : Int} (h : value < c.field unit) :
    c.endOf unit value < c := by
  rw [lt_iff]
  cases unit <;> dsimp only [endOf, field] at h ⊢ <;> omega

/-- **A valid clock is not before the raw clock of a move forward** exactly when it is later in the
fields above, or equal there and not below the value. -/
theorem startOf_le_iff {u : WallClock} (hu : u.IsValid) (unit : TimeUnit) (value : Int) :
    c.startOf unit value ≤ u ↔
      BeforeAbove c u unit ∨ SameAbove c u unit ∧ value ≤ u.field unit := by
  simp only [IsValid] at hu
  rw [le_iff_not_lt, lt_iff]
  cases unit <;>
    simp only [BeforeAbove, SameAbove, field, startOf, false_or, true_and] <;> omega

/-- **A valid clock is not after the raw clock of a move backward** exactly when it is earlier in
the fields above, or equal there and not above the value. -/
theorem le_endOf_iff {u : WallClock} (hu : u.IsValid) (unit : TimeUnit) (value : Int) :
    u ≤ c.endOf unit value ↔
      BeforeAbove u c unit ∨ SameAbove u c unit ∧ u.field unit ≤ value := by
  have hlen := monthLength_bounds u.year u.month
  simp only [IsValid] at hu
  rw [le_iff_not_lt, lt_iff]
  cases unit <;>
    simp only [BeforeAbove, SameAbove, field, endOf, false_or, true_and] <;> omega

/-! ## Values of a field -/

/-- A value that a move forward may be asked for: not below the first of its unit. -/
def FromFirst : TimeUnit → Int → Prop
  | .year, _ => True
  | .month, value | .day, value => 1 ≤ value
  | .hour, value | .minute, value | .second, value => 0 ≤ value

/-- A value that a move backward may be asked for: not above the last of its unit. -/
def ToLast (c : WallClock) : TimeUnit → Int → Prop
  | .year, _ => True
  | .month, value => value ≤ 12
  | .day, value => value ≤ monthLength c.year c.month
  | .hour, value => value ≤ 23
  | .minute, value | .second, value => value ≤ 59

variable {unit : TimeUnit} {value : Int}

lemma fromFirst_field (hc : c.IsValid) (unit : TimeUnit) : FromFirst unit (c.field unit) := by
  simp only [IsValid] at hc
  cases unit <;> dsimp only [FromFirst, field] <;> omega

lemma toLast_field (hc : c.IsValid) (unit : TimeUnit) : c.ToLast unit (c.field unit) := by
  simp only [IsValid] at hc
  cases unit <;> dsimp only [ToLast, field] <;> omega

lemma FromFirst.mono {v w : Int} (h : FromFirst unit v) (hvw : v ≤ w) : FromFirst unit w := by
  cases unit <;> dsimp only [FromFirst] at h ⊢ <;> omega

lemma ToLast.mono {v w : Int} (h : c.ToLast unit w) (hvw : v ≤ w) : c.ToLast unit v := by
  cases unit <;> dsimp only [ToLast] at h ⊢ <;> omega

/-- The last value of a unit depends on the fields above it only. -/
lemma toLast_congr {u : WallClock} (h : SameAbove c u unit) :
    c.ToLast unit value ↔ u.ToLast unit value := by
  cases unit with
  | day => simp only [ToLast, h.1, h.2]
  | _ => exact Iff.rfl

lemma isValid_startOf (hc : c.IsValid) (hfirst : FromFirst unit value)
    (hlast : c.ToLast unit value) : (c.startOf unit value).IsValid := by
  have hlen := monthLength_bounds (c.startOf unit value).year (c.startOf unit value).month
  simp only [IsValid] at hc ⊢
  cases unit <;> dsimp only [startOf, FromFirst, ToLast] at * <;> omega

/-- The raw clock of a move backward is valid, apart from the 31 days of a month. -/
lemma isValid_endOf (hc : c.IsValid) (hunit : unit ≠ .month) (hfirst : FromFirst unit value)
    (hlast : c.ToLast unit value) : (c.endOf unit value).IsValid := by
  cases unit with
  | year => simp [endOf, IsValid, monthLength]
  | month => exact absurd rfl hunit
  | _ =>
      simp only [IsValid] at hc ⊢
      dsimp only [endOf, FromFirst, ToLast] at *
      omega

/-! ## Forward -/

/-- A value past the last of its unit leads where the next value of the unit above leads. -/
lemma IsCeilingOf.carry (unit : TimeUnit) (hunit : unit ≠ .year) {d : WallClock}
    (h : IsCeilingOf (c.startOf (above unit) (c.field (above unit) + 1)) d)
    (hpast : ¬c.ToLast unit value) : IsCeilingOf (c.startOf unit value) d := by
  refine h.congr fun u hu => ?_
  have hnone : ¬(SameAbove c u unit ∧ value ≤ u.field unit) := by
    rintro ⟨hsame, hle⟩
    exact hpast (((toLast_congr hsame).2 (toLast_field hu unit)).mono hle)
  rw [startOf_le_iff hu, startOf_le_iff hu, or_iff_left hnone, beforeAbove_iff hunit]
  exact Iff.rfl

lemma startYear_ceiling (c : WallClock) (year : Int) :
    ∃ d, c.startYear year = .ok d ∧ IsCeilingOf (c.startOf .year year) d := by
  refine ⟨_, rfl, isCeilingOf_self ?_⟩
  simp [startOf, IsValid, monthLength]

lemma startMonth_ceiling (hc : c.IsValid) (month : Int) (h : 1 ≤ month) :
    ∃ d, c.startMonth month = .ok d ∧ IsCeilingOf (c.startOf .month month) d := by
  simp only [startMonth]
  split_ifs with hpast hlow
  · obtain ⟨d, hd, hceil⟩ := startYear_ceiling c (c.year + 1)
    exact ⟨d, hd, hceil.carry .month nofun (not_le.2 hpast)⟩
  · exact absurd h (not_le.2 hlow)
  · exact ⟨_, rfl, isCeilingOf_self (isValid_startOf hc h (not_lt.1 hpast))⟩

lemma startDay_ceiling (hc : c.IsValid) (day : Int) (h : 1 ≤ day) :
    ∃ d, c.startDay day = .ok d ∧ IsCeilingOf (c.startOf .day day) d := by
  have hmonth : checkMonth c.month = .ok () := if_pos hc.1
  simp only [startDay]
  rw [hmonth]
  dsimp only
  split_ifs with hpast
  · obtain ⟨d, hd, hceil⟩ := startMonth_ceiling hc (c.month + 1) (by have := hc.1; omega)
    exact ⟨d, hd, hceil.carry .day nofun (not_le.2 hpast)⟩
  · exact ⟨_, rfl, isCeilingOf_self (isValid_startOf hc h (not_lt.1 hpast))⟩

lemma startHour_ceiling (hc : c.IsValid) (hour : Int) (h : 0 ≤ hour) :
    ∃ d, c.startHour hour = .ok d ∧ IsCeilingOf (c.startOf .hour hour) d := by
  simp only [startHour]
  split_ifs with hpast
  · obtain ⟨d, hd, hceil⟩ := startDay_ceiling hc (c.day + 1) (by have := hc.2.1; omega)
    exact ⟨d, hd, hceil.carry .hour nofun (not_le.2 hpast)⟩
  · exact ⟨_, rfl, isCeilingOf_self (isValid_startOf hc h (not_lt.1 hpast))⟩

lemma startMinute_ceiling (hc : c.IsValid) (minute : Int) (h : 0 ≤ minute) :
    ∃ d, c.startMinute minute = .ok d ∧ IsCeilingOf (c.startOf .minute minute) d := by
  simp only [startMinute]
  split_ifs with hpast
  · obtain ⟨d, hd, hceil⟩ := startHour_ceiling hc (c.hour + 1) (by have := hc.2.2.1; omega)
    exact ⟨d, hd, hceil.carry .minute nofun (not_le.2 hpast)⟩
  · exact ⟨_, rfl, isCeilingOf_self (isValid_startOf hc h (not_lt.1 hpast))⟩

lemma startSecond_ceiling (hc : c.IsValid) (second : Int) (h : 0 ≤ second) :
    ∃ d, c.startSecond second = .ok d ∧ IsCeilingOf (c.startOf .second second) d := by
  simp only [startSecond]
  split_ifs with hpast
  · obtain ⟨d, hd, hceil⟩ := startMinute_ceiling hc (c.minute + 1) (by have := hc.2.2.2.1; omega)
    exact ⟨d, hd, hceil.carry .second nofun (not_le.2 hpast)⟩
  · exact ⟨_, rfl, isCeilingOf_self (isValid_startOf hc h (not_lt.1 hpast))⟩

/-- **A move forward ends on the ceiling of its raw clock.** -/
theorem move_start_ceiling (hc : c.IsValid) (unit : TimeUnit) (value : Int)
    (h : FromFirst unit value) :
    ∃ d, c.move .start unit value = .ok d ∧ IsCeilingOf (c.startOf unit value) d := by
  cases unit with
  | year => exact startYear_ceiling c value
  | month => exact startMonth_ceiling hc value h
  | day => exact startDay_ceiling hc value h
  | hour => exact startHour_ceiling hc value h
  | minute => exact startMinute_ceiling hc value h
  | second => exact startSecond_ceiling hc value h

/-! ## Backward -/

/-- A value before the first of its unit leads where the previous value of the unit above leads. -/
lemma IsFloorOf.borrow (unit : TimeUnit) (hunit : unit ≠ .year) {d : WallClock}
    (h : IsFloorOf (c.endOf (above unit) (c.field (above unit) - 1)) d)
    (hpast : ¬FromFirst unit value) : IsFloorOf (c.endOf unit value) d := by
  refine h.congr fun u hu => ?_
  have hnone : ¬(SameAbove u c unit ∧ u.field unit ≤ value) := by
    rintro ⟨-, hle⟩
    exact hpast ((fromFirst_field hu unit).mono hle)
  rw [le_endOf_iff hu, le_endOf_iff hu, or_iff_left hnone, beforeAbove_iff hunit,
    Int.le_sub_one_iff]

lemma endYear_floor (c : WallClock) (year : Int) :
    ∃ d, c.endYear year = .ok d ∧ IsFloorOf (c.endOf .year year) d := by
  refine ⟨_, rfl, isFloorOf_self ?_⟩
  simp [endOf, IsValid, monthLength]

/-- In the month of `c` no valid clock shows a day past the end of that month. -/
lemma IsValid.day_le {u : WallClock} (hu : u.IsValid) (hy : u.year = c.year)
    (hm : u.month = c.month) : u.day ≤ monthLength c.year c.month := by
  rw [← hy, ← hm]
  exact hu.2.1.2

lemma endMonth_floor (c : WallClock) (month : Int) (h : month ≤ 12) :
    ∃ d, c.endMonth month = .ok d ∧ IsFloorOf (c.endOf .month month) d := by
  simp only [endMonth]
  split_ifs with hpast
  · obtain ⟨d, hd, hfloor⟩ := endYear_floor c (c.year - 1)
    exact ⟨d, hd, hfloor.borrow .month nofun (not_le.2 hpast)⟩
  · have hmonth : checkMonth month = .ok () := if_pos ⟨not_lt.1 hpast, h⟩
    have hlen := monthLength_bounds c.year month
    have hvalid : IsValid ⟨c.year, month, monthLength c.year month, 23, 59, 59⟩ := by
      unfold IsValid
      dsimp only
      omega
    rw [hmonth]
    -- the raw clock gives the month 31 days, but no valid clock shows more than it has
    refine ⟨_, rfl, (isFloorOf_self hvalid).congr fun u hu => ?_⟩
    have hday := hu.day_le (c := ⟨c.year, month, 1, 0, 0, 0⟩)
    rw [le_iff_not_lt, le_iff_not_lt, lt_iff, lt_iff]
    simp only [IsValid] at hu
    dsimp only [endOf] at hday ⊢
    omega

lemma endDay_floor (hc : c.IsValid) (day : Int) (h : day ≤ monthLength c.year c.month) :
    ∃ d, c.endDay day = .ok d ∧ IsFloorOf (c.endOf .day day) d := by
  simp only [endDay]
  split_ifs with hpast
  · obtain ⟨d, hd, hfloor⟩ := endMonth_floor c (c.month - 1) (by have := hc.1; omega)
    exact ⟨d, hd, hfloor.borrow .day nofun (not_le.2 hpast)⟩
  · exact ⟨_, rfl, isFloorOf_self (isValid_endOf hc nofun (not_lt.1 hpast) h)⟩

lemma endHour_floor (hc : c.IsValid) (hour : Int) (h : hour ≤ 23) :
    ∃ d, c.endHour hour = .ok d ∧ IsFloorOf (c.endOf .hour hour) d := by
  simp only [endHour]
  split_ifs with hpast
  · obtain ⟨d, hd, hfloor⟩ := endDay_floor hc (c.day - 1) (by have := hc.2.1; omega)
    exact ⟨d, hd, hfloor.borrow .hour nofun (not_le.2 hpast)⟩
  · exact ⟨_, rfl, isFloorOf_self (isValid_endOf hc nofun (not_lt.1 hpast) h)⟩

lemma endMinute_floor (hc : c.IsValid) (minute : Int) (h : minute ≤ 59) :
    ∃ d, c.endMinute minute = .ok d ∧ IsFloorOf (c.endOf .minute minute) d := by
  simp only [endMinute]
  split_ifs with hpast
  · obtain ⟨d, hd, hfloor⟩ := endHour_floor hc (c.hour - 1) (by have := hc.2.2.1; omega)
    exact ⟨d, hd, hfloor.borrow .minute nofun (not_le.2 hpast)⟩
  · exact ⟨_, rfl, isFloorOf_self (isValid_endOf hc nofun (not_lt.1 hpast) h)⟩

lemma endSecond_floor (hc : c.IsValid) (second : Int) (h : second ≤ 59) :
    ∃ d, c.endSecond second = .ok d ∧ IsFloorOf (c.endOf .second second) d := by
  simp only [endSecond]
  split_ifs with hpast
  · obtain ⟨d, hd, hfloor⟩ := endMinute_floor hc (c.minute - 1) (by have := hc.2.2.2.1; omega)
    exact ⟨d, hd, hfloor.borrow .second nofun (not_le.2 hpast)⟩
  · exact ⟨_, rfl, isFloorOf_self (isValid_endOf hc nofun (not_lt.1 hpast) h)⟩

/-- **A move backward ends on the floor of its raw clock.** -/
theorem move_finish_floor (hc : c.IsValid) (unit : TimeUnit) (value : Int)
    (h : c.ToLast unit value) :
    ∃ d, c.move .finish unit value = .ok d ∧ IsFloorOf (c.endOf unit value) d := by
  cases unit with
  | year => exact endYear_floor c value
  | month => exact endMonth_floor c value h
  | day => exact endDay_floor hc value h
  | hour => exact endHour_floor hc value h
  | minute => exact endMinute_floor hc value h
  | second => exact endSecond_floor hc value h

/-! ## The neighbouring seconds -/

lemma withinCalendar_ok (h : firstYear ≤ c.year ∧ c.year ≤ lastYear) :
    c.withinCalendar = .ok c :=
  if_pos h

/-- **The next second is the least valid clock after a valid one.**  Before the last year it cannot
leave the calendar. -/
theorem nextSecond_spec (hc : c.IsValid) (hyear : firstYear ≤ c.year ∧ c.year < lastYear) :
    ∃ d, c.nextSecond = .ok d ∧ IsLeast {u | u.IsValid ∧ c < u} d := by
  obtain ⟨d, hd, hceil⟩ := startSecond_ceiling hc (c.second + 1) (by have := hc.2.2.2.2; omega)
  have hafter : {u : WallClock | u.IsValid ∧ c < u}
      = {u | u.IsValid ∧ c.startOf .second (c.second + 1) ≤ u} := by
    ext u
    refine and_congr_right fun _ => ?_
    rw [le_iff_not_lt, lt_iff, lt_iff]
    dsimp only [startOf]
    omega
  have hleast : IsLeast {u | u.IsValid ∧ c < u} d := hafter ▸ hceil
  have hnewYear : d ≤ ⟨c.year + 1, 1, 1, 0, 0, 0⟩ :=
    hleast.2 ⟨by simp [IsValid, monthLength], lt_iff.2 (Or.inl (by dsimp only; omega))⟩
  have hfirst := year_le hleast.1.2.le
  have hlast := year_le hnewYear
  refine ⟨d, ?_, hleast⟩
  rw [nextSecond, hd]
  exact withinCalendar_ok ⟨by omega, by dsimp only at hlast; omega⟩

/-- **The previous second is the greatest valid clock before a valid one.**  After the first year it
cannot leave the calendar. -/
theorem previousSecond_spec (hc : c.IsValid) (hyear : firstYear < c.year ∧ c.year ≤ lastYear) :
    ∃ d, c.previousSecond = .ok d ∧ IsGreatest {u | u.IsValid ∧ u < c} d := by
  obtain ⟨d, hd, hfloor⟩ := endSecond_floor hc (c.second - 1) (by have := hc.2.2.2.2; omega)
  have hbefore : {u : WallClock | u.IsValid ∧ u < c}
      = {u | u.IsValid ∧ u ≤ c.endOf .second (c.second - 1)} := by
    ext u
    refine and_congr_right fun _ => ?_
    rw [le_iff_not_lt, lt_iff, lt_iff]
    dsimp only [endOf]
    omega
  have hgreatest : IsGreatest {u | u.IsValid ∧ u < c} d := hbefore ▸ hfloor
  have holdYear : (⟨c.year - 1, 12, 31, 23, 59, 59⟩ : WallClock) ≤ d :=
    hgreatest.2 ⟨by simp [IsValid, monthLength], lt_iff.2 (Or.inl (by dsimp only; omega))⟩
  have hlast := year_le hgreatest.1.2.le
  have hfirst := year_le holdYear
  refine ⟨d, ?_, hgreatest⟩
  rw [previousSecond, hd]
  exact withinCalendar_ok ⟨by dsimp only at hfirst; omega, by omega⟩

end WallClock

end CronSchedule.Calendar
