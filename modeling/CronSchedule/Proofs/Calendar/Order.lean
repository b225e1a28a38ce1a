import CronSchedule.Calendar.Instant
import Mathlib.Order.Bounds.Basic
import Mathlib.Tactic.Lemma
import Mathlib.Tactic.SplitIfs

/-!
# The order of wall clocks

`WallClock.Before` compares clocks field by field from the year down.  It is the strict part of a
linear order on all clocks, valid or not, so that a search can be measured against a raw clock such
as "the 32nd of this month, midnight" before that clock is carried into the calendar.

* `LinearOrder WallClock` — the order, with `lt_iff` and `le_iff` down to the fields.
* **`rank_lt_rank_iff`** — on valid clocks the rank grows exactly with the order.
* `IsCeilingOf`, `IsFloorOf` — the least valid clock from a raw one on, the greatest one up to it.
* `Preorder Instant` — the order of instants by what they show.
-/

namespace CronSchedule.Calendar

lemma monthLength_bounds (year month : Int) :
    28 ≤ monthLength year month ∧ monthLength year month ≤ 31 := by
  simp only [monthLength]
  split_ifs <;> omega

namespace WallClock

/-! ## A linear order -/

instance : LT WallClock := ⟨Before⟩

instance : LE WallClock := ⟨fun a b => ¬Before b a⟩

lemma lt_iff {a b : WallClock} : a < b ↔
    a.year < b.year ∨ a.year = b.year ∧
    (a.month < b.month ∨ a.month = b.month ∧
    (a.day < b.day ∨ a.day = b.day ∧
    (a.hour < b.hour ∨ a.hour = b.hour ∧
    (a.minute < b.minute ∨ a.minute = b.minute ∧ a.second < b.second)))) := Iff.rfl

lemma le_iff_not_lt {a b : WallClock} : a ≤ b ↔ ¬b < a := Iff.rfl

lemma eq_of_fields {a b : WallClock} (hy : a.year = b.year) (hmo : a.month = b.month)
    (hd : a.day = b.day) (hh : a.hour = b.hour) (hmi : a.minute = b.minute)
    (hs : a.second = b.second) : a = b := by
  cases a; cases b
  simp_all

instance : LinearOrder WallClock where
  le_refl a := by rw [le_iff_not_lt, lt_iff]; omega
  le_trans a b c hab hbc := by
    rw [le_iff_not_lt, lt_iff] at *
    omega
  lt_iff_le_not_ge a b := by
    rw [le_iff_not_lt, le_iff_not_lt, lt_iff, lt_iff]
    omega
  le_antisymm a b hab hba := by
    rw [le_iff_not_lt, lt_iff] at hab hba
    apply eq_of_fields <;> omega
  le_total a b := by
    rw [le_iff_not_lt, le_iff_not_lt, lt_iff, lt_iff]
    omega
  toDecidableLE a b := inferInstanceAs (Decidable (¬Before b a))
  toDecidableLT a b := inferInstanceAs (Decidable (Before a b))

lemma year_le {a b : WallClock} (h : a ≤ b) : a.year ≤ b.year := by
  rw [le_iff_not_lt, lt_iff] at h
  omega

/-! ## Valid clocks -/

/-- **On valid clocks the rank grows exactly with the order.**  The rank gives every month 31 days,
which no month exceeds. -/
theorem rank_lt_rank_iff {a b : WallClock} (ha : a.IsValid) (hb : b.IsValid) :
    a.rank < b.rank ↔ a < b := by
  have hla := monthLength_bounds a.year a.month
  have hlb := monthLength_bounds b.year b.month
  simp only [IsValid] at ha hb
  rw [lt_iff]
  simp only [rank]
  omega

/-- The least valid clock that is not before a raw one. -/
def IsCeilingOf (raw c : WallClock) : Prop :=
  IsLeast {u | u.IsValid ∧ raw ≤ u} c

/-- The greatest valid clock that is not after a raw one. -/
def IsFloorOf (raw c : WallClock) : Prop :=
  IsGreatest {u | u.IsValid ∧ u ≤ raw} c

lemma isCeilingOf_self {c : WallClock} (hc : c.IsValid) : IsCeilingOf c c :=
  ⟨⟨hc, le_rfl⟩, fun _ hu => hu.2⟩

lemma isFloorOf_self {c : WallClock} (hc : c.IsValid) : IsFloorOf c c :=
  ⟨⟨hc, le_rfl⟩, fun _ hu => hu.2⟩

/-- Two raw clocks with the same valid clocks from them on have the same ceiling. -/
lemma IsCeilingOf.congr {raw raw' c : WallClock} (h : IsCeilingOf raw' c)
    (heq : ∀ u : WallClock, u.IsValid → (raw ≤ u ↔ raw' ≤ u)) : IsCeilingOf raw c :=
  ⟨⟨h.1.1, (heq c h.1.1).2 h.1.2⟩, fun u hu => h.2 ⟨hu.1, (heq u hu.1).1 hu.2⟩⟩

/-- Two raw clocks with the same valid clocks up to them have the same floor. -/
lemma IsFloorOf.congr {raw raw' c : WallClock} (h : IsFloorOf raw' c)
    (heq : ∀ u : WallClock, u.IsValid → (u ≤ raw ↔ u ≤ raw')) : IsFloorOf raw c :=
  ⟨⟨h.1.1, (heq c h.1.1).2 h.1.2⟩, fun u hu => h.2 ⟨hu.1, (heq u hu.1).1 hu.2⟩⟩

end WallClock

/-! ## Instants -/

namespace Instant

/-- The order of instants by what they show; their offsets do not count. -/
instance : LT Instant :=
  ⟨fun a b => a.clock < b.clock ∨ a.clock = b.clock ∧ a.micros < b.micros⟩

instance : LE Instant :=
  ⟨fun a b => a.clock < b.clock ∨ a.clock = b.clock ∧ a.micros ≤ b.micros⟩

lemma lt_iff {a b : Instant} :
    a < b ↔ a.clock < b.clock ∨ a.clock = b.clock ∧ a.micros < b.micros := Iff.rfl

lemma le_iff {a b : Instant} :
    a ≤ b ↔ a.clock < b.clock ∨ a.clock = b.clock ∧ a.micros ≤ b.micros := Iff.rfl

instance : Preorder Instant where
  le_refl a := Or.inr ⟨rfl, le_rfl⟩
  le_trans a b c hab hbc := by
    rcases hab with hab | ⟨hab, habMicros⟩
    · rcases hbc with hbc | ⟨hbc, -⟩
      · exact Or.inl (hab.trans hbc)
      · exact Or.inl (hbc ▸ hab)
    · rcases hbc with hbc | ⟨hbc, hbcMicros⟩
      · exact Or.inl (hab ▸ hbc)
      · exact Or.inr ⟨hab.trans hbc, habMicros.trans hbcMicros⟩
  lt_iff_le_not_ge a b := by
    rw [lt_iff, le_iff, le_iff]
    rcases lt_trichotomy a.clock b.clock with h | h | h
    · simp [h, h.not_gt, h.ne']
    · simp only [h, lt_irrefl, false_or, true_and]
      omega
    · simp [h, h.not_gt, h.ne']

/-- An instant that can be built: a date of the years 1 to 9999 and a time of day. -/
def IsDatetime (t : Instant) : Prop :=
  t.clock.IsValid ∧ (firstYear ≤ t.clock.year ∧ t.clock.year ≤ lastYear) ∧ t.micros < 1000000

instance (t : Instant) : Decidable t.IsDatetime :=
  inferInstanceAs (Decidable (_ ∧ _ ∧ _))

variable {start : Instant} {u : WallClock}

/-- The instants on whole seconds are ordered like their clocks. -/
lemma withClock_mono (start : Instant) : Monotone start.withClock := fun _ _ h =>
  h.lt_or_eq.imp_right fun heq => ⟨heq, le_rfl⟩

lemma lt_withClock_iff : start < start.withClock u ↔ start.clock < u := by
  simp [lt_iff, withClock]

lemma withClock_lt_iff :
    start.withClock u < start ↔ u < start.clock ∨ u = start.clock ∧ 0 < start.micros := Iff.rfl

end Instant

end CronSchedule.Calendar
