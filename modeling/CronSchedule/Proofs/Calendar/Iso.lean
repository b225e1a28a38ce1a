import CronSchedule.Calendar.Iso
import CronSchedule.Proofs.Calendar.Order
import CronSchedule.Proofs.Outcome
import CronSchedule.Proofs.Text.Digits

/-!
# Instants that are read

* `WallClock.isValid_of_check` — fields that can be built are a date and a time of day.
* `readTimeFields_micros` — a time that is read has less than a second of microseconds.
* **`Instant.ofIso?_isDatetime`** — an instant that is read from an ISO text can be built.
-/

namespace CronSchedule.Calendar

open CronSchedule.Text

/-- Fields that can be built are a date of the calendar and a time of day. -/
lemma WallClock.isValid_of_check {c c' : WallClock} (h : c.check = .ok c') :
    c' = c ∧ c.IsValid ∧ firstYear ≤ c.year ∧ c.year ≤ lastYear := by
  simp only [check] at h
  split at h
  case isTrue => cases h
  case isFalse =>
    rw [bind_eq_ok_iff] at h
    obtain ⟨_, hdate, h⟩ := h
    rw [bind_eq_ok_iff] at h
    obtain ⟨_, htime, h⟩ := h
    obtain rfl := pure_eq_ok_iff.1 h
    simp only [checkDate] at hdate
    simp only [checkTime] at htime
    split_ifs at hdate htime with hword hyear hmonth hday hhour hminute hsecond
    refine ⟨rfl, ⟨?_, ?_, ?_, ?_, ?_⟩, ?_⟩ <;> omega

/-! ## Times -/

lemma takeDigits_lt {count value : Nat} {text rest : List Char}
    (h : takeDigits count text = some (value, rest)) : value < 10 ^ count := by
  simp only [takeDigits] at h
  split at h
  case isTrue hdigits =>
    rw [Bool.and_eq_true, decide_eq_true_iff, List.all_eq_true] at hdigits
    obtain ⟨hlength, hall⟩ := hdigits
    cases h
    have hlt := ofDigits_lt hall
    rwa [hlength] at hlt
  case isFalse => cases h

lemma TimePart.set_micros (t : TimePart) (index value : Nat) :
    (t.set index value).micros = t.micros := by
  unfold set
  split <;> rfl

/-- A fraction gives less than a second. -/
lemma readFraction_micros {t t' : TimePart} {text : List Char} (h : readFraction t text = some t') :
    t'.micros < 1000000 := by
  simp only [readFraction, Option.bind_eq_bind, Option.bind_eq_some_iff] at h
  obtain ⟨⟨value, rest⟩, hdigits, heq⟩ := h
  cases heq
  have hlt := takeDigits_lt hdigits
  have hcount : min 6 text.length ≤ 6 := Nat.min_le_left _ _
  generalize min 6 text.length = count at hlt hcount
  calc value * 10 ^ (6 - count) < 10 ^ count * 10 ^ (6 - count) :=
        Nat.mul_lt_mul_of_pos_right hlt (Nat.pow_pos (by decide))
    _ = 10 ^ 6 := by rw [← Nat.pow_add, Nat.add_sub_cancel' hcount]

/-- A time that is read has less than a second of microseconds. -/
lemma readTimeFields_micros {t t' : TimePart} {colons : Bool} {text : List Char}
    {index remaining : Nat} (ht : t.micros < 1000000)
    (h : readTimeFields t colons text index remaining = some t') : t'.micros < 1000000 := by
  induction remaining generalizing t colons text index with
  | zero => exact readFraction_micros h
  | succ remaining ih =>
      simp only [readTimeFields, Option.bind_eq_bind, Option.bind_eq_some_iff] at h
      obtain ⟨⟨value, rest⟩, -, h⟩ := h
      have hset : (t.set index value).micros < 1000000 := by rwa [TimePart.set_micros]
      cases rest with
      | nil =>
          cases h
          exact hset
      | cons mark rest =>
          dsimp only at h
          generalize (if index = 0 then mark == ':' else colons) = separated at h
          split_ifs at h
          · cases h
            exact hset
          · exact ih hset h
          · exact readFraction_micros h
          · exact ih hset h

/-- The time of day of a text, with or without an offset, has less than a second of
microseconds. -/
lemma readZonedTime_micros {text : List Char} {time : TimePart} {offset : Option Int}
    (h : readZonedTime text = some (time, offset)) : time.micros < 1000000 := by
  simp only [readZonedTime, Option.bind_eq_bind, Option.bind_eq_some_iff] at h
  obtain ⟨read, hread, h⟩ := h
  have hmicros := readTimeFields_micros (by decide) hread
  obtain rfl : read = time := by
    split at h
    case h_1 =>
      split_ifs at h
      cases h
      rfl
    case h_2 =>
      rw [Option.bind_eq_some_iff] at h
      obtain ⟨zone, -, h⟩ := h
      cases h
      rfl
  exact hmicros

/-! ## The whole text -/

lemma isDatetime_of_check {c c' : WallClock} {micros : Nat} {offset : Option Int}
    (h : c.check = .ok c') (hmicros : micros < 1000000) :
    Instant.IsDatetime ⟨c', micros, offset⟩ := by
  obtain ⟨rfl, hvalid, hyear⟩ := WallClock.isValid_of_check h
  exact ⟨hvalid, hyear, hmicros⟩

/-- **An instant that is read can be built.** -/
theorem Instant.ofIso?_isDatetime {text : List Char} {t : Instant} (h : ofIso? text = some t) :
    t.IsDatetime := by
  simp only [ofIso?, Option.bind_eq_bind] at h
  split at h
  case isTrue => cases h
  case isFalse =>
    simp only [Option.bind_eq_some_iff] at h
    obtain ⟨stop, -, ⟨year, month, day⟩, -, h⟩ := h
    split at h
    case h_1 =>
      -- a date alone, at its midnight
      rw [Option.bind_some] at h
      split at h
      case h_1 hcheck =>
        cases h
        exact isDatetime_of_check hcheck (by decide)
      case h_2 => cases h
    case h_2 =>
      obtain ⟨⟨time, offset⟩, htime, h⟩ := Option.bind_eq_some_iff.1 h
      split at h
      case h_1 hcheck =>
        cases h
        exact isDatetime_of_check hcheck (readZonedTime_micros htime)
      case h_2 => cases h

end CronSchedule.Calendar
