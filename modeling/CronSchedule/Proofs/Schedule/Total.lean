import CronSchedule.Proofs.Schedule.Nearest
import CronSchedule.Proofs.Schedule.RoundTrip

/-!
# What a parsed expression can always be asked

The steps that can fail — a date that is not in the calendar, a shift out of its years, a number
without a name, a constraint of an unknown kind — do not fail for a well-formed timetable.

* `DaysDecided.accepts_ok` — there is an answer for every instant.
* `Constraint.WellFormed.describe_ok` — a well-formed constraint can be described.
* **`parsed_total`** — a parsed expression answers at every instant, can be searched from every
  instant, and has a text in every field.
-/

namespace CronSchedule

open Calendar

/-! ## Answers -/

/-- Where the day fields have their answers, there is an answer for every clock of the calendar. -/
lemma Timetable.DaysDecided.accepts_ok {t : Timetable} (ht : t.DaysDecided) {c : WallClock}
    (hc : c.IsValid) (hyear : firstYear ≤ c.year ∧ c.year ≤ lastYear) :
    ∃ accepted, t.accepts c = .ok accepted := by
  rw [Timetable.accepts]
  split
  · rename_i hdate
    obtain ⟨hmember, -⟩ := Bool.and_eq_true_iff.1 hdate
    obtain ⟨hmonth, hday, -⟩ := hc
    have hyears : c.year ∈ t.year.members := by simpa [ValueSet.contains] using hmember
    obtain ⟨matched, hmatched⟩ := ht c.year c.month c.day hyears hyear hmonth hday
    rw [hmatched, ok_bind]
    cases matched with
    | true => exact ⟨_, rfl⟩
    | false => exact ⟨false, rfl⟩
  · exact ⟨false, rfl⟩

/-! ## Descriptions -/

namespace Constraint

lemma weekdayWord_ok {weekday : Int} (hpos : 1 ≤ weekday) (hle : weekday ≤ 7) :
    ∃ word, weekdayWord weekday = .ok word := by
  interval_cases weekday <;> exact ⟨_, rfl⟩

lemma ordinal_ok {occurrence : Int} (hpos : 1 ≤ occurrence) (hle : occurrence ≤ 5) :
    ∃ word, ordinal occurrence = .ok word := by
  interval_cases occurrence <;> exact ⟨_, rfl⟩

lemma describeRule_ok {field : Field} {rule : DayRule} (h : rule.WellFormed field) :
    ∃ words, describeRule rule = .ok words := by
  cases h with
  | @lastDay before hnonneg hle =>
      rw [describeRule]
      split <;> exact ⟨_, rfl⟩
  | lastWorkday => exact ⟨_, rfl⟩
  | nearestWorkday hpos hle => exact ⟨_, rfl⟩
  | nthWeekday hpos hle hfirst hlast =>
      obtain ⟨word, hword⟩ := weekdayWord_ok hpos hle
      obtain ⟨place, hplace⟩ := ordinal_ok hfirst hlast
      rw [describeRule, hword, hplace]
      exact ⟨_, rfl⟩
  | lastWeekday hpos hle =>
      obtain ⟨word, hword⟩ := weekdayWord_ok hpos hle
      rw [describeRule, hword]
      exact ⟨_, rfl⟩

/-- A well-formed constraint can be described. -/
lemma WellFormed.describe_ok {field : Field} {constraint : Constraint}
    (h : constraint.WellFormed field) : ∃ words, constraint.describe = .ok words := by
  cases h with
  | @values set h =>
      rw [describe]
      split <;> exact ⟨_, rfl⟩
  | unspecified h => exact ⟨_, rfl⟩
  | rule h => exact describeRule_ok h

end Constraint

/-! ## Parsed expressions -/

namespace Schedule

variable {s : Schedule} {start : Instant}

/-- A search from an instant of the calendar has a result, and finds none but such instants. -/
lemma search_ok (hs : s.timetable.WellFormed) (hstart : start.IsDatetime) (direction : Direction) :
    ∃ result, s.search start direction = .ok result ∧
      ∀ found, result.instant = some found → found.IsDatetime := by
  obtain ⟨found, hfound, hnearest⟩ := nearest_spec hs hstart direction
  refine ⟨⟨found, s.text, direction⟩, by rw [search, hfound]; rfl, fun t ht => ?_⟩
  obtain rfl : found = some t := ht
  exact hnearest.1.1

/-- **A parsed expression can be asked everything at every instant of the calendar.**  It accepts
the instant or not, and from there it can be searched in both directions, which finds nothing but
instants of the calendar.  It has a canonical text, and every field has a constraint of a known
kind, which has a canonical text and a description. -/
theorem parsed_total {strict : Bool} {text : List Char} (hs : parse strict text = .ok s) :
    (∀ t : Instant, t.IsDatetime → (∃ accepted, s.accepts t = .ok accepted) ∧
      ∀ direction, ∃ result, s.search t direction = .ok result ∧
        ∀ found, result.instant = some found → found.IsDatetime) ∧
    (∃ canonical, s.canonical = .ok canonical) ∧
    ∀ field, (∀ kind, s.timetable.constraint field ≠ .foreign kind) ∧
      (∃ canonical, (s.timetable.constraint field).format field = .ok canonical) ∧
      ∃ words, (s.timetable.constraint field).describe = .ok words := by
  have hwellFormed := parse_wellFormed hs
  refine ⟨fun t ht => ⟨?_, search_ok hwellFormed ht⟩, ?_, fun field => ⟨?_, ?_, ?_⟩⟩
  · exact hwellFormed.daysDecided.accepts_ok ht.1 ht.2.1
  · obtain ⟨canonical, hcanonical, -⟩ := compile_canonical hwellFormed
    exact ⟨canonical, hcanonical⟩
  · intro kind hforeign
    have hfield := hwellFormed field
    rw [hforeign] at hfield
    cases hfield
  · obtain ⟨canonical, hcanonical, -⟩ := format_prints (hwellFormed field)
    exact ⟨canonical, hcanonical⟩
  · exact (hwellFormed field).describe_ok

/-- The last second of the last year that an expression can name, asked for at both ends of the
calendar. -/
theorem parsed_total_calendar_ends :
    let first : Instant := ⟨⟨1, 1, 1, 0, 0, 0⟩, 0, some 86340000000⟩
    let last : Instant := ⟨⟨9999, 12, 31, 23, 59, 59⟩, 999999, none⟩
    let text := "59 59 23 31W 12 6#5 2099".toList
    ∃ s, parse false text = .ok s ∧ s.canonical = .ok text ∧ first.IsDatetime ∧ last.IsDatetime ∧
      (∀ t ∈ [first, last], (∃ accepted, s.accepts t = .ok accepted) ∧
        ∀ direction, ∃ result, s.search t direction = .ok result ∧
          ∀ found, result.instant = some found → found.IsDatetime) ∧
      ∃ words, (s.timetable.constraint .dayOfWeek).describe = .ok words := by
  intro first last text
  have hfirst : first.IsDatetime := by decide
  have hlast : last.IsDatetime := by decide
  obtain ⟨s, hs, hcanonical⟩ : ∃ s, parse false text = .ok s ∧ s.canonical = .ok text :=
    exists_ok_of_toOption (by decide +kernel)
  obtain ⟨hinstants, -, hfields⟩ := parsed_total hs
  have hends : ∀ t ∈ [first, last], t.IsDatetime := by simp [hfirst, hlast]
  exact ⟨s, hs, hcanonical, hfirst, hlast, fun t ht => hinstants t (hends t ht),
    (hfields .dayOfWeek).2.2⟩

end Schedule

end CronSchedule
