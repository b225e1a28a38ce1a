import CronSchedule.Proofs.Expression.Compiled
import CronSchedule.Proofs.Search.Instants
import CronSchedule.Schedule

/-!
# The nearest fire times of a schedule

* `parse_eq_ok_iff`, `parse_wellFormed` — an expression that is parsed has a well-formed timetable.
* **`search_next`** — a search forward finds the first fire time after its start.
* **`search_previous`** — a search backward finds the last fire time before its start.
-/

namespace CronSchedule.Schedule

open Calendar Expression

variable {strict : Bool} {text : List Char} {s : Schedule} {start : Instant}

lemma parse_eq_ok_iff :
    parse strict text = .ok s ↔ ∃ t, compile strict text = .ok t ∧ make text t = s :=
  map_eq_ok_iff

/-- The lenient mode makes the same schedule. -/
lemma parse_lenient (h : parse strict text = .ok s) : parse false text = .ok s := by
  obtain ⟨t, hcompile, rfl⟩ := parse_eq_ok_iff.1 h
  obtain ⟨tokens, htokens, htimetable, -⟩ := compile_eq_ok_iff.1 hcompile
  exact parse_eq_ok_iff.2 ⟨t, compile_eq_ok_iff.2 ⟨tokens, htokens, htimetable, nofun⟩, rfl⟩

lemma parse_wellFormed (h : parse strict text = .ok s) : s.timetable.WellFormed := by
  obtain ⟨t, hcompile, rfl⟩ := parse_eq_ok_iff.1 h
  exact compile_wellFormed hcompile

/-- What a search reports can be read off a run of it. -/
lemma search_of_run {direction : Direction} {found : Option Instant}
    (h : ((parse strict text).toOption.bind fun s =>
      ((s.search start direction).map (·.instant)).toOption) = some found) :
    ∃ s result, parse strict text = .ok s ∧ s.search start direction = .ok result ∧
      result.instant = found := by
  obtain ⟨s, hs, hfound⟩ := exists_ok_of_toOption h
  obtain ⟨result, hresult, hinstant⟩ := map_eq_ok_iff.1 hfound
  exact ⟨s, result, hs, hresult, hinstant⟩

/-! ## Forward -/

/-- **A search forward finds the first fire time after its start.**  The result is the least
instant on a whole second, with the offset of the start, that is later than the start and that the
schedule accepts; there is no result exactly if there is no such instant. -/
theorem search_next (hs : parse strict text = .ok s) (hstart : start.IsDatetime) :
    ∃ result, s.search start .next = .ok result ∧
      FirstIn {t | t.IsDatetime ∧ t.micros = 0 ∧ t.offset = start.offset ∧ start < t ∧
        s.accepts t = .ok true} result.instant := by
  obtain ⟨found, hfound, hfirst⟩ := Timetable.next_firstIn (parse_wellFormed hs) hstart
  refine ⟨⟨found, s.text, .next⟩, by simp [search, nearest, hfound], ?_⟩
  have hset : {t | t.IsDatetime ∧ t.micros = 0 ∧ t.offset = start.offset ∧ start < t ∧
      s.accepts t = .ok true} = {t | t ∈ s.timetable.fireInstants start.offset ∧ start < t} := by
    ext t
    simp only [Timetable.fireInstants, accepts, Set.mem_ofPred_eq]
    tauto
  exact hset ▸ hfirst

/-- The last Friday of March 2024. -/
theorem search_next_last_friday :
    let start : Instant := ⟨⟨2024, 3, 1, 10, 15, 0⟩, 500000, none⟩
    ∃ s, parse false "0 15 10 ? * FRIL".toList = .ok s ∧ start.IsDatetime ∧
      FirstIn {t | t.IsDatetime ∧ t.micros = 0 ∧ t.offset = none ∧ start < t ∧
        s.accepts t = .ok true} (some ⟨⟨2024, 3, 29, 10, 15, 0⟩, 0, none⟩) := by
  intro start
  have hstart : start.IsDatetime := by decide
  obtain ⟨s, result, hs, hresult, hinstant⟩ :
      ∃ s result, parse false "0 15 10 ? * FRIL".toList = .ok s ∧
        s.search start .next = .ok result ∧
        result.instant = some ⟨⟨2024, 3, 29, 10, 15, 0⟩, 0, none⟩ :=
    search_of_run (by decide +kernel)
  obtain ⟨found, hfound, hfirst⟩ := search_next hs hstart
  obtain rfl : found = result := Except.ok.inj (hfound.symm.trans hresult)
  exact ⟨s, hs, hstart, hinstant ▸ hfirst⟩

/-! ## Backward -/

/-- **A search backward finds the last fire time before its start.**  The result is the greatest
instant on a whole second, with the offset of the start, that is earlier than the start and that the
schedule accepts; there is no result exactly if there is no such instant. -/
theorem search_previous (hs : parse strict text = .ok s) (hstart : start.IsDatetime) :
    ∃ result, s.search start .previous = .ok result ∧
      LastIn {t | t.IsDatetime ∧ t.micros = 0 ∧ t.offset = start.offset ∧ t < start ∧
        s.accepts t = .ok true} result.instant := by
  obtain ⟨found, hfound, hlast⟩ := Timetable.previous_lastIn (parse_wellFormed hs) hstart
  refine ⟨⟨found, s.text, .previous⟩, by simp [search, nearest, hfound], ?_⟩
  have hset : {t | t.IsDatetime ∧ t.micros = 0 ∧ t.offset = start.offset ∧ t < start ∧
      s.accepts t = .ok true} = {t | t ∈ s.timetable.fireInstants start.offset ∧ t < start} := by
    ext t
    simp only [Timetable.fireInstants, accepts, Set.mem_ofPred_eq]
    tauto
  exact hset ▸ hlast

/-- With microseconds, an instant comes after its own second. -/
theorem search_previous_own_second :
    let start : Instant := ⟨⟨2096, 2, 29, 10, 15, 0⟩, 1, some 0⟩
    ∃ s, parse false "0 15 10 29 2 ?".toList = .ok s ∧ start.IsDatetime ∧
      LastIn {t | t.IsDatetime ∧ t.micros = 0 ∧ t.offset = some 0 ∧ t < start ∧
        s.accepts t = .ok true} (some ⟨⟨2096, 2, 29, 10, 15, 0⟩, 0, some 0⟩) := by
  intro start
  have hstart : start.IsDatetime := by decide
  obtain ⟨s, result, hs, hresult, hinstant⟩ :
      ∃ s result, parse false "0 15 10 29 2 ?".toList = .ok s ∧
        s.search start .previous = .ok result ∧
        result.instant = some ⟨⟨2096, 2, 29, 10, 15, 0⟩, 0, some 0⟩ :=
    search_of_run (by decide +kernel)
  obtain ⟨found, hfound, hlast⟩ := search_previous hs hstart
  obtain rfl : found = result := Except.ok.inj (hfound.symm.trans hresult)
  exact ⟨s, hs, hstart, hinstant ▸ hlast⟩

end CronSchedule.Schedule
