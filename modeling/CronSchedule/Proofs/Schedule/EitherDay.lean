import CronSchedule.Proofs.Schedule.Nearest
import CronSchedule.Proofs.Schedule.Total

/-!
# Two day fields as two schedules

Where both day fields are restricted, either one may accept a day.  So the fire times are those of
two schedules, one for each of the day fields with the other one left open, and a search finds the
nearer of what the two searches find.  Where a day field is open, it does not matter which of the
marks `*` and `?` says so.

* `Direction.nearer` — the nearer of two results; **`Nearest.union`** — it is what there is in the
  union of two sets.
* `Timetable.withDay` — a timetable with another constraint in a day field.
* `accepts_either`, `accepts_exchanged` — what the two schedules accept, and what the marks mean.
* `nearest_either`, `nearest_exchanged` — what searches find, from that.
* **`either_day`** — matching and searching with two day fields.
-/

namespace CronSchedule

open Calendar

/-! ## The nearer of two results -/

instance : DecidableLT Instant := fun a b =>
  inferInstanceAs (Decidable (a.clock < b.clock ∨ a.clock = b.clock ∧ a.micros < b.micros))

/-- Whatever lies between two instants or beside them, it is later than the first one or earlier
than the second. -/
lemma lt_or_lt_instant {a c : Instant} (h : a < c) (b : Instant) : a < b ∨ b < c := by
  rcases lt_trichotomy a.clock b.clock with hab | hab | hba
  · exact Or.inl (Or.inl hab)
  · rcases h with hac | ⟨hac, hmicros⟩
    · exact Or.inr (Or.inl (hab ▸ hac))
    · rcases Nat.lt_or_ge a.micros b.micros with hlt | hge
      · exact Or.inl (Or.inr ⟨hab, hlt⟩)
      · exact Or.inr (Or.inr ⟨hab.symm.trans hac, hge.trans_lt hmicros⟩)
  · rcases h with hac | ⟨hac, -⟩
    · exact Or.inr (Or.inl (hba.trans hac))
    · exact Or.inr (Or.inl (hac ▸ hba))

namespace Direction

instance (direction : Direction) (a b : Instant) : Decidable (direction.Passes a b) :=
  match direction with
  | .next => inferInstanceAs (Decidable (a < b))
  | .previous => inferInstanceAs (Decidable (b < a))

/-- The nearer of two results of searches in a direction; if one search found nothing, that of the
other. -/
def nearer (direction : Direction) : Option Instant → Option Instant → Option Instant
  | none, b => b
  | some a, none => some a
  | some a, some b => if direction.Passes a b then some a else some b

variable {direction : Direction} {A B : Set Instant} {a b : Option Instant}

lemma Passes.or_passes {a c : Instant} (h : direction.Passes a c) (b : Instant) :
    direction.Passes a b ∨ direction.Passes b c := by
  cases direction with
  | next => exact lt_or_lt_instant h b
  | previous => exact (lt_or_lt_instant h b).symm

/-- **The nearer of two results is the nearest in the union.** -/
theorem Nearest.union (ha : direction.Nearest A a) (hb : direction.Nearest B b) :
    direction.Nearest (A ∪ B) (direction.nearer a b) := by
  cases a with
  | none =>
      obtain rfl : A = ∅ := ha
      rwa [Set.empty_union]
  | some a =>
      obtain ⟨haMem, haFirst⟩ := ha
      cases b with
      | none =>
          obtain rfl : B = ∅ := hb
          rw [Set.union_empty]
          exact ⟨haMem, haFirst⟩
      | some b =>
          obtain ⟨hbMem, hbFirst⟩ := hb
          rw [nearer]
          split_ifs with hab
          · refine ⟨Or.inl haMem, ?_⟩
            rintro u (hu | hu) hpasses
            · exact haFirst u hu hpasses
            · exact hbFirst u hu (hpasses.trans hab)
          · refine ⟨Or.inr hbMem, ?_⟩
            rintro u (hu | hu) hpasses
            · exact (hpasses.or_passes a).elim (haFirst u hu) hab
            · exact hbFirst u hu hpasses

end Direction

/-! ## Timetables with another day field -/

namespace Timetable

variable {t : Timetable} {field : Field} {constraint : Constraint}

/-- The timetable with another constraint in a day field. -/
def withDay (t : Timetable) (field : Field) (constraint : Constraint) : Timetable :=
  match field with
  | .dayOfMonth => { t with dayOfMonth := constraint }
  | .dayOfWeek => { t with dayOfWeek := constraint }
  | _ => t

@[simp] lemma second_withDay : (t.withDay field constraint).second = t.second := by
  cases field <;> rfl

@[simp] lemma minute_withDay : (t.withDay field constraint).minute = t.minute := by
  cases field <;> rfl

@[simp] lemma hour_withDay : (t.withDay field constraint).hour = t.hour := by
  cases field <;> rfl

@[simp] lemma month_withDay : (t.withDay field constraint).month = t.month := by
  cases field <;> rfl

@[simp] lemma year_withDay : (t.withDay field constraint).year = t.year := by
  cases field <;> rfl

lemma constraint_withDay (hday : field.isDay = true) (other : Field) :
    (t.withDay field constraint).constraint other =
      if other = field then constraint else t.constraint other := by
  cases field with
  | dayOfMonth => cases other <;> rfl
  | dayOfWeek => cases other <;> rfl
  | _ => cases hday

lemma WellFormed.withDay (ht : t.WellFormed) (hday : field.isDay = true)
    (hconstraint : constraint.WellFormed field) : (t.withDay field constraint).WellFormed := by
  intro other
  rw [constraint_withDay hday]
  split_ifs with heq
  · exact heq ▸ hconstraint
  · exact ht other

/-- **With two restricted day fields, a date is accepted when one of them alone accepts it.** -/
theorem dayMatches_either (ht : t.WellFormed) (hmonth : t.dayOfMonth.isRestricted = true)
    (hweek : t.dayOfWeek.isRestricted = true) {date : Date} (hdate : date.IsValid) :
    ∃ byMonth byWeek, (t.withDay .dayOfWeek .unspecified).dayMatches date = .ok byMonth ∧
      (t.withDay .dayOfMonth .unspecified).dayMatches date = .ok byWeek ∧
      t.dayMatches date = .ok (byMonth || byWeek) := by
  obtain ⟨byMonth, hbyMonth⟩ := (ht .dayOfMonth).accepts_ok date.day hdate
  obtain ⟨byWeek, hbyWeek⟩ :=
    (ht .dayOfWeek).accepts_ok (weekdayOf date.year date.month date.day) hdate
  have hbyMonth : t.dayOfMonth.accepts date.day (some date) = .ok byMonth := hbyMonth
  have hbyWeek : t.weekdayMatches date = .ok byWeek := by
    rw [weekdayMatches, checkDate_ok hdate]
    exact hbyWeek
  have hopen : Constraint.unspecified.isRestricted = false := rfl
  refine ⟨byMonth, byWeek, ?_, ?_, ?_⟩
  · simp only [dayMatches, withDay, hmonth, hopen, hbyMonth]
    cases byMonth <;> rfl
  · simp only [dayMatches, withDay, hweek, hopen]
    exact hbyWeek
  · simp only [dayMatches, hmonth, hweek, hbyMonth, hbyWeek]
    cases byMonth <;> rfl

/-- In an open day field, it does not matter how it is left open. -/
lemma dayMatches_exchanged (hday : field.isDay = true)
    (hopen : (t.constraint field).isRestricted = false)
    (hconstraint : constraint.isRestricted = false) (date : Date) :
    (t.withDay field constraint).dayMatches date = t.dayMatches date := by
  cases field with
  | dayOfMonth =>
      have hopen : t.dayOfMonth.isRestricted = false := hopen
      simp only [dayMatches, withDay, hopen, hconstraint]
      rfl
  | dayOfWeek =>
      have hopen : t.dayOfWeek.isRestricted = false := hopen
      simp only [dayMatches, withDay, hopen, hconstraint]
      rfl
  | _ => cases hday

/-- An open day field of a well-formed timetable is a `?` or a `*`. -/
lemma WellFormed.open_cases (ht : t.WellFormed)
    (hopen : (t.constraint field).isRestricted = false) :
    t.constraint field = .unspecified ∨ t.constraint field = .values (.full field true) := by
  have hfield := ht field
  generalize t.constraint field = constraint at hopen hfield
  cases hfield with
  | unspecified h => exact Or.inl rfl
  | rule h => cases hopen
  | @values set h =>
      have hmark : set.wildcard = true := by simpa [Constraint.isRestricted] using hopen
      have hall : set = .full field true :=
        ValueSet.eq_of_toSet ((h.full hmark).trans (ValueSet.toSet_full field true).symm) hmark
      exact Or.inr (by rw [hall])

/-- **With two restricted day fields, a clock is accepted when it is with one of them alone.** -/
theorem accepts_either (ht : t.WellFormed) (hmonth : t.dayOfMonth.isRestricted = true)
    (hweek : t.dayOfWeek.isRestricted = true) {c : WallClock} (hc : c.IsValid)
    (hyear : firstYear ≤ c.year ∧ c.year ≤ lastYear) :
    ∃ byMonth byWeek, (t.withDay .dayOfWeek .unspecified).accepts c = .ok byMonth ∧
      (t.withDay .dayOfMonth .unspecified).accepts c = .ok byWeek ∧
      t.accepts c = .ok (byMonth || byWeek) := by
  have hdate : Date.IsValid ⟨c.year, c.month, c.day⟩ := ⟨hyear, hc.1, hc.2.1⟩
  obtain ⟨byMonth, byWeek, hbyMonth, hbyWeek, heither⟩ := dayMatches_either ht hmonth hweek hdate
  simp only [accepts, year_withDay, month_withDay, hour_withDay, minute_withDay, second_withDay,
    hbyMonth, hbyWeek, heither]
  split_ifs
  · cases byMonth with
    | true => cases byWeek <;> exact ⟨_, _, rfl, rfl, by simp⟩
    | false => cases byWeek <;> exact ⟨_, _, rfl, rfl, by simp⟩
  · exact ⟨false, false, rfl, rfl, rfl⟩

lemma accepts_exchanged (hday : field.isDay = true)
    (hopen : (t.constraint field).isRestricted = false)
    (hconstraint : constraint.isRestricted = false) (c : WallClock) :
    (t.withDay field constraint).accepts c = t.accepts c := by
  simp only [accepts, year_withDay, month_withDay, hour_withDay, minute_withDay, second_withDay,
    dayMatches_exchanged hday hopen hconstraint]

end Timetable

/-! ## Searches -/

namespace Schedule

variable {s u : Schedule} {direction : Direction} {start : Instant}

/-- The schedule with another constraint in a day field. -/
def withDay (s : Schedule) (field : Field) (constraint : Constraint) : Schedule :=
  ⟨s.text, s.timetable.withDay field constraint⟩

/-- A search finds nothing else than what lies nearest ahead of its start. -/
lemma nearest_eq_of_ahead (hs : s.timetable.WellFormed) (hstart : start.IsDatetime)
    {found : Option Instant} (hfound : direction.Nearest (s.ahead direction start) found) :
    s.nearest start direction = .ok found := by
  obtain ⟨result, hresult, hnearest⟩ := nearest_spec hs hstart direction
  rw [hresult]
  cases found with
  | none =>
      cases result with
      | none => rfl
      | some t => exact absurd hnearest.1 (Set.eq_empty_iff_forall_notMem.1 hfound t)
  | some v =>
      cases result with
      | none => exact absurd hfound.1 (Set.eq_empty_iff_forall_notMem.1 hnearest v)
      | some t =>
          obtain ⟨ht, htFirst⟩ := hnearest
          obtain ⟨hv, hvFirst⟩ := hfound
          have hmicros : t.micros = v.micros := ht.2.1.trans hv.2.1.symm
          have hoffset : t.offset = v.offset := ht.2.2.1.trans hv.2.2.1.symm
          rcases direction.passes_trichotomy hmicros hoffset with h | rfl | h
          · exact absurd h (hvFirst t ht)
          · rfl
          · exact absurd h (htFirst v hv)

/-- With two restricted day fields, what lies ahead is ahead for one of them alone. -/
lemma ahead_either (hs : s.timetable.WellFormed)
    (hmonth : s.timetable.dayOfMonth.isRestricted = true)
    (hweek : s.timetable.dayOfWeek.isRestricted = true) :
    s.ahead direction start =
      (s.withDay .dayOfWeek .unspecified).ahead direction start ∪
        (s.withDay .dayOfMonth .unspecified).ahead direction start := by
  ext t
  have haccepts (ht : t.IsDatetime) :=
    Timetable.accepts_either hs hmonth hweek ht.1 ht.2.1
  simp only [ahead, accepts, withDay, Set.mem_union, Set.mem_ofPred_eq]
  constructor
  · rintro ⟨ht, hmicros, hoffset, hpasses, htrue⟩
    obtain ⟨m, w, hm, hw, hor⟩ := haccepts ht
    rw [htrue] at hor
    rcases Bool.or_eq_true_iff.1 (Except.ok.inj hor).symm with rfl | rfl
    · exact Or.inl ⟨ht, hmicros, hoffset, hpasses, hm⟩
    · exact Or.inr ⟨ht, hmicros, hoffset, hpasses, hw⟩
  · rintro (⟨ht, hmicros, hoffset, hpasses, htrue⟩ | ⟨ht, hmicros, hoffset, hpasses, htrue⟩)
    · obtain ⟨m, w, hm, hw, hor⟩ := haccepts ht
      obtain rfl : m = true := Except.ok.inj (hm.symm.trans htrue)
      exact ⟨ht, hmicros, hoffset, hpasses, hor⟩
    · obtain ⟨m, w, hm, hw, hor⟩ := haccepts ht
      obtain rfl : w = true := Except.ok.inj (hw.symm.trans htrue)
      exact ⟨ht, hmicros, hoffset, hpasses, by rw [hor, Bool.or_true]⟩

/-- **With two restricted day fields, a search finds the nearer of what the searches with one of
them find.** -/
theorem nearest_either (hs : s.timetable.WellFormed)
    (hmonth : s.timetable.dayOfMonth.isRestricted = true)
    (hweek : s.timetable.dayOfWeek.isRestricted = true) (hstart : start.IsDatetime)
    (direction : Direction) :
    ∃ byMonth byWeek,
      (s.withDay .dayOfWeek .unspecified).nearest start direction = .ok byMonth ∧
      (s.withDay .dayOfMonth .unspecified).nearest start direction = .ok byWeek ∧
      s.nearest start direction = .ok (direction.nearer byMonth byWeek) := by
  have hbyMonth : (s.withDay .dayOfWeek .unspecified).timetable.WellFormed :=
    hs.withDay rfl (.unspecified rfl)
  have hbyWeek : (s.withDay .dayOfMonth .unspecified).timetable.WellFormed :=
    hs.withDay rfl (.unspecified rfl)
  obtain ⟨byMonth, hfoundMonth, hnearestMonth⟩ := nearest_spec hbyMonth hstart direction
  obtain ⟨byWeek, hfoundWeek, hnearestWeek⟩ := nearest_spec hbyWeek hstart direction
  refine ⟨byMonth, byWeek, hfoundMonth, hfoundWeek, nearest_eq_of_ahead hs hstart ?_⟩
  rw [ahead_either hs hmonth hweek]
  exact hnearestMonth.union hnearestWeek

/-- A search does not depend on how an open day field is left open. -/
lemma nearest_exchanged (hs : s.timetable.WellFormed) {field : Field} {constraint : Constraint}
    (hday : field.isDay = true) (hopen : (s.timetable.constraint field).isRestricted = false)
    (hconstraint : constraint.WellFormed field) (hexchanged : constraint.isRestricted = false)
    (hstart : start.IsDatetime) (direction : Direction) :
    (s.withDay field constraint).nearest start direction = s.nearest start direction := by
  obtain ⟨found, hfound, hnearest⟩ := nearest_spec hs hstart direction
  have hahead : (s.withDay field constraint).ahead direction start = s.ahead direction start := by
    ext t
    simp only [ahead, accepts, withDay, Timetable.accepts_exchanged hday hopen hexchanged]
  rw [hfound, nearest_eq_of_ahead (hs.withDay hday hconstraint) hstart (hahead ▸ hnearest)]

lemma search_eq {found : Option Instant} (h : s.nearest start direction = .ok found) :
    s.search start direction = .ok ⟨found, s.text, direction⟩ := by
  rw [search, h]
  rfl

/-- **Two restricted day fields act as two schedules**, one for each of them with the other one left
open.  An instant is accepted when one of the two accepts it; the search forward finds the earlier
of what the two searches find, and the search backward the later, and nothing if both find nothing.
An open day field is a `?` or a `*`, and it can be exchanged for the other one: this changes neither
what is accepted nor what is found. -/
theorem either_day {strict : Bool} {text : List Char} (hs : parse strict text = .ok s)
    (hstart : start.IsDatetime) :
    (s.timetable.eitherDayMatches = true →
      (∃ byMonth byWeek, (s.withDay .dayOfWeek .unspecified).accepts start = .ok byMonth ∧
        (s.withDay .dayOfMonth .unspecified).accepts start = .ok byWeek ∧
        s.accepts start = .ok (byMonth || byWeek)) ∧
      ∀ direction, ∃ found byMonth byWeek, s.search start direction = .ok found ∧
        (s.withDay .dayOfWeek .unspecified).search start direction = .ok byMonth ∧
        (s.withDay .dayOfMonth .unspecified).search start direction = .ok byWeek ∧
        found.instant = direction.nearer byMonth.instant byWeek.instant) ∧
    ∀ field : Field, field.isDay = true → (s.timetable.constraint field).isRestricted = false →
      (s.timetable.constraint field = .unspecified ∨
        s.timetable.constraint field = .values (.full field true)) ∧
      ∀ mark ∈ [Constraint.unspecified, .values (.full field true)],
        (s.withDay field mark).accepts start = s.accepts start ∧
        ∀ direction, (s.withDay field mark).search start direction = s.search start direction := by
  have hwellFormed := parse_wellFormed hs
  refine ⟨fun heither => ?_, fun field hday hopen => ?_⟩
  · obtain ⟨hmonth, hweek⟩ := Bool.and_eq_true_iff.1 heither
    refine ⟨?_, fun direction => ?_⟩
    · exact Timetable.accepts_either hwellFormed hmonth hweek hstart.1 hstart.2.1
    · obtain ⟨byMonth, byWeek, hbyMonth, hbyWeek, hfound⟩ :=
        nearest_either hwellFormed hmonth hweek hstart direction
      exact ⟨_, _, _, search_eq hfound, search_eq hbyMonth, search_eq hbyWeek, rfl⟩
  · refine ⟨hwellFormed.open_cases hopen, fun mark hmark => ?_⟩
    have hmark : mark.WellFormed field ∧ mark.isRestricted = false := by
      rcases List.mem_pair.1 hmark with rfl | rfl
      · exact ⟨.unspecified hday, rfl⟩
      · exact ⟨.values (ValueSet.full_wellFormed field true), rfl⟩
    obtain ⟨hconstraint, hexchanged⟩ := hmark
    refine ⟨Timetable.accepts_exchanged hday hopen hexchanged start.clock, fun direction => ?_⟩
    obtain ⟨found, hfound, -⟩ := nearest_spec hwellFormed hstart direction
    have hsame := nearest_exchanged hwellFormed hday hopen hconstraint hexchanged hstart direction
    rw [search_eq hfound, search_eq (hsame.trans hfound)]
    rfl

/-- From noon on Friday the 13th: the next Friday comes before the next 13th, and with a `*` for
the weekday, a `?` would do as well. -/
theorem either_day_friday_13th :
    let start : Instant := ⟨⟨2024, 9, 13, 12, 0, 0⟩, 0, none⟩
    start.IsDatetime ∧
    (∃ s, parse false "0 0 12 13 * FRI".toList = .ok s ∧ s.timetable.eitherDayMatches = true ∧
      ∃ found byMonth byWeek, s.search start .next = .ok found ∧
        (s.withDay .dayOfWeek .unspecified).search start .next = .ok byMonth ∧
        (s.withDay .dayOfMonth .unspecified).search start .next = .ok byWeek ∧
        found.instant = Direction.next.nearer byMonth.instant byWeek.instant) ∧
    ∃ s, parse false "0 0 12 13 * *".toList = .ok s ∧
      (s.timetable.constraint .dayOfWeek).isRestricted = false ∧
      (s.withDay .dayOfWeek .unspecified).search start .previous = s.search start .previous := by
  intro start
  have hstart : start.IsDatetime := by decide
  refine ⟨hstart, ?_, ?_⟩
  · obtain ⟨s, hs, heither⟩ : ∃ s, parse false "0 0 12 13 * FRI".toList = .ok s ∧
        (Except.ok s.timetable.eitherDayMatches : Except Unit Bool) = .ok true :=
      exists_ok_of_toOption (by decide +kernel)
    have heither : s.timetable.eitherDayMatches = true := Except.ok.inj heither
    exact ⟨s, hs, heither, ((either_day hs hstart).1 heither).2 .next⟩
  · obtain ⟨s, hs, hopen⟩ : ∃ s, parse false "0 0 12 13 * *".toList = .ok s ∧
        (Except.ok (s.timetable.constraint .dayOfWeek).isRestricted : Except Unit Bool) =
          .ok false :=
      exists_ok_of_toOption (by decide +kernel)
    have hopen : (s.timetable.constraint .dayOfWeek).isRestricted = false := Except.ok.inj hopen
    obtain ⟨-, hexchange⟩ := (either_day hs hstart).2 .dayOfWeek rfl hopen
    exact ⟨s, hs, hopen, (hexchange .unspecified (by simp)).2 .previous⟩

end Schedule

end CronSchedule
