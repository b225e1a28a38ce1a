import CronSchedule.Proofs.Search.Rounds
import Mathlib.Data.List.TFAE

/-!
# Jumps and membership

A search looks for the nearest member of a set of values and jumps where that is not the value at
which the field stands; the test of a single clock looks the value up in the set.  Both ask the same
question, field by field and for the clock as a whole.

* `Verdict.toward_eq_stay_iff` — a field stays exactly where its value is the nearest one.
* `ceiling_eq_self_iff`, `floor_eq_self_iff` — a value is its own ceiling, and its own floor, exactly
  if it is a member.
* `dayVerdict_stay` — the day fields stay on a day that they accept.
* **`round_found_iff`** — a round ends the search on its candidate exactly if the timetable accepts
  it.
* **`jumps_agree`** — a set built from the values of a list, its jumps and its members.
-/

namespace CronSchedule

open Calendar

lemma Verdict.toward_eq_stay_iff {value : Int} {target : Option Int} :
    Verdict.toward value target = .stay ↔ target = some value := by
  cases target with
  | none => exact iff_of_false nofun nofun
  | some v =>
      dsimp only [Verdict.toward]
      split_ifs with hv
      · exact iff_of_true rfl (congrArg some hv)
      · exact iff_of_false nofun fun h => hv (Option.some.inj h)

namespace ValueSet

variable {set : ValueSet} {value : Int}

lemma ceiling_eq_self_iff : set.ceiling value = some value ↔ value ∈ set.members := by
  rw [(set.ceiling_firstIn value).eq_some_iff]
  exact ⟨fun h => h.1.1, fun hv => ⟨⟨hv, le_rfl⟩, fun _ hw => hw.2⟩⟩

lemma floor_eq_self_iff : set.floor value = some value ↔ value ∈ set.members := by
  rw [(set.floor_lastIn value).eq_some_iff]
  exact ⟨fun h => h.1.1, fun hv => ⟨⟨hv, le_rfl⟩, fun _ hw => hw.2⟩⟩

lemma ahead_eq_stay_iff : set.ahead value = .stay ↔ value ∈ set.members :=
  Verdict.toward_eq_stay_iff.trans ceiling_eq_self_iff

lemma behind_eq_stay_iff : set.behind value = .stay ↔ value ∈ set.members :=
  Verdict.toward_eq_stay_iff.trans floor_eq_self_iff

end ValueSet

/-! ## Rounds -/

namespace Timetable

variable {t : Timetable} {direction : Direction} {c : WallClock}

/-- The day fields stay on a day that they accept, whatever they say about other days. -/
lemma dayVerdict_stay (hc : c.IsValid) (h : t.dayMatches ⟨c.year, c.month, c.day⟩ = .ok true) :
    t.dayVerdict direction c = .ok .stay := by
  have hstay : Verdict.toward c.day (some c.day) = .stay := Verdict.toward_eq_stay_iff.2 rfl
  cases direction with
  | next =>
      have hhead := head?_integersFrom hc.2.1.2
      rw [dayVerdict, dayAhead, firstPassing_of_head hhead h, ok_bind, hstay]
      rfl
  | previous =>
      have hhead := head?_reverse_integersFrom hc.2.1.1
      rw [dayVerdict, dayBehind, firstPassing_of_head hhead h, ok_bind, hstay]
      rfl

/-- **A round ends the search on its candidate exactly if the timetable accepts it.** -/
theorem round_found_iff (hc : c.IsValid) :
    t.round direction c = .ok (.found c) ↔ t.accepts c = .ok true ∧ ¬direction.Beyond c := by
  constructor
  · intro h
    cases direction with
    | next =>
        obtain ⟨-, hfires, hrange⟩ := (forwardStep_outcome hc).of_eq_ok h
        exact ⟨hfires.2, not_lt.2 hrange⟩
    | previous =>
        obtain ⟨-, hfires, hrange⟩ := (backwardStep_outcome hc).of_eq_ok h
        exact ⟨hfires.2, not_lt.2 hrange⟩
  · rintro ⟨haccepts, hrange⟩
    obtain ⟨hyear, hmonth, hday, hhour, hminute, hsecond⟩ := accepts_eq_true_iff.1 haccepts
    have hdays : t.dayVerdict direction c = .ok .stay := dayVerdict_stay hc hday
    -- no field has a reason to move, so the round passes through all of them
    cases direction with
    | next =>
        have hwithin : ¬Field.year.high < c.year := hrange
        rw [dayVerdict] at hdays
        simp only [round, forwardStep, if_neg hwithin, hdays, ok_bind,
          ValueSet.ahead_eq_stay_iff.2 hyear, ValueSet.ahead_eq_stay_iff.2 hmonth,
          ValueSet.ahead_eq_stay_iff.2 hhour, ValueSet.ahead_eq_stay_iff.2 hminute,
          ValueSet.ahead_eq_stay_iff.2 hsecond]
        rfl
    | previous =>
        have hwithin : ¬c.year < Field.year.low := hrange
        rw [dayVerdict] at hdays
        simp only [round, backwardStep, if_neg hwithin, hdays, ok_bind,
          ValueSet.behind_eq_stay_iff.2 hyear, ValueSet.behind_eq_stay_iff.2 hmonth,
          ValueSet.behind_eq_stay_iff.2 hhour, ValueSet.behind_eq_stay_iff.2 hminute,
          ValueSet.behind_eq_stay_iff.2 hsecond]
        rfl

end Timetable

/-! ## Sets built from values -/

namespace ValueSet

variable {set : ValueSet} {values : List Int} {wildcard : Bool}

lemma mem_of_ofList? (h : ofList? values wildcard = some set) {v : Int} :
    v ∈ set.members ↔ v ∈ values := by
  rw [ofList?] at h
  split_ifs at h
  obtain rfl := Option.some.inj h
  exact mem_sortValues

lemma accepts_values_iff {v : Int} {date : Option Date} :
    (Constraint.values set).accepts v date = .ok true ↔ v ∈ set.members := by
  rw [Constraint.accepts, Except.ok.injEq, contains, List.contains_iff_mem]

/-- **A set of values jumps to the nearest of them and stays exactly on them.**  A set can be built
from every list that is not empty, whatever the order of its values and however often they stand in
it.  The ceiling of an integer is the least of the values that are not below it, the floor is the
greatest that are not above it, and neither exists exactly if there are no such values.  An integer
is its own ceiling exactly if it is its own floor, and exactly if the set accepts it; so a field
stays where it stands, in either direction, exactly if the set accepts the value.  The rounds of a
search agree with the test of a clock in the same way. -/
theorem jumps_agree :
    (∀ (values : List Int) (wildcard : Bool), values ≠ [] →
      ∃ set, ofList? values wildcard = some set ∧ ∀ (v : Int) (date : Option Date),
        FirstIn {w | w ∈ values ∧ v ≤ w} (set.ceiling v) ∧
        LastIn {w | w ∈ values ∧ w ≤ v} (set.floor v) ∧
        [set.ceiling v = some v, set.floor v = some v, set.ahead v = .stay, set.behind v = .stay,
          (Constraint.values set).accepts v date = .ok true, v ∈ values].TFAE) ∧
    ∀ (t : Timetable) (direction : Direction) (c : WallClock), c.IsValid →
      (t.round direction c = .ok (.found c) ↔ t.accepts c = .ok true ∧ ¬direction.Beyond c) := by
  refine ⟨fun values wildcard hvalues => ?_, fun t direction c => Timetable.round_found_iff⟩
  obtain ⟨set, hset⟩ : ∃ set, ofList? values wildcard = some set := ⟨_, dif_neg hvalues⟩
  refine ⟨set, hset, fun v date => ?_⟩
  simp only [← mem_of_ofList? hset]
  refine ⟨set.ceiling_firstIn v, set.floor_lastIn v, List.tfae_of_forall (v ∈ set.members) _ ?_⟩
  simp [ceiling_eq_self_iff, floor_eq_self_iff, ahead_eq_stay_iff, behind_eq_stay_iff,
    accepts_values_iff]

/-- The quarters of an hour, given out of order and one of them twice: probed between two members,
on one, above all and below all, and in the rounds of a search. -/
theorem jumps_agree_quarters :
    let values : List Int := [30, 0, 45, 15, 30]
    let set : ValueSet := ofValues 30 [0, 45, 15, 30] false
    let t : Timetable := ⟨set, set, .full .hour true, .unspecified, .full .month true,
      .unspecified, .full .year true⟩
    let c : WallClock := ⟨2024, 2, 29, 0, 15, 30⟩
    values ≠ [] ∧ ofList? values false = some set ∧
      FirstIn {w | w ∈ values ∧ 16 ≤ w} (some 30) ∧ LastIn {w | w ∈ values ∧ w ≤ 16} (some 15) ∧
      FirstIn {w | w ∈ values ∧ 46 ≤ w} none ∧ LastIn {w | w ∈ values ∧ w ≤ -1} none ∧
      set.ahead 15 = .stay ∧ set.behind 15 = .stay ∧
      c.IsValid ∧ ∀ direction, t.round direction c = .ok (.found c) := by
  intro values set t c
  have hvalues : values ≠ [] := nofun
  have hvalid : c.IsValid := by decide
  obtain ⟨hsets, hrounds⟩ := jumps_agree
  obtain ⟨built, hbuilt, hprobe⟩ := hsets values false hvalues
  obtain rfl : set = built := Option.some.inj hbuilt
  have hmatch : (Constraint.values set).accepts 15 none = .ok true := rfl
  have habove : set.ceiling 16 = some 30 := by decide +kernel
  have hbelow : set.floor 16 = some 15 := by decide +kernel
  have hpast : set.ceiling 46 = none := by decide +kernel
  have hbefore : set.floor (-1) = none := by decide +kernel
  have hmember := (hprobe 15 none).2.2
  refine ⟨hvalues, hbuilt, ?_, ?_, ?_, ?_, (hmember.out 2 4).2 hmatch, (hmember.out 3 4).2 hmatch,
    hvalid, ?_⟩
  · exact habove ▸ (hprobe 16 none).1
  · exact hbelow ▸ (hprobe 16 none).2.1
  · exact hpast ▸ (hprobe 46 none).1
  · exact hbefore ▸ (hprobe (-1) none).2.1
  · exact fun direction => (hrounds t direction c hvalid).2 ⟨rfl, by cases direction <;> decide⟩

end ValueSet

end CronSchedule
