import CronSchedule.Proofs.Cache.Sound
import CronSchedule.Proofs.Schedule.Run

/-!
# Listing fire times

The fire times of a schedule can be pulled from a run one by one, listed, or asked for by the text
of the expression.  All ways give the same times.

* `Schedule.Gives` — the runs from an instant give the members of a list and then nothing.
* `answer_nextTimes` — what a request for fire times gives, whatever was requested before.
* **`listing_exact`** — runs and lists give the fire times ahead, in order and without a gap, and
  runs in the two directions retrace each other.
-/

namespace CronSchedule

open Calendar

namespace Schedule

variable {s : Schedule} {direction : Direction} {start stop : Instant} {times : List Instant}

/-- The runs from an instant give these times one after the other, up to their limit, and at every
later pull nothing. -/
def Gives (s : Schedule) (direction : Direction) (start : Instant) (times : List Instant) : Prop :=
  ∀ count, (Run.start s start direction none).pulls count = .ok (Run.outcomes times count) ∧
    ∀ limit : Nat, (Run.start s start direction (some limit)).pulls count =
      .ok (Run.outcomes (times.take limit) count)

lemma Follows.gives (h : s.Follows direction start times stop)
    (hend : s.nearest stop direction = .ok none) : s.Gives direction start times := by
  intro count
  have hpulls (limit : Option Int) :=
    @Run.pulls_eq (Run.start s start direction limit) stop times h hend count
  refine ⟨hpulls none, fun limit => ?_⟩
  rw [hpulls (some limit)]
  simp [Run.due, Run.start]

lemma checkCount_ok {count : Nat} (h : 1 ≤ count) (name : String) :
    checkCount name count = .ok count := by
  rw [checkCount, if_neg (by omega), Int.toNat_natCast]

lemma nextTimes_eq {count : Nat} (hcount : 1 ≤ count)
    (h : s.fireTimes .next count start = .ok times) : s.nextTimes count start = .ok times := by
  rw [nextTimes, checkCount_ok hcount]
  simp [Except.mapError, h]

/-! ## Requests -/

lemma timesLogged_value {count : Nat} (h : s.fireTimes .next count start = .ok times)
    (expression : Value) : (s.timesLogged expression start count).value = .ok times := by
  rw [timesLogged, Log.Logged.value_bind, fireTimesLogged, h]
  dsimp only
  split <;> rfl

/-- A request for a positive number of fire times is not refused. -/
lemma direct?_nextTimes {count : Nat} (hcount : 1 ≤ count) (expression : Value) :
    Request.direct? ⟨expression, .nextTimes start count⟩ = none := by
  simp [Request.direct?, Question.refusal?, Question.count?, checkCount_ok hcount]

/-- **A request for fire times gives the same list**, whatever was requested before. -/
theorem answer_nextTimes {text : List Char} {count : Nat} (hs : parse false text = .ok s)
    (hcount : 1 ≤ count) (h : s.fireTimes .next count start = .ok times)
    (history : List Request) :
    let request : Request := ⟨.text (String.ofList text), .nextTimes start count⟩
    ((answerAll .empty (history ++ [request])).value.map Prod.fst).getLast? =
      some (.ok (.instants times)) := by
  intro request
  have hparse : parse false (String.ofList text).toList = .ok s := by rwa [String.toList_ofList]
  have hfresh := ScheduleCache.fresh_text hparse
  rw [answerAll_fresh ScheduleCache.sound_empty, List.map_append, List.map_singleton,
    List.getLast?_concat, Request.answerFresh_value, direct?_nextTimes hcount]
  dsimp only
  rw [hfresh]
  simp [request, Request.answerWith, Question.answer, timesLogged_value h, Except.map]

/-! ## Runs and lists -/

/-- The run back from the last of some fire times gives the earlier ones. -/
lemma pulls_back {limit : Option Int} {count : Nat} {earlier : List Instant} {last : Instant}
    (hs : s.timetable.WellFormed) (hstart : start.IsDatetime)
    (h : (Run.start s start direction limit).pulls count = .ok ((earlier ++ [last]).map some)) :
    (Run.start s last direction.opposite none).pulls earlier.length =
      .ok (earlier.reverse.map some) := by
  obtain ⟨stop, hfollows⟩ := Run.follows_of_pulls h
  obtain ⟨first, hback⟩ := hfollows.retrace_last hs hstart
  rw [← List.length_reverse]
  exact Run.pulls_of_follows hback

/-- **Runs and lists give the fire times ahead, in order and without a gap.**  The runs forward from
an instant give exactly the fire times after it, in increasing order and up to their limit, and then
nothing at any pull; a list of the first fire times is the beginning of the same list, and so is the
answer to a request for them by the text of the expression.  The runs backward give the fire times
before the instant in decreasing order.  From the last fire time of a run, the run in the other
direction gives the earlier ones. -/
theorem listing_exact {strict : Bool} {text : List Char} (hs : parse strict text = .ok s)
    (hstart : start.IsDatetime) :
    (∃ times, Direction.next.Lists (s.ahead .next start) times ∧ s.Gives .next start times ∧
      ∀ count : Nat, 1 ≤ count → s.nextTimes count start = .ok (times.take count) ∧
        ∀ history : List Request,
          let request : Request := ⟨.text (String.ofList text), .nextTimes start count⟩
          ((answerAll .empty (history ++ [request])).value.map Prod.fst).getLast? =
            some (.ok (.instants (times.take count)))) ∧
    (∃ times, Direction.previous.Lists (s.ahead .previous start) times ∧
      s.Gives .previous start times) ∧
    ∀ direction limit count earlier last,
      (Run.start s start direction limit).pulls count = .ok ((earlier ++ [last]).map some) →
      (Run.start s last direction.opposite none).pulls earlier.length =
        .ok (earlier.reverse.map some) := by
  have hwellFormed := parse_wellFormed hs
  obtain ⟨later, _, hnext, hnextEnd, hlater⟩ := exists_follows hwellFormed hstart .next
  obtain ⟨earlier, _, hprevious, hpreviousEnd, hearlier⟩ :=
    exists_follows hwellFormed hstart .previous
  refine ⟨⟨later, hlater, hnext.gives hnextEnd, fun count hcount => ?_⟩,
    ⟨earlier, hearlier, hprevious.gives hpreviousEnd⟩, ?_⟩
  · have htimes := fireTimes_eq hnext hnextEnd count
    exact ⟨nextTimes_eq hcount htimes, answer_nextTimes (parse_lenient hs) hcount htimes⟩
  · intro direction limit count earlier last hpulls
    exact pulls_back hwellFormed hstart hpulls

/-- Two leap days after the leap day of 1996, and the way back from the second to the first. -/
theorem listing_leap_days :
    let start : Instant := ⟨⟨1996, 2, 29, 12, 0, 0⟩, 500000, some 3600000000⟩
    let leapDay (year : Int) : Instant := ⟨⟨year, 2, 29, 12, 0, 0⟩, 0, some 3600000000⟩
    ∃ s, parse true "0 0 12 29 2 ? 1996-2004".toList = .ok s ∧ start.IsDatetime ∧
      (∃ times, Direction.next.Lists (s.ahead .next start) times ∧ s.Gives .next start times ∧
        s.nextTimes 2 start = .ok (times.take 2)) ∧
      (Run.start s start .next (some 5)).pulls 2 = .ok [some (leapDay 2000), some (leapDay 2004)] ∧
      (Run.start s (leapDay 2004) .previous none).pulls 1 = .ok [some (leapDay 2000)] := by
  intro start leapDay
  have hstart : start.IsDatetime := by decide
  obtain ⟨s, hs, hpulls⟩ : ∃ s, parse true "0 0 12 29 2 ? 1996-2004".toList = .ok s ∧
      (Run.start s start .next (some 5)).pulls 2 =
        .ok [some (leapDay 2000), some (leapDay 2004)] :=
    exists_ok_of_toOption (by decide +kernel)
  obtain ⟨⟨times, hlists, hgives, hlist⟩, -, hback⟩ := listing_exact hs hstart
  exact ⟨s, hs, hstart, ⟨times, hlists, hgives, (hlist 2 (by decide)).1⟩, hpulls,
    hback .next (some 5) 2 [leapDay 2000] (leapDay 2004) hpulls⟩

end Schedule

end CronSchedule
