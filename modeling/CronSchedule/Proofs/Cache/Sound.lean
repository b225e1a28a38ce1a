import CronSchedule.Cache.Request
import CronSchedule.Proofs.Outcome

/-!
# The cache changes no answer

A schedule is kept under a text only if it is the schedule of that text.  Every request keeps this
so, and with such a cache each answer is the one for which the expression is compiled anew.

* `ScheduleCache.Sound` — each kept schedule is the schedule of its text.
* `ScheduleCache.fresh` — the schedule of a value without a cache.
* **`request_fresh`**, **`Request.answer_fresh`** — one request; **`answerAll_fresh`** — a sequence
  of requests.
-/

namespace CronSchedule

open Log

/-! ## Entries -/

lemma Recent.mem_touch {κ α : Type} [DecidableEq κ] {capacity : Nat} {store : Recent κ α} {key : κ}
    {entry : α} {kept : κ × α} (h : kept ∈ (store.touch capacity key entry).entries) :
    kept = (key, entry) ∨ kept ∈ store.entries :=
  (List.mem_cons.1 (List.mem_of_mem_take h)).imp_right fun h => (List.mem_filter.1 h).1

lemma Recent.mem_of_find? {κ α : Type} [DecidableEq κ] {store : Recent κ α} {key : κ} {entry : α}
    (h : store.find? key = some entry) : (key, entry) ∈ store.entries := by
  obtain ⟨⟨key', entry'⟩, hfind, rfl⟩ := Option.map_eq_some_iff.1 h
  obtain rfl : key' = key := by simpa using List.find?_some hfind
  exact List.mem_of_find?_eq_some hfind

namespace ScheduleCache

variable {cache : ScheduleCache}

/-- Every schedule of the cache is the schedule of the text under which it is kept. -/
def Sound (cache : ScheduleCache) : Prop :=
  ∀ kept ∈ cache.kept.entries, Schedule.parse false kept.1.toList = .ok kept.2

/-- The schedule of a value that is compiled anew. -/
def fresh (value : Value) : Except ScheduleError Schedule :=
  if !value.isKey then .error (.notKey value.kind)
  else (compileValue value).value.mapError .failure

lemma fresh_text {key : String} {s : Schedule} (h : Schedule.parse false key.toList = .ok s) :
    fresh (.text key) = .ok s := by
  rw [fresh, value_compileValue_text, h]
  rfl

lemma sound_empty : empty.Sound :=
  fun _ h => by cases h

/-- What is found in the cache is what compiling gives. -/
lemma Sound.compileValue_eq (h : cache.Sound) {value : Value} {s : Schedule}
    (hfind : cache.find? value = some s) : (compileValue value).value = .ok s := by
  cases value with
  | text key =>
      rw [value_compileValue_text]
      exact h (key, s) (Recent.mem_of_find? hfind)
  | _ => cases hfind

lemma Sound.touch (h : cache.Sound) {key : String} {s : Schedule} {hits misses : Nat}
    (hparse : Schedule.parse false key.toList = .ok s) :
    Sound ⟨cache.kept.touch capacity key s, hits, misses⟩ := by
  intro kept hkept
  rcases Recent.mem_touch hkept with rfl | hkept
  · exact hparse
  · exact h kept hkept

lemma Sound.hit (h : cache.Sound) {value : Value} {s : Schedule}
    (hvalue : (compileValue value).value = .ok s) : (cache.hit value s).Sound := by
  cases value with
  | text key =>
      rw [value_compileValue_text] at hvalue
      exact h.touch hvalue
  | _ => exact h

lemma Sound.miss (h : cache.Sound) (value : Value) :
    (cache.miss value (compileValue value).value).Sound := by
  cases value with
  | text key =>
      rw [value_compileValue_text]
      cases hparse : Schedule.parse false key.toList with
      | error e => exact h
      | ok s => exact h.touch hparse
  | _ => exact h

/-- **A request gives the schedule that compiling gives**, and keeps the cache sound. -/
theorem request_fresh (h : cache.Sound) (value : Value) :
    (cache.request value).value.1 = fresh value ∧ (cache.request value).value.2.Sound := by
  unfold request fresh
  split
  · exact ⟨rfl, h⟩
  · cases hfind : cache.find? value with
    | none => exact ⟨rfl, h.miss value⟩
    | some s =>
        have hvalue := h.compileValue_eq hfind
        exact ⟨by rw [hvalue]; rfl, h.hit hvalue⟩

end ScheduleCache

/-! ## Requests -/

variable {cache : ScheduleCache}

lemma Request.answerFresh_value (r : Request) : r.answerFresh.value =
    match r.direct? with
    | some direct => direct.value
    | none => (r.answerWith (ScheduleCache.fresh r.expression)).value := by
  unfold answerFresh ScheduleCache.fresh
  cases r.direct? with
  | some direct => rfl
  | none => cases r.expression.isKey <;> rfl

/-- **A request is answered as if its expression were compiled anew.** -/
theorem Request.answer_fresh (h : cache.Sound) (r : Request) :
    (r.answer cache).value.1 = r.answerFresh.value ∧ (r.answer cache).value.2.Sound := by
  obtain ⟨hrequest, hsound⟩ := ScheduleCache.request_fresh h r.expression
  rw [answerFresh_value]
  unfold answer
  cases r.direct? with
  | some direct => exact ⟨rfl, h⟩
  | none => exact ⟨congrArg (fun outcome => (r.answerWith outcome).value) hrequest, hsound⟩

/-- **Every request of a sequence is answered as if its expression were compiled anew.** -/
theorem answerAll_fresh (h : cache.Sound) (requests : List Request) :
    (answerAll cache requests).value.map Prod.fst = requests.map (·.answerFresh.value) := by
  induction requests generalizing cache with
  | nil => rfl
  | cons r rest ih =>
      obtain ⟨hanswer, hsound⟩ := r.answer_fresh h
      exact List.cons_eq_cons.2 ⟨hanswer, ih hsound⟩

end CronSchedule
