import CronSchedule.Proofs.Cache.Sound
import Mathlib.Data.List.Dedup
import Mathlib.Data.List.Infix

/-!
# What the cache holds

What the cache holds is decided by the texts that were looked up in it: of those that compile, the
distinct ones that were asked for last, as many as it has room for.  A question that is refused
before, or that only asks for validity, looks nothing up.

* `Question.looksUp`, `lookedUp` — the texts of a history that were looked up in the cache.
* `latest` — the distinct texts of a history that compile, the one that was asked for last in front.
* `ScheduleCache.Holds` — the cache holds what a history of texts should leave in it.
* `Holds.request` — a request adds its text to the history; **`exists_holds`** — and so does every
  request of a sequence.
* **`history_exact`** — the answers of a sequence of requests and the cache after each of them.
-/

namespace CronSchedule

open Log

/-! ## Keys in the order of their last use -/

section

variable {κ α : Type} [DecidableEq κ]

/-- The last member of a list is the last of its distinct members, wherever else it occurs. -/
lemma dedup_concat (keys : List κ) (key : κ) :
    (keys ++ [key]).dedup = keys.dedup.filter (· ≠ key) ++ [key] := by
  induction keys with
  | nil => simp
  | cons head rest ih =>
      by_cases hrest : head ∈ rest
      · rw [List.cons_append, List.dedup_cons_of_mem (List.mem_append_left _ hrest),
          List.dedup_cons_of_mem hrest, ih]
      · rw [List.dedup_cons_of_notMem hrest]
        by_cases hkey : head = key
        · subst hkey
          rw [List.cons_append, List.dedup_cons_of_mem (by simp), ih]
          simp
        · rw [List.cons_append, List.dedup_cons_of_notMem (by simp [hrest, hkey]), ih]
          simp [hkey]

/-- A key that is moved to the front makes room for one other key at most, so what a store had no
room for before does not come back. -/
lemma take_cons_filter_take {keys : List κ} (hkeys : keys.Nodup) (key : κ) (capacity : Nat) :
    (key :: (keys.take capacity).filter (· ≠ key)).take capacity
      = (key :: keys.filter (· ≠ key)).take capacity := by
  cases capacity with
  | zero => rfl
  | succ room =>
      rw [List.take_succ_cons, List.take_succ_cons]
      congr 1
      rcases Nat.lt_or_ge room keys.length with hlong | hshort
      · have hnodup : (keys.take (room + 1)).Nodup := hkeys.sublist (List.take_sublist _ _)
        have hroom : room ≤ ((keys.take (room + 1)).filter (· ≠ key)).length := by
          have hlength := List.le_length_erase (a := key) (l := keys.take (room + 1))
          rw [hnodup.erase_eq_filter, List.length_take, Nat.min_eq_left hlong] at hlength
          simpa [bne, beq_eq_decide] using hlength
        calc ((keys.take (room + 1)).filter (· ≠ key)).take room
            = ((keys.take (room + 1)).filter (· ≠ key)
                ++ (keys.drop (room + 1)).filter (· ≠ key)).take room :=
              (List.take_append_of_le_length hroom).symm
          _ = (keys.filter (· ≠ key)).take room := by
              rw [← List.filter_append, List.take_append_drop]
      · rw [List.take_of_length_le (Nat.le_succ_of_le hshort)]

/-- The keys of a store, the one that was used last in front. -/
def Recent.keys (store : Recent κ α) : List κ :=
  store.entries.map (·.1)

lemma Recent.keys_touch (capacity : Nat) (store : Recent κ α) (key : κ) (entry : α) :
    (store.touch capacity key entry).keys
      = (key :: store.keys.filter (· ≠ key)).take capacity := by
  simp only [keys, touch, List.map_take, List.map_cons, List.filter_map]
  rfl

end

/-! ## Histories of texts -/

/-- Whether a text compiles. -/
def hasSchedule (text : String) : Bool :=
  (Schedule.parse false text.toList).toOption.isSome

/-- The distinct texts of a history that compile, the one that was asked for last in front. -/
def latest (texts : List String) : List String :=
  (texts.filter hasSchedule).dedup.reverse

variable {texts : List String} {text : String}

lemma nodup_latest (texts : List String) : (latest texts).Nodup :=
  List.nodup_reverse.2 (List.nodup_dedup _)

lemma latest_concat (h : hasSchedule text = true) :
    latest (texts ++ [text]) = text :: (latest texts).filter (· ≠ text) := by
  rw [latest, List.filter_append, List.filter_singleton, h, cond_true, dedup_concat,
    List.reverse_append, List.reverse_singleton, ← List.filter_reverse]
  rfl

lemma latest_concat_of_failure (h : hasSchedule text = false) :
    latest (texts ++ [text]) = latest texts := by
  rw [latest, List.filter_append, List.filter_singleton, h, cond_false, List.append_nil]
  rfl

/-! ## The cache after a history -/

namespace ScheduleCache

variable {cache : ScheduleCache}

/-- A cache after the texts of a history were looked up in it. -/
structure Holds (cache : ScheduleCache) (texts : List String) : Prop where
  /-- It keeps those that compile, the latest in front, as many as it has room for. -/
  keys : cache.kept.keys = (latest texts).take capacity
  /-- Each is kept with its schedule. -/
  sound : cache.Sound
  /-- Every text was found or not. -/
  counted : cache.hits + cache.misses = texts.length

lemma holds_empty : empty.Holds [] :=
  ⟨rfl, sound_empty, rfl⟩

lemma Holds.size_le (h : cache.Holds texts) : cache.kept.size ≤ capacity := by
  have hsize : cache.kept.size = cache.kept.keys.length := (List.length_map _).symm
  rw [hsize, h.keys]
  exact List.length_take_le _ _

/-- A text that compiles comes to the front, whether it was found or not. -/
lemma Holds.touch (h : cache.Holds texts) {s : Schedule} {hits misses : Nat}
    (hs : Schedule.parse false text.toList = .ok s)
    (hcounted : hits + misses = cache.hits + cache.misses + 1) :
    Holds ⟨cache.kept.touch capacity text s, hits, misses⟩ (texts ++ [text]) where
  keys := by
    have hschedule : hasSchedule text = true := by rw [hasSchedule, hs]; rfl
    rw [Recent.keys_touch, h.keys, latest_concat hschedule]
    exact take_cons_filter_take (nodup_latest texts) text capacity
  sound := h.sound.touch hs
  counted := by
    rw [hcounted, h.counted, List.length_append, List.length_singleton]

lemma request_of_found {s : Schedule} (h : cache.find? (.text text) = some s) :
    (cache.request (.text text)).value = (.ok s, cache.hit (.text text) s) := by
  simp [request, Data.isKey, h]

lemma request_of_missing (h : cache.find? (.text text) = none) :
    (cache.request (.text text)).value =
      ((Schedule.parse false text.toList).mapError .failure,
        cache.miss (.text text) (Schedule.parse false text.toList)) := by
  simp [request, Data.isKey, h]

/-- **A request adds its text to the history of the cache.** -/
theorem Holds.request (h : cache.Holds texts) (text : String) :
    (cache.request (.text text)).value.2.Holds (texts ++ [text]) := by
  cases hfind : cache.find? (.text text) with
  | some s =>
      have hs := h.sound.compileValue_eq hfind
      rw [value_compileValue_text] at hs
      rw [request_of_found hfind]
      exact h.touch hs (by omega)
  | none =>
      rw [request_of_missing hfind]
      cases hs : Schedule.parse false text.toList with
      | ok s => exact h.touch hs (by omega)
      | error e =>
          have hschedule : hasSchedule text = false := by rw [hasSchedule, hs]; rfl
          refine ⟨?_, h.sound, ?_⟩
          · rw [latest_concat_of_failure hschedule]
            exact h.keys
          · rw [List.length_append, ← h.counted]
            rfl

/-- A request that fails is counted as one that found nothing, and leaves the kept schedules and
their order alone. -/
lemma request_of_failure {e : ScheduleError}
    (h : (cache.request (.text text)).value.1 = .error e) :
    (cache.request (.text text)).value.2 = { cache with misses := cache.misses + 1 } := by
  cases hfind : cache.find? (.text text) with
  | some s =>
      rw [request_of_found hfind] at h
      cases h
  | none =>
      rw [request_of_missing hfind] at h ⊢
      cases hs : Schedule.parse false text.toList with
      | ok s =>
          rw [hs] at h
          cases h
      | error e => rfl

end ScheduleCache

/-! ## Sequences of requests -/

/-- Whether a question looks its expression up in the cache: a question of validity does not, and a
number of fire times below one is refused before. -/
def Question.looksUp : Question → Bool
  | .isValid => false
  | .nextTimes _ count => 1 ≤ count
  | .nextTimeTexts _ count _ => 1 ≤ count
  | _ => true

/-- A question about the schedule of a text. -/
def Question.about (question : Question) (text : String) : Request :=
  ⟨.text text, question⟩

/-- The texts that a sequence of questions looks up in the cache. -/
def lookedUp (calls : List (String × Question)) : List String :=
  (calls.filter (·.2.looksUp)).map (·.1)

lemma Question.direct?_about (question : Question) (text : String) :
    (question.about text).direct? = none ↔ question.looksUp = true := by
  cases question with
  | nextTimes after count | nextTimeTexts after count pattern =>
      simp only [about, Request.direct?, refusal?, count?, Schedule.checkCount, looksUp]
      split_ifs <;> simp <;> omega
  | _ => simp [about, Request.direct?, refusal?, count?, looksUp]

namespace ScheduleCache

variable {cache : ScheduleCache}

/-- An answer adds its text to the history of the cache, if it looks it up. -/
lemma Holds.answer (h : cache.Holds texts) (text : String) (question : Question) :
    ((question.about text).answer cache).value.2.Holds
      (texts ++ lookedUp [(text, question)]) := by
  unfold Request.answer
  cases hdirect : (question.about text).direct? with
  | none =>
      have hlooks : question.looksUp = true := (question.direct?_about text).1 hdirect
      have htexts : lookedUp [(text, question)] = [text] := by simp [lookedUp, hlooks]
      rw [htexts]
      exact h.request text
  | some direct =>
      have hlooks : ¬question.looksUp = true := fun hlooks => by
        rw [(question.direct?_about text).2 hlooks] at hdirect
        cases hdirect
      have htexts : lookedUp [(text, question)] = [] := by simp [lookedUp, hlooks]
      rw [htexts, List.append_nil]
      exact h

/-- The caches that a sequence of requests leaves, from the one with which it begins. -/
def caches (cache : ScheduleCache) (requests : List Request) : List ScheduleCache :=
  cache :: (answerAll cache requests).value.map Prod.snd

/-- **After every part of a sequence, the cache holds what that part looked up.** -/
theorem exists_holds (h : cache.Holds texts) (calls : List (String × Question)) {n : Nat}
    (hn : n ≤ calls.length) :
    ∃ after, (cache.caches (calls.map fun call => call.2.about call.1))[n]? = some after ∧
      after.Holds (texts ++ lookedUp (calls.take n)) := by
  induction calls generalizing cache texts n with
  | nil =>
      obtain rfl : n = 0 := Nat.le_zero.1 hn
      exact ⟨cache, rfl, by simpa [lookedUp] using h⟩
  | cons call rest ih =>
      cases n with
      | zero => exact ⟨cache, rfl, by simpa [lookedUp] using h⟩
      | succ n =>
          obtain ⟨after, hafter, hholds⟩ := ih (h.answer call.1 call.2) (Nat.le_of_succ_le_succ hn)
          refine ⟨after, hafter, ?_⟩
          have hsplit : lookedUp ((call :: rest).take (n + 1))
              = lookedUp [call] ++ lookedUp (rest.take n) := by
            rw [List.take_succ_cons, lookedUp, lookedUp, lookedUp, ← List.map_append,
              ← List.filter_append, List.singleton_append]
          rwa [hsplit, ← List.append_assoc]

/-- **The cache changes no answer and holds the texts that were looked up last.**  Every question of
a sequence about texts is answered as if its text were compiled anew.  After each of them the cache
keeps, of the texts that were looked up so far and that compile, the distinct ones that were asked
for last, in this order and 256 at most, each with its schedule; and every text that was looked up
counts as found or as not found.  A request that fails counts as one that found nothing and changes
nothing else. -/
theorem history_exact (calls : List (String × Question)) :
    let requests := calls.map fun call => call.2.about call.1
    (answerAll .empty requests).value.map Prod.fst = requests.map (·.answerFresh.value) ∧
    (∀ n ≤ calls.length, ∃ cache, (empty.caches requests)[n]? = some cache ∧
      cache.Holds (lookedUp (calls.take n)) ∧ cache.kept.size ≤ 256) ∧
    ∀ (cache : ScheduleCache) (text : String) (e : ScheduleError),
      (cache.request (.text text)).value.1 = .error e →
      (cache.request (.text text)).value.2 = { cache with misses := cache.misses + 1 } := by
  intro requests
  refine ⟨answerAll_fresh sound_empty requests, fun n hn => ?_, fun _ _ _ => request_of_failure⟩
  obtain ⟨cache, hcache, hholds⟩ := exists_holds holds_empty calls hn
  exact ⟨cache, hcache, hholds, hholds.size_le⟩

/-- Two texts that compile and one that does not, with two questions that look nothing up. -/
theorem history_exact_in_turn :
    let start : Calendar.Instant := ⟨⟨2024, 1, 1, 0, 0, 0⟩, 0, none⟩
    let calls : List (String × Question) := [("@daily", .canonical), ("0 0 0 ? * FRI", .schedule),
      ("0 0", .schedule), ("0 0 0 ? * FRI", .nextTimes start 0), ("@daily", .nextTimes start 2),
      ("0 0", .isValid)]
    (∃ cache, (empty.caches (calls.map fun call => call.2.about call.1))[6]? = some cache ∧
      cache.kept.keys = ["@daily", "0 0 0 ? * FRI"] ∧ cache.hits + cache.misses = 4) ∧
    ∃ e, (empty.request (.text "0 0")).value.1 = .error e ∧
      (empty.request (.text "0 0")).value.2 = { empty with misses := 1 } := by
  intro start calls
  obtain ⟨-, hcaches, hfailure⟩ := history_exact calls
  constructor
  · obtain ⟨cache, hcache, hholds, -⟩ := hcaches 6 (by decide)
    have hlatest : (latest (lookedUp (calls.take 6))).take capacity
        = ["@daily", "0 0 0 ? * FRI"] := by decide +kernel
    exact ⟨cache, hcache, hholds.keys.trans hlatest, hholds.counted.trans (by decide)⟩
  · obtain ⟨e, he⟩ : ∃ e, (empty.request (.text "0 0")).value.1 = .error e :=
      exists_error_of_isNone (by decide +kernel)
    exact ⟨e, he, hfailure empty "0 0" e he⟩

end ScheduleCache

end CronSchedule
