import CronSchedule.Log.Hub
import CronSchedule.Proofs.Outcome
import Mathlib.Data.List.Induction

/-!
# Every record is written once

The hub is configured, handlers of others are added to it and records are emitted, in any order.
After any such sequence of steps the hub is decided by two things: the last call that configured it,
and the foreign handlers in the order in which they came.  So a record that is written at all is
written once for the package, to the stream of that call.

* `Step`, `Hub.step`, `Hub.after` — what can happen to the hub, and the hub after a sequence of it.
* `Setup.of`, `lastSetup?` — what a call sets, and what the last call that succeeded has set.
* `Hub.Reflects` — the hub is what a sequence of steps should leave.
* `Hub.Reflects.step` — one more step keeps that; **`Hub.reflects_after`** — and so does every
  sequence.
* `Hub.Reflects.write_own`, `Hub.Reflects.write_elsewhere` — where an entry is written.
* **`Hub.dispatch_exact`** — the handlers and the written records of every sequence of steps.
-/

namespace CronSchedule.Log

open Text

/-! ## Steps -/

/-- A record on its way to the hub: its message is still a template with arguments. -/
structure Emission where
  stamp : Stamp
  level : Level
  logger : String
  template : String
  arguments : List Value
  exception : Option String

/-- What is written of a record that is emitted with a message. -/
def Emission.entry (e : Emission) (message : List Char) : Entry :=
  ⟨e.level.name, e.logger, String.ofList message, e.exception⟩

/-- What can happen to the hub.  A call that configures it comes with its stream. -/
inductive Step
  | configure (choice : LevelChoice) (style : String) (stream : Nat)
  | addForeign (stream : Nat)
  | emit (e : Emission)

/-- What a call that configures the hub sets. -/
structure Setup where
  level : Level
  style : Style
  stream : Nat
  deriving DecidableEq, Repr

/-- What a call sets, or why it sets nothing; the hub plays no part in it. -/
def Setup.of (choice : LevelChoice) (style : String) (stream : Nat) :
    Except ConfigureError Setup := do
  let level ← choice.resolve
  let style ← resolveStyle style
  return ⟨level, style, stream⟩

def Setup.handler (setup : Setup) : Handler :=
  ⟨.package setup.style, setup.stream⟩

namespace Step

def setup? : Step → Option Setup
  | .configure choice style stream => (Setup.of choice style stream).toOption
  | _ => none

/-- The stream of a call, whether it succeeds or not. -/
def callStream? : Step → Option Nat
  | .configure _ _ stream => some stream
  | _ => none

def foreignStream? : Step → Option Nat
  | .addForeign stream => some stream
  | _ => none

end Step

/-- What the last call that succeeded has set. -/
def lastSetup? (steps : List Step) : Option Setup :=
  (steps.filterMap Step.setup?).getLast?

/-- The streams of the handlers of others, in the order in which they were added. -/
def foreignStreams (steps : List Step) : List Nat :=
  steps.filterMap Step.foreignStream?

/-- Every call has a stream of its own, to which no handler of someone else writes. -/
def OwnStreams (steps : List Step) : Prop :=
  ∀ stream ∈ steps.filterMap Step.callStream?, stream ∉ foreignStreams steps

instance (steps : List Step) : Decidable (OwnStreams steps) :=
  inferInstanceAs (Decidable (∀ stream ∈ _, stream ∉ _))

namespace Hub

/-- The hub after a step. -/
def step (hub : Hub) : Step → Hub
  | .configure choice style stream => (hub.configure choice style stream).2
  | .addForeign stream => hub.addForeign stream
  | .emit _ => hub

/-- The hub after a sequence of steps. -/
def after (steps : List Step) : Hub :=
  steps.foldl step .initial

/-- What an emitted record makes the handlers write. -/
def written (hub : Hub) (e : Emission) : List (Nat × String) :=
  hub.emitTemplate e.stamp e.level e.logger e.template e.arguments e.exception

end Hub

variable {hub : Hub} {steps : List Step} {setup : Setup} {choice : LevelChoice} {style : String}
  {stream : Nat}

/-! ## Calls -/

/-- A call either installs what it sets, or fails and leaves the hub as it is. -/
lemma Hub.configure_eq (hub : Hub) (choice : LevelChoice) (style : String) (stream : Nat) :
    hub.configure choice style stream =
      match Setup.of choice style stream with
      | .ok s => (.ok (), hub.install s.level s.style s.stream)
      | .error e => (.error e, hub) := by
  rw [Setup.of]
  cases hlevel : choice.resolve with
  | error e =>
      rw [configure, configuring, hlevel]
      rfl
  | ok level =>
      cases hstyle : resolveStyle style with
      | error e =>
          rw [configure, configuring, hlevel, hstyle]
          rfl
      | ok style =>
          rw [configure, configuring, hlevel, hstyle]
          rfl

/-- A call succeeds exactly if it sets something. -/
lemma Hub.configure_ok_iff : (hub.configure choice style stream).1 = .ok () ↔
    (Step.configure choice style stream).setup?.isSome = true := by
  rw [configure_eq, Step.setup?]
  cases Setup.of choice style stream <;> simp [Except.toOption]

lemma Hub.configure_of_failure {e : ConfigureError}
    (h : (hub.configure choice style stream).1 = .error e) :
    (hub.configure choice style stream).2 = hub := by
  rw [configure_eq] at h ⊢
  cases hsetup : Setup.of choice style stream with
  | ok setup =>
      rw [hsetup] at h
      cases h
  | error e' => rfl

lemma Setup.stream_of (h : Setup.of choice style stream = .ok setup) : setup.stream = stream := by
  simp only [Setup.of, bind_eq_ok_iff, pure_eq_ok_iff] at h
  obtain ⟨level, -, style, -, rfl⟩ := h
  rfl

lemma Step.callStream?_of_setup {s : Step} (h : s.setup? = some setup) :
    s.callStream? = some setup.stream := by
  cases s with
  | configure choice style stream =>
      rw [Setup.stream_of (toOption_eq_some_iff.1 h)]
      rfl
  | addForeign stream => cases h
  | emit e => cases h

lemma lastSetup?_concat (steps : List Step) (s : Step) :
    lastSetup? (steps ++ [s]) = s.setup?.or (lastSetup? steps) := by
  cases h : s.setup? <;> simp [lastSetup?, h]

lemma isSome_lastSetup? (steps : List Step) :
    (lastSetup? steps).isSome = steps.any (·.setup?.isSome) := by
  induction steps using List.reverseRecOn with
  | nil => rfl
  | append_singleton steps s ih =>
      rw [lastSetup?_concat, Option.isSome_or, ih, List.any_append, Bool.or_comm]
      simp

lemma mem_callStreams_of_lastSetup (h : lastSetup? steps = some setup) :
    setup.stream ∈ steps.filterMap Step.callStream? := by
  obtain ⟨s, hs, hsetup⟩ := List.mem_filterMap.1 (List.mem_of_getLast? h)
  exact List.mem_filterMap.2 ⟨s, hs, Step.callStream?_of_setup hsetup⟩

lemma OwnStreams.notMem_foreignStreams {before rest : List Step} (h : OwnStreams (before ++ rest))
    (hcall : stream ∈ (before ++ rest).filterMap Step.callStream?) :
    stream ∉ foreignStreams before := by
  intro hforeign
  apply h stream hcall
  rw [foreignStreams, List.filterMap_append]
  exact List.mem_append_left _ hforeign

namespace Hub

/-! ## The hub after a sequence -/

/-- The hub is what a sequence of steps should leave. -/
structure Reflects (hub : Hub) (steps : List Step) : Prop where
  /-- Its level is the one that was set last. -/
  level : hub.level = ((lastSetup? steps).map Setup.level).getD .unset
  /-- Of the handlers of the package there is the one that was set last. -/
  owned : hub.handlers.filter (·.owned) = (lastSetup? steps).toList.map Setup.handler
  /-- The handlers of others are all there, in the order in which they came. -/
  foreign : hub.handlers.filter (!·.owned) = (foreignStreams steps).map (⟨.foreign, ·⟩)

lemma reflects_initial : initial.Reflects [] :=
  ⟨rfl, rfl, rfl⟩

namespace Reflects

/-- A step that neither sets nor adds anything does not count. -/
lemma idle {s : Step} (h : hub.Reflects steps) (hsetup : s.setup? = none)
    (hforeign : s.foreignStream? = none) : hub.Reflects (steps ++ [s]) := by
  have hlast : lastSetup? (steps ++ [s]) = lastSetup? steps := by
    rw [lastSetup?_concat, hsetup, Option.none_or]
  have hstreams : foreignStreams (steps ++ [s]) = foreignStreams steps := by
    simp [foreignStreams, hforeign]
  refine ⟨?_, ?_, ?_⟩
  · rw [hlast, h.level]
  · rw [hlast, h.owned]
  · rw [hstreams, h.foreign]

/-- A call that succeeds replaces the handler of the package and no other. -/
lemma install {s : Step} (h : hub.Reflects steps) (hsetup : s.setup? = some setup)
    (hforeign : s.foreignStream? = none) :
    (hub.install setup.level setup.style setup.stream).Reflects (steps ++ [s]) := by
  have hlast : lastSetup? (steps ++ [s]) = some setup := by
    rw [lastSetup?_concat, hsetup, Option.some_or]
  have hstreams : foreignStreams (steps ++ [s]) = foreignStreams steps := by
    simp [foreignStreams, hforeign]
  refine ⟨?_, ?_, ?_⟩
  · rw [hlast]
    rfl
  · rw [hlast, install_handlers]
    simp [Handler.owned, Setup.handler]
  · rw [hstreams, ← h.foreign, install_handlers]
    simp [Handler.owned]

lemma addForeign (h : hub.Reflects steps) (stream : Nat) :
    (hub.addForeign stream).Reflects (steps ++ [.addForeign stream]) := by
  have hlast : lastSetup? (steps ++ [.addForeign stream]) = lastSetup? steps :=
    lastSetup?_concat steps _
  refine ⟨?_, ?_, ?_⟩
  · rw [hlast, ← h.level]
    rfl
  · rw [hlast, ← h.owned, Hub.addForeign, addHandler_handlers, List.filter_append]
    simp [Handler.owned]
  · rw [Hub.addForeign, addHandler_handlers, List.filter_append, h.foreign]
    simp [foreignStreams, Step.foreignStream?, Handler.owned]

/-- **One more step leaves what it should.** -/
theorem step (h : hub.Reflects steps) (s : Step) : (hub.step s).Reflects (steps ++ [s]) := by
  cases s with
  | configure choice style stream =>
      rw [Hub.step, configure_eq]
      cases hsetup : Setup.of choice style stream with
      | ok setup => exact h.install (toOption_eq_some_iff.2 hsetup) rfl
      | error e =>
          have hnone : (Step.configure choice style stream).setup? = none := by
            rw [Step.setup?, hsetup]
            rfl
          exact h.idle hnone rfl
  | addForeign stream => exact h.addForeign stream
  | emit e => exact h.idle rfl rfl

end Reflects

/-- **Every sequence of steps leaves what it should.** -/
theorem reflects_after (steps : List Step) : (after steps).Reflects steps := by
  -- The steps are taken from the first to the last, so the induction adds one at the end.
  induction steps using List.reverseRecOn with
  | nil => exact reflects_initial
  | append_singleton steps s ih =>
      rw [after, List.foldl_concat]
      exact ih.step s

lemma Reflects.countP_owned (h : hub.Reflects steps) :
    hub.handlers.countP (·.owned) = if steps.any (·.setup?.isSome) then 1 else 0 := by
  rw [List.countP_eq_length_filter, h.owned, ← isSome_lastSetup?]
  cases lastSetup? steps <;> rfl

/-! ## Where an entry is written -/

namespace Reflects

variable {handler : Handler}

/-- A handler of the package is the one that was set last. -/
lemma eq_handler (h : hub.Reflects steps) (hmem : handler ∈ hub.handlers)
    (howned : handler.owned = true) :
    ∃ setup, lastSetup? steps = some setup ∧ handler = setup.handler := by
  have hfilter : handler ∈ hub.handlers.filter (·.owned) := List.mem_filter.2 ⟨hmem, howned⟩
  rw [h.owned, List.mem_map] at hfilter
  obtain ⟨setup, hsetup, rfl⟩ := hfilter
  exact ⟨setup, Option.mem_toList.1 hsetup, rfl⟩

lemma stream_mem_foreignStreams (h : hub.Reflects steps) (hmem : handler ∈ hub.handlers)
    (hforeign : handler.owned = false) : handler.stream ∈ foreignStreams steps := by
  have hfilter : handler ∈ hub.handlers.filter (!·.owned) :=
    List.mem_filter.2 ⟨hmem, by rw [hforeign]; rfl⟩
  rw [h.foreign, List.mem_map] at hfilter
  obtain ⟨stream, hstream, rfl⟩ := hfilter
  exact hstream

/-- A handler that writes to no stream of a foreign one is the one that was set last. -/
lemma eq_handler_of_stream (h : hub.Reflects steps) (hmem : handler ∈ hub.handlers)
    (hstream : handler.stream ∉ foreignStreams steps) :
    ∃ setup, lastSetup? steps = some setup ∧ handler = setup.handler := by
  cases howned : handler.owned with
  | true => exact h.eq_handler hmem howned
  | false => exact absurd (h.stream_mem_foreignStreams hmem howned) hstream

/-- An entry is written once to the stream of the last call that succeeded. -/
lemma write_own (h : hub.Reflects steps) (hlast : lastSetup? steps = some setup)
    (hstream : setup.stream ∉ foreignStreams steps) (stamp : Stamp) (e : Entry) :
    (hub.write stamp e).filter (·.1 == setup.stream)
      = [(setup.stream, setup.style.write stamp e ++ "\n")] := by
  have hfilter : hub.handlers.filter (·.stream == setup.stream)
      = hub.handlers.filter (·.owned) := by
    apply List.filter_congr
    intro handler hmem
    rw [Bool.eq_iff_iff, beq_iff_eq]
    constructor
    · intro heq
      rw [← heq] at hstream
      obtain ⟨latest, -, rfl⟩ := h.eq_handler_of_stream hmem hstream
      rfl
    · intro howned
      obtain ⟨latest, hlatest, rfl⟩ := h.eq_handler hmem howned
      rw [hlast] at hlatest
      cases hlatest
      rfl
  rw [write, List.filter_map]
  show (hub.handlers.filter (·.stream == setup.stream)).map _ = _
  rw [hfilter, h.owned, hlast]
  rfl

/-- An entry is not written to the stream of any other call. -/
lemma write_elsewhere (h : hub.Reflects steps)
    (hother : ∀ setup, lastSetup? steps = some setup → stream ≠ setup.stream)
    (hstream : stream ∉ foreignStreams steps) (stamp : Stamp) (e : Entry) (text : String) :
    (stream, text) ∉ hub.write stamp e := by
  intro hwritten
  obtain ⟨handler, hmem, heq⟩ := List.mem_map.1 hwritten
  obtain rfl : handler.stream = stream := congrArg Prod.fst heq
  obtain ⟨setup, hlast, rfl⟩ := h.eq_handler_of_stream hmem hstream
  exact hother setup hlast rfl

end Reflects

/-! ## Where a record is written -/

lemma written_of_message {e : Emission} {message : List Char}
    (h : fillTemplate e.template.toList e.arguments = .ok message) :
    hub.written e
      = if hub.accepts e.logger e.level then hub.write e.stamp (e.entry message) else [] := by
  rw [written, emitTemplate, h]
  rfl

/-- A record is written like an entry or not at all. -/
lemma written_eq_nil_or (hub : Hub) (e : Emission) :
    hub.written e = [] ∨ ∃ entry, hub.written e = hub.write e.stamp entry := by
  cases h : fillTemplate e.template.toList e.arguments with
  | error _ =>
      left
      rw [written, emitTemplate, h]
  | ok message =>
      rw [written_of_message h]
      split_ifs
      · exact .inr ⟨_, rfl⟩
      · exact .inl rfl

lemma accepts_iff {logger : String} {level : Level} (h : ofPackage logger = true) :
    hub.accepts logger level = true ↔ 0 < level ∧ hub.effectiveLevel ≤ level := by
  simp [accepts, h]

/-- **Every record is written once, where the last call wants it.**  Take any place in a sequence
of steps in which every call comes with a stream of its own.  Before the first call that succeeds
there is no handler of the package, from then on exactly one; the handlers of others are all there,
in the order in which they were added; the level is the one that was set last.  A call that fails
leaves the hub as it is.  A record of the package that has a message, a positive level and at least
the level that counts is written exactly once to the stream of the last call that succeeded, in its
style; with any other level it is written nowhere.  No record is written to the stream of a call
that failed, was replaced or is yet to come. -/
theorem dispatch_exact (before rest : List Step) (hown : OwnStreams (before ++ rest)) :
    let hub := after before
    hub.handlers.countP (·.owned) = (if before.any (·.setup?.isSome) then 1 else 0) ∧
    hub.handlers.filter (!·.owned) = (foreignStreams before).map (⟨.foreign, ·⟩) ∧
    hub.level = ((lastSetup? before).map Setup.level).getD .unset ∧
    (∀ choice style stream,
      ((hub.configure choice style stream).1 = .ok () ↔
        (Step.configure choice style stream).setup?.isSome = true) ∧
      ∀ e, (hub.configure choice style stream).1 = .error e →
        (hub.configure choice style stream).2 = hub ∧
          after (before ++ [.configure choice style stream]) = hub) ∧
    (∀ (e : Emission) (message : List Char), ofPackage e.logger = true →
      fillTemplate e.template.toList e.arguments = .ok message →
      (0 < e.level ∧ hub.effectiveLevel ≤ e.level → ∀ setup, lastSetup? before = some setup →
        (hub.written e).filter (·.1 == setup.stream)
          = [(setup.stream, setup.style.write e.stamp (e.entry message) ++ "\n")]) ∧
      (¬(0 < e.level ∧ hub.effectiveLevel ≤ e.level) → hub.written e = [])) ∧
    ∀ (e : Emission), ∀ stream ∈ (before ++ rest).filterMap Step.callStream?,
      (∀ setup, lastSetup? before = some setup → stream ≠ setup.stream) →
      ∀ text, (stream, text) ∉ hub.written e := by
  intro hub
  have hreflects : hub.Reflects before := reflects_after before
  refine ⟨hreflects.countP_owned, hreflects.foreign, hreflects.level, ?calls, ?records,
    ?elsewhere⟩
  case calls =>
    intro choice style stream
    refine ⟨configure_ok_iff, fun e hfailure => ⟨configure_of_failure hfailure, ?_⟩⟩
    rw [after, List.foldl_concat]
    exact configure_of_failure hfailure
  case records =>
    intro e message hpackage hmessage
    rw [written_of_message hmessage]
    constructor
    · intro hlevel setup hlast
      rw [if_pos ((accepts_iff hpackage).2 hlevel)]
      have hcall : setup.stream ∈ (before ++ rest).filterMap Step.callStream? := by
        rw [List.filterMap_append]
        exact List.mem_append_left _ (mem_callStreams_of_lastSetup hlast)
      exact hreflects.write_own hlast (hown.notMem_foreignStreams hcall) e.stamp (e.entry message)
    · intro hlevel
      rw [if_neg fun h => hlevel ((accepts_iff hpackage).1 h)]
  case elsewhere =>
    intro e stream hcall hother text
    rcases written_eq_nil_or hub e with hnil | ⟨entry, hentry⟩
    · rw [hnil]
      exact List.not_mem_nil
    · rw [hentry]
      exact hreflects.write_elsewhere hother (hown.notMem_foreignStreams hcall) e.stamp entry text

/-- Three calls, the second of which fails, and a handler of someone else between them. -/
theorem dispatch_exact_after_failure :
    let before : List Step := [.configure (.named "info") "json" 0, .addForeign 9,
      .configure (.numbered 10) "console" 1, .configure (.named "loud") "json" 2]
    let e : Emission :=
      ⟨⟨"<time>", "<time>"⟩, 20, "cronexpr.cache", "%d hits", [.integer 3], none⟩
    (after before).handlers.countP (·.owned) = 1 ∧
    (after before).handlers.filter (!·.owned) = [⟨.foreign, 9⟩] ∧
    ((after before).written e).filter (·.1 == 1)
      = [(1, "<time> INFO    [cronexpr.cache] 3 hits\n")] ∧
    ∀ text, (0, text) ∉ (after before).written e ∧ (2, text) ∉ (after before).written e := by
  intro before e
  obtain ⟨hcount, hforeign, -, -, hrecords, helsewhere⟩ :=
    dispatch_exact before [.emit e] (by decide +kernel)
  have hlast : lastSetup? before = some ⟨10, .console, 1⟩ := by decide +kernel
  have hother : ∀ stream, stream ≠ 1 →
      ∀ setup, lastSetup? before = some setup → stream ≠ setup.stream := by
    intro stream hstream setup hsetup
    rw [hlast] at hsetup
    cases hsetup
    exact hstream
  have hmessage : fillTemplate e.template.toList e.arguments = .ok "3 hits".toList := by
    decide +kernel
  have hwritten := (hrecords e "3 hits".toList (by decide +kernel) hmessage).1 (by decide +kernel)
  refine ⟨hcount.trans (by decide +kernel), hforeign, ?_, fun text => ⟨?_, ?_⟩⟩
  · exact (hwritten _ hlast).trans (by decide +kernel)
  · exact helsewhere e 0 (by decide +kernel) (hother 0 (by decide)) text
  · exact helsewhere e 2 (by decide +kernel) (hother 2 (by decide)) text

/-- A record whose level is not positive is not written, even if the level that counts is lower
still. -/
theorem written_of_negative_level :
    let before : List Step := [.configure (.numbered (-10)) "console" 0]
    let e : Emission := ⟨⟨"<time>", "<time>"⟩, -5, "cronexpr", "x", [], none⟩
    lastSetup? before = some ⟨-10, .console, 0⟩ ∧ ofPackage e.logger = true ∧
      fillTemplate e.template.toList e.arguments = .ok ['x'] ∧
      (after before).effectiveLevel ≤ e.level ∧ (after before).written e = [] := by
  decide

end Hub

end CronSchedule.Log
