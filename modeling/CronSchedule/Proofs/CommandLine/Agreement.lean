import CronSchedule.Proofs.Calendar.Iso
import CronSchedule.Proofs.CommandLine.Arguments
import CronSchedule.Proofs.CommandLine.Start
import CronSchedule.Proofs.Schedule.Run
import CronSchedule.Proofs.Schedule.Total
import CronSchedule.Proofs.Text.Terminal

/-!
# The commands agree with the schedules

A run of the program that understands its arguments and has its settings answers what it is asked.
What the answer should be is said of the schedule alone: its fire times, its canonical text, and
whether it accepts an instant.  Of the front end it is only asked that it writes plain messages as
they are.

* `FrontEnd.Echoes` — plain messages are written as they are; **`FrontEnd.standard_echoes`**.
* `Inquiry`, `Asks` — what a command is asked, and the calls that ask it.
* `Inquiry.Answered` — what a run leaves behind that answers an inquiry about a schedule.
* `Request.next_value`, `Request.last_value`, `Request.check_eq` — what requests give.
* `answered_next`, `answered_last`, `answered_check` — runs that end with it.
* **`Request.answers`** — what is asked about an expression, a request answers.
* **`commands_exact`** — every command answers what it is asked, or says why there is no schedule.
-/

namespace CronSchedule

open Calendar Text

/-! ## Canonical text -/

/-- Canonical text is plain. -/
lemma Schedule.canonicalText_plain {t : Timetable} (ht : t.WellFormed) :
    ∃ text, canonicalText t = .ok text ∧ escapeCharacter ∉ text := by
  obtain ⟨texts, htexts, hprints⟩ := fieldTexts_ok ht
  refine ⟨_, by rw [canonicalText, htexts]; rfl, fun h => ?_⟩
  rcases mem_joinWith h with hblank | ⟨part, hpart, hchar⟩
  · exact absurd hblank (by decide)
  · obtain ⟨field, -, rfl⟩ := List.mem_map.1 (mem_of_mem_dropOpenYear hpart)
    exact absurd ((hprints field).plain.chars _ hchar) (by decide)

namespace CommandLine

/-! ## Writing -/

namespace FrontEnd

/-- A message without escape characters is written as it is, with an end. -/
def Echoes (front : FrontEnd) : Prop :=
  ∀ message : String, escapeCharacter ∉ message.toList → front.echo message = message ++ "\n"

theorem standard_echoes (width : Nat) : (standard width).Echoes :=
  fun _ h => printed_line h

variable {front : FrontEnd}

lemma written_singleton (front : FrontEnd) (message : String) :
    front.written [message] = front.echo message := by
  simp [written, String.join]

lemma Echoes.written_plain (h : front.Echoes) {message : String}
    (hplain : escapeCharacter ∉ message.toList) : front.written [message] = message ++ "\n" := by
  rw [written_singleton, h message hplain]

end FrontEnd

/-! ## Inquiries -/

/-- What a command is asked about an expression. -/
inductive Inquiry
  | validate
  | format
  | next (start : Instant) (count : Nat) (pattern : String) (json : Bool)
  | last (start : Instant) (pattern : String)
  | check (time : Instant)

/-- The instant to start from: that of an ISO text, or else the present moment. -/
def StartsAt (given : Option String) (now t : Instant) : Prop :=
  (∃ text, given = some text ∧ Instant.ofIso? text.toList = some t) ∨
    (given = none ∧ t = now ∧ now.IsDatetime)

/-- The number of fire times: one that is asked for, or else that of the settings. -/
def Counts (given : Option Int) (c : Settings) (count : Nat) : Prop :=
  (given = some (count : Int) ∧ 1 ≤ count) ∨ (given = none ∧ count = c.defaultCount)

/-- The pattern of fire times, in which no surrogates occur: one that is asked for and not empty, or
else that of the settings. -/
def WritesBy (given : Option RawText) (c : Settings) (pattern : String) : Prop :=
  (given = some (.whole pattern) ∧ pattern ≠ "") ∨
    ((given = none ∨ given = some (.whole "")) ∧ c.datetimeFormat = .whole pattern)

/-- The call of a command asks this about an expression, under settings and at a moment. -/
inductive Asks (c : Settings) (now : Instant) : Invocation → String → Inquiry → Prop
  | validate {expression : String} : Asks c now (.validate expression) expression .validate
  | format {expression : String} : Asks c now (.format expression) expression .format
  | next {expression pattern : String} {given : Option String} {n : Option Int}
      {asked : Option RawText} {json : Bool} {start : Instant} {count : Nat}
      (hstart : StartsAt given now start) (hcount : Counts n c count)
      (hpattern : WritesBy asked c pattern) :
      Asks c now (.next expression given n asked json) expression
        (.next start count pattern json)
  | last {expression pattern : String} {given : Option String} {asked : Option RawText}
      {start : Instant} (hstart : StartsAt given now start) (hpattern : WritesBy asked c pattern) :
      Asks c now (.last expression given asked) expression (.last start pattern)
  | check {expression text : String} {time : Instant}
      (htime : Instant.ofIso? text.toList = some time) :
      Asks c now (.check expression text) expression (.check time)

lemma Asks.expression_eq {c : Settings} {now : Instant} {invocation : Invocation}
    {expression : String} {inquiry : Inquiry} (h : Asks c now invocation expression inquiry) :
    invocation.expression = expression := by
  cases h <;> rfl

lemma Counts.pos {given : Option Int} {c : Settings} {count : Nat} (h : Counts given c count) :
    1 ≤ count := by
  rcases h with ⟨-, hpos⟩ | ⟨-, rfl⟩
  · exact hpos
  · exact c.defaultCount_pos

/-- What a run leaves behind that answers an inquiry about a schedule.  Lines of fire times are left
to the front end, which may drop the control sequences that a pattern holds (by `Echoes` it writes
plain lines as they are); all other text is given as it is. -/
def Inquiry.Answered (inquiry : Inquiry) (front : FrontEnd) (s : Schedule) (o : Outcome) : Prop :=
  match inquiry with
  | .validate => o.exitCode = 0 ∧ o.output front = "valid\n"
  | .format => ∃ text, s.canonical = .ok text ∧ o.exitCode = 0 ∧
      o.output front = String.ofList text ++ "\n"
  | .next start count pattern json =>
      ∃ times, Direction.next.Lists (s.ahead .next start) times ∧
        let lines := (times.take count).map (·.formatString pattern)
        o.exitCode = (if times = [] then 2 else 0) ∧
        o.output front =
          if json then Json.writeString (.list (lines.map .text)) ++ "\n" else front.written lines
  | .last start pattern =>
      ∃ found, Direction.previous.Nearest (s.ahead .previous start) found ∧
        o.exitCode = (if found = none then 2 else 0) ∧
        o.output front = front.written (found.toList.map (·.formatString pattern))
  | .check time => ∃ accepted, s.accepts time = .ok accepted ∧
      o.exitCode = (if accepted then 0 else 3) ∧
      o.output front = if accepted then "yes\n" else "no\n"

/-! ## Answers -/

namespace Outcome

variable {o : Outcome} {reply : Reply}

lemma exitCode_replied (h : o.ending = .replied reply) : o.exitCode = reply.status.code := by
  rw [exitCode, h]

lemma output_replied (h : o.ending = .replied reply) (front : FrontEnd) :
    o.output front = front.written reply.lines := by
  rw [output, h]

lemma complaints_replied (h : o.ending = .replied reply) (front : FrontEnd) :
    o.complaints front = o.log ++ front.written reply.complaintLines := by
  rw [complaints, h]

end Outcome

/-- The reply with fire times by a pattern that can be written. -/
def timesReply (pattern : String) (json : Bool) (times : List Instant) : Reply :=
  let lines := Request.timeLines json (times.map (·.formatString pattern))
  if times.isEmpty then ⟨.exhausted, lines, some "schedule has no upcoming fire times"⟩
  else .give lines

/-- The reply with an earlier fire time, or without one, by a pattern that can be written. -/
def lastReply (pattern : String) (found : Option Instant) : Reply :=
  match found with
  | some t => .give [t.formatString pattern]
  | none => .complain .exhausted "schedule has no earlier fire time"

namespace Request

variable {front : FrontEnd} {q : Request} {c : Settings} {s : Schedule} {start : Instant}
  {count : Nat} {pattern : String} {given : Option String} {n : Option Int}
  {asked : Option RawText} {json : Bool}

/-! ### Values -/

lemma startOf_eq (front : FrontEnd) (h : StartsAt given q.now start) :
    q.startOf front given = .ok start ∧ start.IsDatetime := by
  rcases h with ⟨text, rfl, hiso⟩ | ⟨rfl, rfl, hnow⟩
  · refine ⟨?_, Instant.ofIso?_isDatetime hiso⟩
    rw [startOf, readInstant, hiso]
  · exact ⟨rfl, hnow⟩

lemma patternOf_eq (hformat : q.settings.datetimeFormat = c.datetimeFormat)
    (h : WritesBy asked c pattern) : patternOf q.settings asked = .whole pattern := by
  rcases h with ⟨rfl, hne⟩ | ⟨rfl | rfl, hsettings⟩
  · rw [patternOf, Option.filter_some, if_pos (by simpa using hne)]
    rfl
  · exact hformat.trans hsettings
  · exact hformat.trans hsettings

lemma countOf_eq (hdefault : q.settings.defaultCount = c.defaultCount) (h : Counts n c count) :
    countOf q.settings n = count := by
  rcases h with ⟨rfl, hpos⟩ | ⟨rfl, rfl⟩
  · rw [countOf, Option.filter_some, if_pos (decide_eq_true (by omega))]
    rfl
  · exact hdefault

lemma mapM_writeTime (pattern : String) (times : List Instant) :
    times.mapM (writeTime (.whole pattern)) = .ok (times.map (·.formatString pattern)) := by
  induction times with
  | nil => rfl
  | cons t times ih =>
      rw [List.mapM_cons, ih, writeTime]
      rfl

lemma listTimes_whole (pattern : String) (json : Bool) (times : List Instant) :
    listTimes (.whole pattern) json times = .replied (timesReply pattern json times) := by
  rw [listTimes, mapM_writeTime]
  rfl

lemma lastTime_whole (pattern : String) (found : Option Instant) (text : List Char) :
    lastTime (.whole pattern) ⟨found, text, .previous⟩ = .replied (lastReply pattern found) := by
  cases found <;> rfl

/-! ### Endings -/

lemma answer_of_parse
    (h : Schedule.parse q.settings.strictDayPairing q.invocation.expression.toList = .ok s) :
    (q.answer front).value = (q.answerAbout front s).value := by
  have hschedule : q.schedule.value = .ok s := by
    rw [schedule, Log.Logged.value_bind, Schedule.parseLogged, h]
    rfl
  rw [answer, Log.Logged.value_bind, hschedule]

/-- A malformed expression is complained about, whatever the command. -/
lemma answer_of_malformed {e : Expression.Malformed}
    (h : Schedule.parse q.settings.strictDayPairing q.invocation.expression.toList =
      .error (.malformed e)) :
    (q.answer front).value = .replied (.complain .malformed e.describe) := by
  have hschedule :
      q.schedule.value = .error (.replied (.complain .malformed e.describe)) := by
    rw [schedule, Log.Logged.value_bind, Schedule.parseLogged, h]
    rfl
  rw [answer, Log.Logged.value_bind, hschedule]
  rfl

lemma next_value (front : FrontEnd) (hs : s.timetable.WellFormed)
    (hstart : StartsAt given q.now start) (hcount : Counts n c count)
    (hpattern : WritesBy asked c pattern)
    (hdefault : q.settings.defaultCount = c.defaultCount)
    (hformat : q.settings.datetimeFormat = c.datetimeFormat) :
    ∃ times, Direction.next.Lists (s.ahead .next start) times ∧
      (q.next front s given n asked json).value =
        .replied (timesReply pattern json (times.take count)) := by
  obtain ⟨hread, hdate⟩ := startOf_eq front hstart
  obtain ⟨times, stop, hfollows, hend, hlists⟩ := Schedule.exists_follows hs hdate .next
  refine ⟨times, hlists, ?_⟩
  rw [Request.next, hread]
  dsimp only
  rw [Log.Logged.value_bind, patternOf_eq hformat hpattern, countOf_eq hdefault hcount,
    Schedule.fireTimesLogged, Schedule.fireTimes_eq hfollows hend count]
  exact listTimes_whole pattern json (times.take count)

lemma last_value (front : FrontEnd) (hs : s.timetable.WellFormed)
    (hstart : StartsAt given q.now start) (hpattern : WritesBy asked c pattern)
    (hformat : q.settings.datetimeFormat = c.datetimeFormat) :
    ∃ found, Direction.previous.Nearest (s.ahead .previous start) found ∧
      (q.last front s given asked).value = .replied (lastReply pattern found) := by
  obtain ⟨hread, hdate⟩ := startOf_eq front hstart
  obtain ⟨found, hfound, hnearest⟩ := Schedule.nearest_spec hs hdate .previous
  refine ⟨found, hnearest, ?_⟩
  have hsearch : s.search start .previous = .ok ⟨found, s.text, .previous⟩ := by
    rw [Schedule.search, hfound]
    rfl
  rw [Request.last, hread]
  dsimp only
  rw [Log.Logged.value_bind, patternOf_eq hformat hpattern, Schedule.searchLogged, hsearch]
  exact lastTime_whole pattern found s.text

lemma check_eq {text : String} {time : Instant} {accepted : Bool}
    (htime : Instant.ofIso? text.toList = some time) (haccepts : s.accepts time = .ok accepted) :
    q.check front s text = .replied (verdict accepted) := by
  have hread : q.readInstant front "WHEN" text = .ok time := by
    rw [readInstant, htime]
  rw [check, hread]
  dsimp only
  rw [haccepts]
  rfl

end Request

section Answers

variable {front : FrontEnd} {s : Schedule} {o : Outcome} {start : Instant} {times : List Instant}
  {found : Option Instant} {count : Nat} {pattern : String} {json : Bool}

lemma answered_next (hechoes : front.Echoes)
    (hlists : Direction.next.Lists (s.ahead .next start) times) (hcount : 1 ≤ count)
    (ho : o.ending = .replied (timesReply pattern json (times.take count))) :
    Inquiry.Answered (.next start count pattern json) front s o := by
  refine ⟨times, hlists, ?_, ?_⟩
  · rw [Outcome.exitCode_replied ho, timesReply]
    cases times with
    | nil => simp [Status.code]
    | cons t times =>
        obtain ⟨more, rfl⟩ : ∃ more, count = more + 1 := ⟨count - 1, by omega⟩
        simp [Status.code, Reply.give]
  · have hlines : (timesReply pattern json (times.take count)).lines =
        Request.timeLines json ((times.take count).map (·.formatString pattern)) := by
      rw [timesReply]
      split <;> rfl
    rw [Outcome.output_replied ho, hlines, Request.timeLines]
    split
    · exact hechoes.written_plain (Json.escape_notMem_write _)
    · rfl

lemma answered_last (hnearest : Direction.previous.Nearest (s.ahead .previous start) found)
    (ho : o.ending = .replied (lastReply pattern found)) :
    Inquiry.Answered (.last start pattern) front s o := by
  refine ⟨found, hnearest, ?_, ?_⟩
  · rw [Outcome.exitCode_replied ho]
    cases found <;> rfl
  · rw [Outcome.output_replied ho]
    cases found <;> rfl

lemma answered_check (hechoes : front.Echoes) {time : Instant} {accepted : Bool}
    (haccepts : s.accepts time = .ok accepted)
    (ho : o.ending = .replied (Request.verdict accepted)) :
    Inquiry.Answered (.check time) front s o := by
  refine ⟨accepted, haccepts, ?_, ?_⟩
  · rw [Outcome.exitCode_replied ho]
    cases accepted <;> rfl
  · rw [Outcome.output_replied ho]
    cases accepted with
    | true => exact hechoes.written_plain (by decide)
    | false => exact hechoes.written_plain (by decide)

lemma answered_validate (hechoes : front.Echoes) (ho : o.ending = Request.validate) :
    Inquiry.Answered .validate front s o := by
  refine ⟨?_, ?_⟩
  · rw [Outcome.exitCode_replied ho]
    rfl
  · rw [Outcome.output_replied ho]
    exact hechoes.written_plain (by decide)

lemma answered_format (hechoes : front.Echoes) (hs : s.timetable.WellFormed)
    (ho : o.ending = Request.format s) : Inquiry.Answered .format front s o := by
  obtain ⟨text, htext, hplain⟩ := Schedule.canonicalText_plain hs
  have hcanonical : s.canonical = .ok text := htext
  rw [Request.format, hcanonical, Ending.ofExcept] at ho
  refine ⟨text, hcanonical, ?_, ?_⟩
  · rw [Outcome.exitCode_replied ho]
    rfl
  · rw [Outcome.output_replied ho]
    exact hechoes.written_plain (by rwa [String.toList_ofList])

/-- An answer does not end with the exit code for a malformed expression. -/
lemma Inquiry.Answered.exitCode_ne {inquiry : Inquiry} (h : inquiry.Answered front s o) :
    o.exitCode ≠ 1 := by
  cases inquiry with
  | validate => simp [h.1]
  | format =>
      obtain ⟨_, -, hexit, -⟩ := h
      simp [hexit]
  | next start count pattern json =>
      obtain ⟨times, -, hexit, -⟩ := h
      rw [hexit]
      split <;> decide
  | last start pattern =>
      obtain ⟨found, -, hexit, -⟩ := h
      rw [hexit]
      split <;> decide
  | check time =>
      obtain ⟨accepted, -, hexit, -⟩ := h
      rw [hexit]
      cases accepted <;> decide

/-- **What is asked about an expression, a request answers with its schedule.** -/
theorem Request.answers (hechoes : front.Echoes) (q : Request) {c : Settings} {expression : String}
    {inquiry : Inquiry} (hasks : Asks c q.now q.invocation expression inquiry)
    (hdefault : q.settings.defaultCount = c.defaultCount)
    (hformat : q.settings.datetimeFormat = c.datetimeFormat) (hs : s.timetable.WellFormed)
    (ho : o.ending = (q.answerAbout front s).value) : inquiry.Answered front s o := by
  obtain ⟨invocation, settings, now⟩ := q
  cases hasks with
  | validate => exact answered_validate hechoes ho
  | format => exact answered_format hechoes hs ho
  | next hstart hcount hpattern =>
      obtain ⟨times, hlists, hvalue⟩ :=
        next_value front hs hstart hcount hpattern hdefault hformat
      exact answered_next hechoes hlists hcount.pos (ho.trans hvalue)
  | last hstart hpattern =>
      obtain ⟨found, hnearest, hvalue⟩ := last_value front hs hstart hpattern hformat
      exact answered_last hnearest (ho.trans hvalue)
  | check htime =>
      have hdate := Instant.ofIso?_isDatetime htime
      obtain ⟨accepted, haccepts⟩ := hs.daysDecided.accepts_ok hdate.1 hdate.2.1
      exact answered_check hechoes haccepts (ho.trans (check_eq htime haccepts))

end Answers

/-! ## All commands -/

/-- **The commands agree with the schedules**, whatever reads the arguments and the files.  Take a
run whose arguments can be read as options and what is asked for.  If its settings cannot be loaded,
or a log level that it asks for is not known, it ends with 4.

Otherwise let a command be asked something about an expression that is not overlong.  It ends with 1
exactly if the expression is malformed, and then prints nothing and complains, after what it logs,
in the words of the error.  If the expression is parsed, in the mode of the settings, the command
answers what it is asked with the schedule: `next` prints the first fire times after its start, as
many as it is asked for if there are so many, and ends with 2 if there is none; `last` prints the
latest fire time before its start or ends with 2; `check` ends with 0 or 3.  Fire times are written
by the pattern that is asked for, if it is not empty, or else that of the settings. -/
theorem commands_exact {platform : Platform} (hechoes : platform.front.Echoes) {call : Call}
    {options : Options} {asked : Except Exit Invocation}
    (hread : platform.front.read call.lookup call.arguments = .ok (options, asked)) :
    let load :=
      Settings.load platform.read platform.depth options.config call.environment call.lookup
    let o := call.run platform
    (∀ e, load = .error e → e.kindOf = .configuration → o.exitCode = 4) ∧
    ∀ c, load = .ok c →
      (∀ text, options.logLevel = some text → Threshold.ofName? text = none → o.exitCode = 4) ∧
      ((∀ text, options.logLevel = some text → (Threshold.ofName? text).isSome = true) →
      ∀ invocation expression inquiry, asked = .ok invocation →
        Asks c call.now invocation expression inquiry →
        let parsed := Schedule.parse c.strictDayPairing expression.toList
        (∀ e, parsed ≠ .error (.overlong e)) →
        (o.exitCode = 1 ↔ ∃ e, parsed = .error (.malformed e)) ∧
        (∀ e, parsed = .error (.malformed e) → o.output platform.front = "" ∧
          o.complaints platform.front =
            o.log ++ platform.front.echo ("Error: " ++ e.describe)) ∧
        ∀ s, parsed = .ok s → inquiry.Answered platform.front s o) := by
  refine ⟨?load, fun c hload => ⟨?level, ?answers⟩⟩
  case load =>
    intro e hload he
    refine Call.run_of_settings_error hread ?_ he
    rw [Call.settings, hload, error_bind]
  case level =>
    intro text htext hlevel
    obtain ⟨e, hsettings, he⟩ := Call.settings_error hload htext hlevel
    exact Call.run_of_settings_error hread hsettings he
  intro hlevel invocation expression inquiry hasked hasks parsed hshort
  obtain ⟨level, hsettings⟩ := Call.settings_ok hload hlevel
  have hending := Call.run_ending hread hsettings hasked
  obtain rfl := hasks.expression_eq
  have hmalformed : ∀ e, parsed = .error (.malformed e) →
      (call.run platform).ending = .replied (.complain .malformed e.describe) := by
    intro e he
    rw [hending]
    exact Request.answer_of_malformed he
  have hparsed : ∀ s, parsed = .ok s → inquiry.Answered platform.front s (call.run platform) := by
    intro s hs
    exact Request.answers hechoes ⟨invocation, { c with logLevel := level }, call.now⟩ hasks rfl rfl
      (Schedule.parse_wellFormed hs) (hending.trans (Request.answer_of_parse hs))
  refine ⟨?exit, ?complaint, hparsed⟩
  case exit =>
    constructor
    · intro hexit
      cases hresult : parsed with
      | ok s => exact absurd hexit (hparsed s hresult).exitCode_ne
      | error failure =>
          cases failure with
          | malformed e => exact ⟨e, rfl⟩
          | overlong o => exact absurd hresult (hshort o)
    · rintro ⟨e, he⟩
      rw [Outcome.exitCode_replied (hmalformed e he)]
      rfl
  case complaint =>
    intro e he
    constructor
    · rw [Outcome.output_replied (hmalformed e he)]
      rfl
    · rw [Outcome.complaints_replied (hmalformed e he)]
      exact congrArg _ (FrontEnd.written_singleton _ _)

/-- Two fire times with the pattern of the environment, for an expression after two dashes. -/
theorem commands_exact_spelled :
    let call : Call := ⟨["--log-level", "info", "next", "--count", "2", "--from", "2024-02-28",
      "--", "0 0 12 29 2 ?"], [("CRONEXPR_DATETIME_FORMAT", "%d %B %Y")], fun _ => .absent,
      ⟨⟨2024, 1, 1, 0, 0, 0⟩, 0, none⟩, ⟨"<time>", "<time>"⟩⟩
    let o := call.run (.standard 80)
    ∃ s, Schedule.parse false "0 0 12 29 2 ?".toList = .ok s ∧ o.exitCode ≠ 1 ∧
      Inquiry.Answered (.next ⟨⟨2024, 2, 28, 0, 0, 0⟩, 0, none⟩ 2 "%d %B %Y" false)
        (.standard 80) s o := by
  intro call o
  let invocation : Invocation := .next "0 0 12 29 2 ?" (some "2024-02-28") (some 2) none false
  have hechoes : (Platform.standard 80).front.Echoes := FrontEnd.standard_echoes 80
  have hread : (Platform.standard 80).front.read call.lookup call.arguments =
      .ok (⟨none, some "info"⟩, .ok invocation) :=
    readArguments_spelled 80 call.lookup .next [(.logLevel, "info")]
      [(.count, "2"), (.start, "2024-02-28")] ["0 0 12 29 2 ?"] (by decide) rfl (by decide)
      (by decide)
  obtain ⟨c, hload, hc⟩ : ∃ c,
      Settings.load .standard messageDepth none call.environment call.lookup = .ok c ∧
        (c.strictDayPairing == false && c.datetimeFormat == .whole "%d %B %Y") = true :=
    exists_ok_of_any (by decide +kernel)
  obtain ⟨hstrict, hformat⟩ :
      c.strictDayPairing = false ∧ c.datetimeFormat = .whole "%d %B %Y" := by
    simpa using hc
  obtain ⟨s, hs⟩ : ∃ s, Schedule.parse c.strictDayPairing "0 0 12 29 2 ?".toList = .ok s := by
    rw [hstrict]
    exact exists_ok_of_isSome (by decide +kernel)
  have hasks : Asks c call.now invocation "0 0 12 29 2 ?"
      (.next ⟨⟨2024, 2, 28, 0, 0, 0⟩, 0, none⟩ 2 "%d %B %Y" false) :=
    .next (.inl ⟨"2024-02-28", rfl, by decide +kernel⟩) (.inl ⟨rfl, by decide⟩)
      (.inr ⟨.inl rfl, hformat⟩)
  have hknown : (Threshold.ofName? "info").isSome = true := by decide +kernel
  have hlevel : ∀ text, some "info" = some text → (Threshold.ofName? text).isSome = true := by
    intro text htext
    exact Option.some.inj htext ▸ hknown
  obtain ⟨-, hanswers⟩ := commands_exact hechoes hread
  obtain ⟨hexit, -, hanswered⟩ :=
    (hanswers c hload).2 hlevel invocation _ _ rfl hasks (by rw [hs]; nofun)
  refine ⟨s, hstrict ▸ hs, ?_, hanswered s hs⟩
  rw [Ne, hexit, hs]
  rintro ⟨e, he⟩
  cases he

/-- A control sequence in a pattern is not printed, and by a pattern with a surrogate nothing is. -/
theorem control_sequence_unprinted :
    let now : Instant := ⟨⟨2024, 1, 1, 0, 0, 0⟩, 0, none⟩
    let broken := "\x7b\"datetime_format\": \"\\ud800\"\x7d".toUTF8
    let asking := ["next", "0 0 2 1 * ? *", "--from", "2020-04-16", "--count", "1"]
    let run := fun (arguments : List String) =>
      Call.run (.standard 80) ⟨arguments, [], fun _ => .file broken, now, ⟨"<time>", "<time>"⟩⟩
    let output := fun arguments => (run arguments).output (.standard 80)
    let start : Instant := ⟨⟨2020, 4, 16, 0, 0, 0⟩, 0, none⟩
    let found : Instant := ⟨⟨2020, 5, 1, 2, 0, 0⟩, 0, none⟩
    ((Schedule.parse false "0 0 2 1 * ? *".toList).toOption.any fun s =>
        (s.fireTimes .next 1 start).toOption == some [found]) = true ∧
      found.formatString "\x1b[1m%Y" = "\x1b[1m2020" ∧
      output (asking ++ ["--format", "\x1b[1m%Y"]) = "2020\n" ∧
      output (asking ++ ["--format", "\x1b[1m%Y"]) ≠ found.formatString "\x1b[1m%Y" ++ "\n" ∧
      (Settings.load .standard messageDepth (some "c.json") [] fun _ => .file broken).isOk = true ∧
      (run ("--config" :: "c.json" :: asking)).exitCode = 1 ∧
      output ("--config" :: "c.json" :: asking) = "" := by
  decide +kernel

end CommandLine

end CronSchedule
