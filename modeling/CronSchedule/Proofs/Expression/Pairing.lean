import CronSchedule.Proofs.Expression.WordByWord

/-!
# Pairing the day fields

By convention exactly one of the day fields is `?`.  Strict mode enforces the convention and is
otherwise like the usual mode, which only reports a breach.

* `Timetable.PairsDays` — the convention; `pairingDefect?_cases` — how it is broken.
* `compile_of_ok`, `compile_of_error` — what strict mode makes of a result and of a failure.
* `warnings_of_ok` — what is warned of when an expression compiles.
* **`strict_pairing`** — the two modes differ exactly where the convention is broken.
-/

namespace CronSchedule

open Calendar Text

/-! ## The convention -/

namespace Timetable

variable {t : Timetable}

/-- Exactly one of the day fields is `?`. -/
def PairsDays (t : Timetable) : Prop :=
  Xor (t.dayOfMonth = .unspecified) (t.dayOfWeek = .unspecified)

/-- Both day fields are `?`. -/
def LeavesDayOpen (t : Timetable) : Prop :=
  t.dayOfMonth = .unspecified ∧ t.dayOfWeek = .unspecified

instance : Decidable t.LeavesDayOpen :=
  inferInstanceAs (Decidable (_ ∧ _))

/-- The convention holds, or it is broken in one of two ways. -/
lemma pairingDefect?_cases (t : Timetable) :
    (t.PairsDays ∧ ¬t.LeavesDayOpen ∧ t.pairingDefect? = none) ∨
    (¬t.PairsDays ∧ t.LeavesDayOpen ∧ t.pairingDefect? = some .bothDaysOpen) ∨
    (¬t.PairsDays ∧ ¬t.LeavesDayOpen ∧ t.pairingDefect? = some .noDayOpen) := by
  obtain ⟨second, minute, hour, dayOfMonth, month, dayOfWeek, year⟩ := t
  simp only [PairsDays, LeavesDayOpen, Xor]
  by_cases hmonth : dayOfMonth = .unspecified
  · by_cases hweek : dayOfWeek = .unspecified
    · subst hmonth hweek
      exact Or.inr (Or.inl (by simp [pairingDefect?]))
    · refine Or.inl ⟨by simp [hmonth, hweek], by simp [hweek], ?_⟩
      subst hmonth
      cases dayOfWeek <;> simp_all [pairingDefect?]
  · by_cases hweek : dayOfWeek = .unspecified
    · refine Or.inl ⟨by simp [hmonth, hweek], by simp [hmonth], ?_⟩
      subst hweek
      cases dayOfMonth <;> simp_all [pairingDefect?]
    · refine Or.inr (Or.inr ⟨by simp [hmonth, hweek], by simp [hmonth], ?_⟩)
      cases dayOfMonth <;> cases dayOfWeek <;> simp_all [pairingDefect?]

/-- If both day fields are `?`, every day matches, whether the calendar has it or not. -/
lemma dayMatches_of_leavesDayOpen (h : t.LeavesDayOpen) (date : Date) :
    t.dayMatches date = .ok true := by
  simp only [dayMatches, h.1, h.2, Constraint.isRestricted]
  rfl

end Timetable

namespace Expression

variable {text : List Char} {t : Timetable}

/-! ## Strict mode -/

/-- In strict mode a timetable may be refused, with an error at the word of the day of week. -/
lemma compile_of_ok (strict : Bool) (ht : compile false text = .ok t) :
    ∃ word, (words (expandAlias text))[Field.dayOfWeek.index]? = some word ∧
      compile strict text = match strict, t.pairingDefect? with
        | true, some defect => (Token.atWord (expandAlias text) .dayOfWeek word).fail defect 0
        | _, _ => .ok t := by
  obtain ⟨tokens, htokens, hcompile, -⟩ := compile_eq_ok_iff.1 ht
  have htoken : tokens.token? .dayOfWeek = some tokens.dayOfWeek := rfl
  obtain ⟨word, hword, htoken⟩ := tokenize_token htokens htoken
  refine ⟨word, hword, ?_⟩
  rw [compile, htokens, mapError_ok, ok_bind, hcompile, ok_bind, htoken]
  rfl

lemma compile_of_error {failure : Failure} (strict : Bool)
    (h : compile false text = .error failure) : compile strict text = .error failure := by
  rw [compile_lenient] at h
  rw [compile]
  cases htokens : (tokenize text).mapError Failure.malformed with
  | error e =>
      rw [htokens] at h
      exact h
  | ok tokens =>
      rw [htokens, ok_bind] at h
      rw [ok_bind, h, error_bind]

/-- What is compiled in strict mode is compiled in the usual mode. -/
lemma lenient_of_strict (h : compile true text = .ok t) : compile false text = .ok t := by
  obtain ⟨tokens, htokens, hcompile, -⟩ := compile_eq_ok_iff.1 h
  exact compile_eq_ok_iff.2 ⟨tokens, htokens, hcompile, nofun⟩

lemma strict_of_pairsDays (ht : compile false text = .ok t) (h : t.PairsDays) :
    compile true text = .ok t := by
  obtain ⟨tokens, htokens, hcompile, -⟩ := compile_eq_ok_iff.1 ht
  refine compile_eq_ok_iff.2 ⟨tokens, htokens, hcompile, fun _ => ?_⟩
  rcases t.pairingDefect?_cases with ⟨-, -, hnone⟩ | ⟨hnot, -, -⟩ | ⟨hnot, -, -⟩
  · exact hnone
  · exact absurd h hnot
  · exact absurd h hnot

/-! ## Records -/

/-- The records at the level of warnings or above it. -/
def warnings (records : List Log.Record) : List Log.Record :=
  records.filter fun r => Log.Level.warning ≤ r.level

/-- **What compiles without strict mode warns of a day that is left open**, and of nothing else. -/
theorem warnings_of_ok (ht : compile false text = .ok t) :
    warnings (compileRecords false text) =
      if t.LeavesDayOpen then [pairingRecord text .bothDaysOpen] else [] := by
  simp only [compileRecords, ht]
  rcases t.pairingDefect?_cases with ⟨-, hopen, hdefect⟩ | ⟨-, hopen, hdefect⟩ | ⟨-, hopen, hdefect⟩
  · rw [if_neg hopen, hdefect]
    rfl
  · rw [if_pos hopen, hdefect]
    rfl
  · rw [if_neg hopen, hdefect]
    rfl

/-! ## The two modes -/

/-- **Strict mode refuses just what breaks the convention for the day fields.**  An expression
compiles in strict mode exactly if it compiles otherwise, with one of the day fields being `?`, and
then to the same timetable.  What fails otherwise fails alike in strict mode.  What only strict mode
refuses is refused at the word of the day of week.  Otherwise there is a single warning if both day
fields are `?`, and then every day matches; in all other cases there is none. -/
theorem strict_pairing (text : List Char) :
    (∀ t, compile true text = .ok t ↔ compile false text = .ok t ∧ t.PairsDays) ∧
    (∀ failure, compile false text = .error failure → compile true text = .error failure) ∧
    (∀ t failure, compile false text = .ok t → compile true text = .error failure →
      ∃ (position : Nat) (word : List Char) (defect : Defect),
        (words (expandAlias text))[Field.dayOfWeek.index]? = some (position, word) ∧
        t.pairingDefect? = some defect ∧
        failure = .malformed ⟨.inField .dayOfWeek (upper word) position defect, expandAlias text,
          position, some .dayOfWeek⟩) ∧
    (∀ t, compile false text = .ok t →
      (t.LeavesDayOpen → ∀ date, t.dayMatches date = .ok true) ∧
      (t.LeavesDayOpen ↔
        ∃ r, r.level = .warning ∧ warnings (compileLogged false text).records = [r]) ∧
      (¬t.LeavesDayOpen ↔ warnings (compileLogged false text).records = [])) := by
  refine ⟨fun t => ⟨fun h => ⟨lenient_of_strict h, ?_⟩, fun h => strict_of_pairsDays h.1 h.2⟩,
    fun failure => compile_of_error true, fun t failure ht hfailure => ?_, fun t ht => ?_⟩
  · obtain ⟨-, -, -, hnone⟩ := compile_eq_ok_iff.1 h
    have hnone := hnone rfl
    rcases t.pairingDefect?_cases with ⟨hpairs, -, -⟩ | ⟨-, -, hsome⟩ | ⟨-, -, hsome⟩
    · exact hpairs
    · simp [hsome] at hnone
    · simp [hsome] at hnone
  · obtain ⟨⟨position, word⟩, hword, hresult⟩ := compile_of_ok true ht
    rw [hfailure] at hresult
    cases hdefect : t.pairingDefect? with
    | none =>
        rw [hdefect] at hresult
        cases hresult
    | some defect =>
        refine ⟨position, word, defect, hword, rfl, ?_⟩
        rw [hdefect] at hresult
        simpa [Token.fail, Token.malformed, Token.atWord] using hresult
  · have hwarnings : warnings (compileLogged false text).records = _ := warnings_of_ok ht
    rw [hwarnings]
    by_cases hopen : t.LeavesDayOpen
    · rw [if_pos hopen]
      exact ⟨Timetable.dayMatches_of_leavesDayOpen, iff_of_true hopen ⟨_, rfl, rfl⟩,
        iff_of_false (not_not_intro hopen) (List.cons_ne_nil _ _)⟩
    · rw [if_neg hopen]
      exact ⟨fun h => absurd h hopen, iff_of_false hopen (by simp), iff_of_true hopen rfl⟩

/-- Two open day fields: the weekday stands at 11, where strict mode refuses it, and the usual mode
warns that 30 February would match. -/
theorem strict_pairing_both_open :
    let text := "0 0 12 ? * ?".toList
    ∃ t, compile false text = .ok t ∧ t.LeavesDayOpen ∧ ¬t.PairsDays ∧
      compile true text = .error (.malformed
        ⟨.inField .dayOfWeek ['?'] 11 .bothDaysOpen, text, 11, some .dayOfWeek⟩) ∧
      (∃ r, r.level = .warning ∧ warnings (compileLogged false text).records = [r]) ∧
      t.dayMatches ⟨2023, 2, 30⟩ = .ok true := by
  intro text
  obtain ⟨-, -, hrefused, hwarned⟩ := strict_pairing text
  obtain ⟨t, ht, hopen⟩ : ∃ t, compile false text = .ok t ∧
      (Except.ok (decide t.LeavesDayOpen) : Except Unit Bool) = .ok true :=
    exists_ok_of_toOption (by decide +kernel)
  have hopen : t.LeavesDayOpen := of_decide_eq_true (Except.ok.inj hopen)
  obtain ⟨failure, hfailure⟩ : ∃ failure, compile true text = .error failure :=
    exists_error_of_isNone (by decide +kernel)
  obtain ⟨position, word, defect, hword, hdefect, rfl⟩ := hrefused t failure ht hfailure
  have hwords : (words (expandAlias text))[Field.dayOfWeek.index]? = some (11, ['?']) := by
    decide +kernel
  obtain ⟨rfl, rfl⟩ : 11 = position ∧ ['?'] = word := by simpa using hwords.symm.trans hword
  obtain ⟨hmatches, hwarning, -⟩ := hwarned t ht
  rcases t.pairingDefect?_cases with ⟨-, hnot, -⟩ | ⟨hpairs, -, hboth⟩ | ⟨-, hnot, -⟩
  · exact absurd hopen hnot
  · obtain rfl : defect = .bothDaysOpen := Option.some.inj (hdefect.symm.trans hboth)
    refine ⟨t, ht, hopen, hpairs, ?_, hwarning.1 hopen, hmatches hopen _⟩
    rw [hfailure, show expandAlias text = text by decide +kernel,
      show upper ['?'] = ['?'] by decide]
    rfl
  · exact absurd hopen hnot

end Expression

end CronSchedule
