import CronSchedule.Proofs.Expression.Completeness
import CronSchedule.Proofs.Expression.Tokens
import CronSchedule.Proofs.Timetable.WellFormed

/-!
# What expressions compile to

An expression compiles word by word: each field has the constraint of its token, and a year that is
left out is a wildcard.

* `FieldDenotes.wellFormed` — what a text denotes in a field is well-formed there.
* `tokens_compile_iff`, `compile_eq_ok_iff` — when tokens and when an expression compile.
* **`compile_refusal`** — an expression compiles, or one of its words is refused.
* **`compile_denotes`** — what the words of an expression mean if it compiles.
* **`compile_wellFormed`** — an expression compiles to a well-formed timetable.
-/

namespace CronSchedule.Expression

open Text

/-! ## Meanings are well-formed -/

section Meanings

variable {field : Field} {text : List Char}

lemma IsValue.mem_Icc {value : Int} (h : IsValue field text value) :
    value ∈ Set.Icc field.low field.high := by
  have hrange := h.contains
  simpa [Field.contains] using hrange

/-- A term denotes values of its field. -/
lemma TermValues.subset {set : Set Int} (h : TermValues field text set) :
    set ⊆ Set.Icc field.low field.high := by
  have hsteps : ∀ {first last : Int} {step : Nat}, field.low ≤ first → last ≤ field.high →
      stepsUpTo first step last ⊆ Set.Icc field.low field.high := fun hlow hhigh =>
    (stepsUpTo_subset _ _ _).trans (Set.Icc_subset_Icc hlow hhigh)
  cases h with
  | every => exact subset_rfl
  | value h => exact Set.singleton_subset_iff.2 h.mem_Icc
  | range h =>
      obtain ⟨hfirst, hlast, hle⟩ := h
      exact Set.Icc_subset_Icc hfirst.mem_Icc.1 hlast.mem_Icc.2
  | everyStep h => exact hsteps le_rfl le_rfl
  | valueStep hbase h => exact hsteps hbase.mem_Icc.1 le_rfl
  | rangeStep hbase h =>
      obtain ⟨hfirst, hlast, hle⟩ := hbase
      exact hsteps hfirst.mem_Icc.1 hlast.mem_Icc.2

lemma TermValues.subset_of_mem {terms : List (List Char)} {sets : List (Set Int)} {set : Set Int}
    (h : List.Forall₂ (TermValues field) terms sets) (hset : set ∈ sets) :
    set ⊆ Set.Icc field.low field.high := by
  induction h with
  | nil => cases hset
  | cons hterm _ ih =>
      rcases List.mem_cons.1 hset with rfl | hset
      · exact hterm.subset
      · exact ih hset

lemma MarkerDenotes.wellFormed {constraint : Constraint}
    (h : MarkerDenotes field text constraint) : constraint.WellFormed field := by
  cases h with
  | unspecified h => exact .unspecified h
  | lastDay => exact .rule (.lastDay le_rfl (by decide))
  | lastWorkday => exact .rule .lastWorkday
  | beforeLastDay hdigits hle =>
      exact .rule (.lastDay (Int.natCast_nonneg _) (by exact_mod_cast hle))
  | nearestWorkday h => exact .rule (.nearestWorkday h.mem_Icc.1 h.mem_Icc.2)
  | saturday => exact .values (ValueSet.single_wellFormed (by decide))
  | lastWeekday h => exact .rule (.lastWeekday h.mem_Icc.1 h.mem_Icc.2)
  | nthWeekday h hdigits hpos hle =>
      exact .rule (.nthWeekday h.mem_Icc.1 h.mem_Icc.2 (by exact_mod_cast hpos)
        (by exact_mod_cast hle))

/-- **What a text denotes in a field is well-formed there.** -/
theorem FieldDenotes.wellFormed {constraint : Constraint}
    (h : FieldDenotes field text constraint) : constraint.WellFormed field := by
  cases h with
  | wildcard hmark hset => exact .values ⟨hset.subset, fun _ => hset⟩
  | marker h => exact h.wellFormed
  | list hne hstar hterms hmark hset =>
      refine .values ⟨?_, fun htrue => by simp [hmark] at htrue⟩
      rw [hset]
      rintro v ⟨set, hmem, hv⟩
      exact TermValues.subset_of_mem hterms hmem hv

end Meanings

/-! ## Tokens -/

/-- A field compiles to a constraint; a field that is left out, to a wildcard. -/
def Tokens.CompilesTo (tokens : Tokens) (field : Field) (constraint : Constraint) : Prop :=
  match tokens.token? field with
  | some token => compileField token = .ok constraint
  | none => constraint = .values (.full field true)

lemma compileField_of_day {token : Token} (h : token.field.isDay = true) :
    compileField token = token.compileDay :=
  if_pos h

/-- A field that is no day field compiles to a set of values. -/
lemma compileField_eq_values_iff {token : Token} (h : token.field.isDay = false)
    {set : ValueSet} :
    compileField token = .ok (.values set) ↔ token.compileValues = .ok set := by
  rw [compileField, if_neg (by simp [h])]
  cases token.compileValues with
  | error e => simp
  | ok found => simp

/-- The set of values of a year token, or of a year that is left out. -/
def Tokens.compileYear (tokens : Tokens) : Except Failure ValueSet :=
  match tokens.year with
  | some token => token.compileValues
  | none => .ok (.full .year true)

/-- Compiling tokens, taken apart into its seven steps. -/
lemma tokens_compile_eq_ok_iff {tokens : Tokens} {t : Timetable} : tokens.compile = .ok t ↔
    tokens.second.compileValues = .ok t.second ∧ tokens.minute.compileValues = .ok t.minute ∧
    tokens.hour.compileValues = .ok t.hour ∧ tokens.dayOfMonth.compileDay = .ok t.dayOfMonth ∧
    tokens.month.compileValues = .ok t.month ∧ tokens.dayOfWeek.compileDay = .ok t.dayOfWeek ∧
    tokens.compileYear = .ok t.year := by
  have hcompile : tokens.compile = (do
      let second ← tokens.second.compileValues
      let minute ← tokens.minute.compileValues
      let hour ← tokens.hour.compileValues
      let dayOfMonth ← tokens.dayOfMonth.compileDay
      let month ← tokens.month.compileValues
      let dayOfWeek ← tokens.dayOfWeek.compileDay
      let year ← tokens.compileYear
      return ⟨second, minute, hour, dayOfMonth, month, dayOfWeek, year⟩) := by
    simp only [Tokens.compile, Tokens.compileYear]
    cases tokens.year <;> rfl
  rw [hcompile]
  simp only [bind_eq_ok_iff, pure_eq_ok_iff]
  constructor
  · rintro ⟨_, hsecond, _, hminute, _, hhour, _, hdays, _, hmonth, _, hweek, _, hyear, rfl⟩
    exact ⟨hsecond, hminute, hhour, hdays, hmonth, hweek, hyear⟩
  · rintro ⟨hsecond, hminute, hhour, hdays, hmonth, hweek, hyear⟩
    exact ⟨_, hsecond, _, hminute, _, hhour, _, hdays, _, hmonth, _, hweek, _, hyear, rfl⟩

/-- **Tokens compile exactly when every field does.** -/
theorem tokens_compile_iff {tokens : Tokens} (hplace : tokens.InPlace) {t : Timetable} :
    tokens.compile = .ok t ↔ ∀ field, tokens.CompilesTo field (t.constraint field) := by
  have hvalues : ∀ field {token}, tokens.token? field = some token → field.isDay = false →
      ∀ set, token.compileValues = .ok set ↔ compileField token = .ok (.values set) :=
    fun _ _ htoken hfield set => (compileField_eq_values_iff (hplace _ _ htoken ▸ hfield)).symm
  have hday : ∀ field {token}, tokens.token? field = some token → field.isDay = true →
      token.compileDay = compileField token :=
    fun _ _ htoken hfield => (compileField_of_day (hplace _ _ htoken ▸ hfield)).symm
  have hyear : tokens.compileYear = .ok t.year ↔ tokens.CompilesTo .year (.values t.year) := by
    simp only [Tokens.compileYear, Tokens.CompilesTo]
    cases h : tokens.token? .year with
    | none => simp [show tokens.year = none from h, eq_comm]
    | some token =>
        rw [show tokens.year = some token from h]
        exact hvalues .year h rfl t.year
  rw [tokens_compile_eq_ok_iff, hvalues .second rfl rfl,
    hvalues .minute rfl rfl, hvalues .hour rfl rfl,
    hday .dayOfMonth rfl rfl, hvalues .month rfl rfl,
    hday .dayOfWeek rfl rfl, hyear]
  constructor
  · rintro ⟨hsecond, hminute, hhour, hdays, hmonth, hweek, hyear⟩ field
    cases field <;> assumption
  · intro h
    exact ⟨h .second, h .minute, h .hour, h .dayOfMonth, h .month, h .dayOfWeek, h .year⟩

/-- One of the tokens is refused. -/
def Tokens.Refuses (tokens : Tokens) (failure : Failure) : Prop :=
  ∃ field token, tokens.token? field = some token ∧ token.Refuses failure

/-- Tokens compile, or one of them is refused. -/
lemma tokens_compile_outcome {tokens : Tokens} (hplace : tokens.InPlace) :
    Outcome tokens.Refuses (fun _ => True) tokens.compile := by
  have hvalues : ∀ field {token}, tokens.token? field = some token →
      Outcome tokens.Refuses (fun _ => True) token.compileValues :=
    fun field token htoken => (compileValues_outcome token).imp
      (fun failure h => ⟨field, token, htoken, h⟩) fun _ _ => trivial
  have hdays : ∀ field {token}, tokens.token? field = some token → field.isDay = true →
      Outcome tokens.Refuses (fun _ => True) token.compileDay :=
    fun field token htoken hday => (compileDay_outcome (hplace _ _ htoken ▸ hday)).imp
      (fun failure h => ⟨field, token, htoken, h⟩) fun _ _ => trivial
  simp only [Tokens.compile]
  refine (hvalues .second rfl).bind fun _ _ => ?_
  refine (hvalues .minute rfl).bind fun _ _ => ?_
  refine (hvalues .hour rfl).bind fun _ _ => ?_
  refine (hdays .dayOfMonth rfl rfl).bind fun _ _ => ?_
  refine (hvalues .month rfl).bind fun _ _ => ?_
  refine (hdays .dayOfWeek rfl rfl).bind fun _ _ => ?_
  cases hyear : tokens.year with
  | none => exact trivial
  | some token => exact (hvalues .year hyear).bind fun _ _ => trivial

/-! ## Expressions -/

lemma pairingDefect?_ne_forbidden {t : Timetable} {defect : Defect}
    (h : t.pairingDefect? = some defect) (c : Char) : defect ≠ .forbidden c := by
  rintro rfl
  unfold Timetable.pairingDefect? at h
  split at h <;> cases h

/-- **An expression compiles, or one of its words is refused**, unless what is wrong is not in a
field. -/
theorem compile_refusal (strict : Bool) (expression : List Char) :
    Outcome
      (fun failure => (∃ e, failure = .malformed e ∧ e.field = none) ∨
        RefusesWord (expandAlias expression) (words (expandAlias expression)) failure)
      (fun _ => True) (compile strict expression) := by
  rw [compile]
  cases htokens : tokenize expression with
  | error e =>
      refine ((tokenize_outcome expression).of_eq_error htokens).imp (fun hnone => ?_) fun h => h
      exact ⟨e, rfl, hnone⟩
  | ok tokens =>
      have hrefuses : ∀ {field token failure}, tokens.token? field = some token →
          token.Refuses failure →
          RefusesWord (expandAlias expression) (words (expandAlias expression)) failure := by
        intro field token failure htoken h
        obtain ⟨word, hword, rfl⟩ := tokenize_token htokens htoken
        exact ⟨field, word, hword, h⟩
      refine ((tokens_compile_outcome (tokenize_inPlace htokens)).imp ?_ fun _ h => h).bind
        fun t _ => ?_
      · rintro failure ⟨field, token, htoken, h⟩
        exact Or.inr (hrefuses htoken h)
      · split
        · rename_i defect hdefect
          have hweek : tokens.token? .dayOfWeek = some tokens.dayOfWeek := rfl
          have hfails : Outcome tokens.dayOfWeek.Refuses (fun _ : Timetable => True)
              (tokens.dayOfWeek.fail defect 0) :=
            fail_outcome (Nat.zero_le _) defect (pairingDefect?_ne_forbidden hdefect)
          exact Or.inr (hrefuses hweek hfails)
        · exact trivial

/-- Compiling an expression, taken apart. -/
lemma compile_eq_ok_iff {strict : Bool} {expression : List Char} {t : Timetable} :
    compile strict expression = .ok t ↔ ∃ tokens, tokenize expression = .ok tokens ∧
      tokens.compile = .ok t ∧ (strict = true → t.pairingDefect? = none) := by
  simp only [compile]
  simp only [bind_eq_ok_iff, mapError_eq_ok_iff]
  constructor
  · rintro ⟨tokens, htokens, found, hcompile, hpairing⟩
    split at hpairing
    · cases hpairing
    · rename_i hnone
      cases hpairing
      refine ⟨tokens, htokens, hcompile, fun hstrict => ?_⟩
      exact Option.eq_none_iff_forall_ne_some.2 fun defect => hnone defect hstrict
  · rintro ⟨tokens, htokens, hcompile, hpairing⟩
    refine ⟨tokens, htokens, t, hcompile, ?_⟩
    split
    · rename_i defect hdefect
      rw [hpairing rfl] at hdefect
      cases hdefect
    · rfl

/-- **Every word of an expression that compiles denotes the constraint of its field.** -/
theorem compile_denotes {strict : Bool} {expression : List Char} {t : Timetable}
    (h : compile strict expression = .ok t) :
    (words (expandAlias expression)).length ≤ 7 ∧ ∀ (field : Field) (word : Nat × List Char),
      (words (expandAlias expression))[field.index]? = some word →
      FieldDenotes field (upper word.2) (t.constraint field) := by
  obtain ⟨tokens, htokens, hcompile, -⟩ := compile_eq_ok_iff.1 h
  obtain ⟨hlength, htoken⟩ := (tokenize_outcome expression).of_eq_ok htokens
  refine ⟨hlength, fun field word hword => ?_⟩
  have hfield := (tokens_compile_iff (tokenize_inPlace htokens)).1 hcompile field
  rw [Tokens.CompilesTo, htoken field, hword] at hfield
  exact (compileField_outcome (Token.atWord (expandAlias expression) field word)).of_eq_ok hfield

/-- **An expression compiles to a well-formed timetable.** -/
theorem compile_wellFormed {strict : Bool} {expression : List Char} {t : Timetable}
    (h : compile strict expression = .ok t) : t.WellFormed := by
  obtain ⟨tokens, htokens, hcompile, -⟩ := compile_eq_ok_iff.1 h
  have hplace := tokenize_inPlace htokens
  intro field
  have hfield := (tokens_compile_iff hplace).1 hcompile field
  simp only [Tokens.CompilesTo] at hfield
  split at hfield
  · rename_i token htoken
    have hwellFormed := ((compileField_outcome token).of_eq_ok hfield).wellFormed
    rwa [hplace field token htoken] at hwellFormed
  · rw [hfield]
    exact .values (ValueSet.full_wellFormed field true)

end CronSchedule.Expression
