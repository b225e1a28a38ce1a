import CronSchedule.Constraint.Text
import CronSchedule.Proofs.Expression.Alphabet
import CronSchedule.Proofs.Timetable.WellFormed
import CronSchedule.Proofs.Text.Words
import Mathlib.Tactic.Ring

/-!
# The canonical text of a constraint

The canonical text of a well-formed constraint is a text of its field, and the constraint is what it
denotes there.

* `runsOf_spec`, `runTexts_denotes` — runs of consecutive values and their texts.
* `openProgression_spec` — a progression that is written `start/step`.
* `Prints` — a text denotes a constraint, and it is written with plain characters.
* **`format_prints`** — the canonical text of a well-formed constraint prints it.
-/

namespace CronSchedule

open Expression Text

variable {field : Field}

/-! ## Numbers -/

namespace Field

lemma low_nonneg (field : Field) : 0 ≤ field.low := by
  cases field <;> decide

lemma high_lt (field : Field) : field.high < 10000 := by
  cases field <;> decide

lemma contains_iff {value : Int} :
    field.contains value = true ↔ value ∈ Set.Icc field.low field.high := by
  simp [contains]

end Field

/-- The decimal text of a value of a field denotes it. -/
lemma isValue_ofInt {value : Int} (h : value ∈ Set.Icc field.low field.high) :
    IsValue field (ofInt value) value := by
  have hnonneg : 0 ≤ value := field.low_nonneg.trans h.1
  have hvalue := ofDigits_ofInt hnonneg
  have hrange : field.contains (ofDigits (ofInt value)) = true := by
    rw [hvalue]
    exact Field.contains_iff.2 h
  have hnumeral := IsValue.numeral (isNumeral_ofInt hnonneg) hrange
  rwa [hvalue] at hnumeral

/-! ## Plain texts -/

/-- The characters of canonical text. -/
def plainChars : List Char :=
  ['0', '1', '2', '3', '4', '5', '6', '7', '8', '9', '-', '/', ',', '*', '?', 'L', 'W', '#']

/-- A text is written with the characters of canonical text, and its numerals can be read. -/
structure IsPlain (text : List Char) : Prop where
  shortRuns : ShortRuns text
  chars : ∀ c ∈ text, c ∈ plainChars

namespace IsPlain

variable {a b : List Char} {c : Char}

/-- A short text is plain if its characters are. -/
lemma of_forall {text : List Char} (hlength : text.length ≤ maxDigits)
    (h : text.Forall (· ∈ plainChars)) : IsPlain text :=
  ⟨shortRuns_of_length hlength, List.forall_iff_forall_mem.1 h⟩

lemma append_cons (ha : IsPlain a) (hb : IsPlain b) (hc : c ∈ plainChars)
    (hdigit : isDigit c = false) : IsPlain (a ++ c :: b) where
  shortRuns := ha.shortRuns.append_cons hb.shortRuns hdigit
  chars := List.forall_mem_append.2 ⟨ha.chars, List.forall_mem_cons.2 ⟨hc, hb.chars⟩⟩

lemma nil : IsPlain [] := .of_forall (by decide) (by decide)

lemma joinWith {parts : List (List Char)} (h : ∀ part ∈ parts, IsPlain part) :
    IsPlain (Text.joinWith [','] parts) where
  shortRuns := shortRuns_joinWith (by decide) fun part hpart => (h part hpart).shortRuns
  chars := by
    intro c hc
    rcases mem_joinWith hc with rfl | ⟨part, hpart, hc⟩
    · decide
    · exact (h part hpart).chars c hc

/-- The decimal text of a number of up to four digits. -/
lemma ofInt {n : Int} (hnonneg : 0 ≤ n) (hlt : n < 10000) : IsPlain (Text.ofInt n) where
  shortRuns := shortRuns_ofInt hnonneg hlt
  chars _ hc := List.mem_append_left _ (mem_digits_of_isDigit (isDigit_of_mem_ofInt hnonneg hc))

end IsPlain

/-- The text of a value of a field. -/
lemma isPlain_ofInt {value : Int} (h : value ∈ Set.Icc field.low field.high) :
    IsPlain (ofInt value) :=
  .ofInt (field.low_nonneg.trans h.1) (h.2.trans_lt field.high_lt)

/-- A text denotes a constraint in a field, in plain writing. -/
structure Prints (field : Field) (constraint : Constraint) (text : List Char) : Prop where
  denotes : FieldDenotes field text constraint
  plain : IsPlain text

/-! ## Runs of consecutive values -/

/-- The runs of a list go upwards, and they cover its members and nothing else. -/
lemma runsOf_spec (values : List Int) :
    (∀ run ∈ runsOf values, run.1 ≤ run.2) ∧
      ∀ v, (∃ run ∈ runsOf values, v ∈ Set.Icc run.1 run.2) ↔ v ∈ values := by
  induction values with
  | nil => simp [runsOf]
  | cons value rest ih =>
      obtain ⟨hle, hcover⟩ := ih
      rw [runsOf]
      split
      · rename_i hnil
        simp only [hnil, List.not_mem_nil, false_and, exists_false, false_iff] at hcover
        refine ⟨by simp, fun v => ?_⟩
        simp only [List.mem_cons, List.not_mem_nil, or_false, exists_eq_left, Set.mem_Icc, hcover v]
        omega
      · rename_i first last more heq
        rw [heq] at hle hcover
        obtain ⟨hfirst, hmore⟩ := List.forall_mem_cons.1 hle
        split
        · rename_i hnext
          refine ⟨List.forall_mem_cons.2 ⟨?_, hmore⟩, fun v => ?_⟩
          · dsimp only at hfirst ⊢
            omega
          · rw [List.mem_cons, ← hcover v]
            simp only [List.mem_cons, exists_eq_or_imp, Set.mem_Icc]
            rw [← or_assoc]
            refine or_congr ?_ Iff.rfl
            dsimp only at hfirst
            omega
        · refine ⟨List.forall_mem_cons.2 ⟨le_rfl, hle⟩, fun v => ?_⟩
          rw [List.mem_cons, ← hcover v]
          simp only [List.mem_cons, exists_eq_or_imp, Set.mem_Icc]
          refine or_congr ?_ Iff.rfl
          omega

/-- Plain terms that denote the values of a set between them. -/
structure ListDenotes (field : Field) (terms : List (List Char)) (values : Set Int) : Prop where
  denotes : ∃ sets, List.Forall₂ (TermValues field) terms sets ∧
    values = {v | ∃ set ∈ sets, v ∈ set}
  plain : ∀ term ∈ terms, IsPlain term
  no_star : ['*'] ∉ terms

namespace ListDenotes

variable {a b : List (List Char)} {s u : Set Int} {term : List Char}

lemma nil : ListDenotes field [] ∅ where
  denotes := ⟨[], .nil, by simp⟩
  plain := by simp
  no_star := by simp

lemma append (ha : ListDenotes field a s) (hb : ListDenotes field b u) :
    ListDenotes field (a ++ b) (s ∪ u) where
  denotes := by
    obtain ⟨sets, hsets, rfl⟩ := ha.denotes
    obtain ⟨more, hmore, rfl⟩ := hb.denotes
    refine ⟨sets ++ more, List.rel_append hsets hmore, ?_⟩
    ext v
    simp only [Set.mem_union, Set.mem_ofPred_eq, List.mem_append, or_and_right, exists_or]
  plain := List.forall_mem_append.2 ⟨ha.plain, hb.plain⟩
  no_star hmem := (List.mem_append.1 hmem).elim ha.no_star hb.no_star

lemma single (h : TermValues field term s) (hplain : IsPlain term) (hstar : term ≠ ['*']) :
    ListDenotes field [term] s where
  denotes := ⟨[s], .cons h .nil, by simp⟩
  plain := by simpa using hplain
  no_star := by simpa using hstar.symm

lemma ofInt {value : Int} (h : value ∈ Set.Icc field.low field.high) :
    ListDenotes field [Text.ofInt value] {value} := by
  refine single (.value (isValue_ofInt h)) (isPlain_ofInt h) fun heq => ?_
  have hstar := (isValue_ofInt h).notMem (Field.spells_punctuation (by decide : '*' ∈ _))
  simp [heq] at hstar

end ListDenotes

/-- The texts of a run denote its values. -/
lemma runTexts_denotes {first last : Int} (hle : first ≤ last)
    (hfirst : first ∈ Set.Icc field.low field.high) (hlast : last ∈ Set.Icc field.low field.high) :
    ListDenotes field (runTexts first last) (Set.Icc first last) := by
  simp only [runTexts]
  split_ifs with hlong heq
  · refine .single (.range (.mk (isValue_ofInt hfirst) (isValue_ofInt hlast) hle)) ?_ ?_
    · exact (isPlain_ofInt hfirst).append_cons (isPlain_ofInt hlast) (by decide) (by decide)
    · intro hstar
      have hdash : '-' ∈ ['*'] := hstar ▸ by simp
      simp at hdash
  · subst heq
    rw [Set.Icc_self]
    exact .ofInt hfirst
  · have hpair : Set.Icc first last = {first} ∪ {last} := by
      ext v
      simp only [Set.mem_Icc, Set.mem_union, Set.mem_singleton_iff]
      omega
    rw [hpair]
    exact (ListDenotes.ofInt hfirst).append (ListDenotes.ofInt hlast)

/-- The texts of runs denote the values of all of them. -/
lemma runsTexts_denotes {runs : List (Int × Int)} (hle : ∀ run ∈ runs, run.1 ≤ run.2)
    (hrange : ∀ run ∈ runs, Set.Icc run.1 run.2 ⊆ Set.Icc field.low field.high) :
    ListDenotes field (runs.flatMap fun (first, last) => runTexts first last)
      {v | ∃ run ∈ runs, v ∈ Set.Icc run.1 run.2} := by
  induction runs with
  | nil => simpa using ListDenotes.nil
  | cons run more ih =>
      obtain ⟨hfirst, hmore⟩ := List.forall_mem_cons.1 hle
      obtain ⟨hrun, hranges⟩ := List.forall_mem_cons.1 hrange
      have htexts := runTexts_denotes hfirst (hrun (Set.left_mem_Icc.2 hfirst))
        (hrun (Set.right_mem_Icc.2 hfirst))
      have hunion : {v | ∃ r ∈ run :: more, v ∈ Set.Icc r.1 r.2}
          = Set.Icc run.1 run.2 ∪ {v | ∃ r ∈ more, v ∈ Set.Icc r.1 r.2} := by
        ext v
        simp only [List.mem_cons, exists_eq_or_imp, Set.mem_union, Set.mem_ofPred_eq]
      rw [hunion, List.flatMap_cons]
      exact htexts.append (ih hmore hranges)

/-! ## Progressions that run to the end of the field -/

/-- A list with equal steps is a progression from its first member to its last. -/
lemma hasStep_spec {step a : Int} {rest : List Int} (h : hasStep step (a :: rest) = true) :
    rest.getLastD a = a + step * rest.length ∧
      ∀ v, v ∈ a :: rest ↔ ∃ i : Nat, i ≤ rest.length ∧ v = a + step * i := by
  induction rest generalizing a with
  | nil => simp [List.getLastD]
  | cons b more ih =>
      simp only [hasStep, Bool.and_eq_true, beq_iff_eq] at h
      obtain ⟨hstep, hmore⟩ := h
      obtain ⟨hlast, hmem⟩ := ih hmore
      obtain rfl : b = a + step := by omega
      constructor
      · rw [List.getLastD_cons, hlast, List.length_cons]
        push_cast
        ring
      · intro v
        rw [List.mem_cons, hmem v, List.length_cons]
        constructor
        · rintro (rfl | ⟨i, hi, rfl⟩)
          · exact ⟨0, Nat.zero_le _, by simp⟩
          · exact ⟨i + 1, by omega, by push_cast; ring⟩
        · rintro ⟨i, hi, rfl⟩
          cases i with
          | zero => exact Or.inl (by simp)
          | succ j => exact Or.inr ⟨j, by omega, by push_cast; ring⟩

/-- A set that is written as an open progression has all its steps up to the end of the field. -/
lemma openProgression_spec {high start step : Int} {values : List Int}
    (h : openProgression? high values = some (start, step)) (hle : ∀ v ∈ values, v ≤ high) :
    start ∈ values ∧ start + step ∈ values ∧ 1 < step ∧
      {v | v ∈ values} = stepsUpTo start step.toNat high := by
  unfold openProgression? at h
  split at h
  · rename_i a b c rest
    dsimp only at h
    split_ifs at h with hopen
    obtain ⟨rfl, rfl⟩ := Prod.mk.inj (Option.some.inj h)
    simp only [Bool.and_eq_true, decide_eq_true_eq] at hopen
    obtain ⟨⟨hgap, hsteps⟩, hend⟩ := hopen
    obtain ⟨hlast, hmem⟩ := hasStep_spec hsteps
    have hnext : a + (b - a) ∈ a :: b :: c :: rest := by simp
    simp only [List.getLastD_cons] at hlast hend
    rw [hlast] at hend
    generalize (b :: c :: rest).length = n at hlast hmem hend
    generalize b - a = step at hgap hlast hmem hend hnext
    have hbound : a + step * n ≤ high := hle _ ((hmem _).2 ⟨n, le_rfl, rfl⟩)
    refine ⟨List.mem_cons_self, hnext, hgap, Set.ext fun v => ?_⟩
    rw [Set.mem_ofPred_eq, hmem v, stepsUpTo, Int.toNat_of_nonneg (by omega)]
    constructor
    · rintro ⟨i, hi, rfl⟩
      have hgrowth : step * i ≤ step * n := Int.mul_le_mul_of_nonneg_left (by omega) (by omega)
      exact ⟨⟨i, rfl⟩, by omega⟩
    · rintro ⟨⟨i, rfl⟩, hi⟩
      refine ⟨i, ?_, rfl⟩
      by_contra hgt
      -- one more step than the list has is already past the end of the field
      have hgrowth : step * (n + 1) ≤ step * i :=
        Int.mul_le_mul_of_nonneg_left (by omega) (by omega)
      rw [Int.mul_add, Int.mul_one] at hgrowth
      omega
  · cases h

/-! ## What is printed -/

/-- Terms that denote the members of a set print it. -/
lemma ListDenotes.prints {terms : List (List Char)} {set : ValueSet}
    (h : ListDenotes field terms set.toSet) (hmark : set.wildcard = false) :
    Prints field (.values set) (Text.joinWith [','] terms) := by
  obtain ⟨⟨sets, hsets, hunion⟩, hplain, hstar⟩ := h
  have hne : terms ≠ [] := by
    rintro rfl
    cases hsets
    obtain ⟨v, hv⟩ := List.exists_mem_of_ne_nil set.members set.nonempty
    have hempty : v ∈ set.toSet := hv
    simp [hunion] at hempty
  refine ⟨.list hne ?_ hsets hmark hunion, .joinWith hplain⟩
  rintro rfl
  simp at hstar

/-- **The canonical text of a set of values prints it.** -/
theorem formatValues_prints {set : ValueSet} (hset : set.WellFormed field)
    (hmark : set.wildcard = false) :
    Prints field (.values set) (formatValues field.high set.members) := by
  have hhigh : ∀ v ∈ set.members, v ≤ field.high := fun v hv => (hset.inRange hv).2
  simp only [formatValues]
  split
  · rename_i start step hopen
    obtain ⟨hstart, hnext, hgap, hall⟩ := openProgression_spec hopen hhigh
    have hrange := hset.inRange hstart
    have hsmall : step < 10000 := by
      have hlow := field.low_nonneg.trans hrange.1
      have hlast := (hhigh _ hnext).trans_lt field.high_lt
      omega
    have hstep : IsStep (ofInt step) step.toNat := by
      have hvalue := ofDigits_ofInt (n := step) (by omega)
      exact ⟨isNumeral_ofInt (by omega), by omega, by omega⟩
    have hterm := TermValues.valueStep (isValue_ofInt hrange) hstep
    rw [← hall] at hterm
    have hplain : IsPlain (ofInt start ++ '/' :: ofInt step) :=
      (isPlain_ofInt hrange).append_cons (.ofInt (by omega) hsmall) (by decide) (by decide)
    have hstar : ofInt start ++ '/' :: ofInt step ≠ ['*'] := by
      intro heq
      have hslash : '/' ∈ ['*'] := heq ▸ by simp
      simp at hslash
    exact (ListDenotes.single hterm hplain hstar).prints hmark
  · obtain ⟨hle, hcover⟩ := runsOf_spec set.members
    have hcovered : {v | ∃ run ∈ runsOf set.members, v ∈ Set.Icc run.1 run.2} = set.toSet :=
      Set.ext hcover
    have hrange : ∀ run ∈ runsOf set.members,
        Set.Icc run.1 run.2 ⊆ Set.Icc field.low field.high := fun run hrun v hv =>
      hset.inRange ((hcover v).1 ⟨run, hrun, hv⟩)
    have hruns := runsTexts_denotes hle hrange
    rw [hcovered] at hruns
    exact hruns.prints hmark

/-- The canonical text of a rule prints it. -/
lemma formatRule_prints {rule : DayRule} (h : rule.WellFormed field) :
    Prints field (.rule rule) (Constraint.formatRule rule) := by
  cases h with
  | @lastDay before hnonneg hle =>
      simp only [Constraint.formatRule]
      split_ifs with hzero
      · subst hzero
        exact ⟨.marker .lastDay, .of_forall (by decide) (by decide)⟩
      · have hvalue := ofDigits_ofInt hnonneg
        have hmarker := MarkerDenotes.beforeLastDay (isNumeral_ofInt hnonneg) (by omega)
        rw [hvalue] at hmarker
        have hletter : IsPlain ['L'] := .of_forall (by decide) (by decide)
        have hplain : IsPlain (['L'] ++ '-' :: ofInt before) :=
          hletter.append_cons (.ofInt hnonneg (by omega)) (by decide) (by decide)
        exact ⟨.marker hmarker, hplain⟩
  | lastWorkday => exact ⟨.marker .lastWorkday, .of_forall (by decide) (by decide)⟩
  | @nearestWorkday day hpos hle =>
      have hday : IsValue .dayOfMonth (ofInt day) day := isValue_ofInt ⟨hpos, hle⟩
      exact ⟨.marker (.nearestWorkday hday),
        (IsPlain.ofInt (by omega) (by omega)).append_cons .nil (by decide) (by decide)⟩
  | @nthWeekday weekday occurrence hpos hle hfirst hlast =>
      have hnonneg : 0 ≤ occurrence := by omega
      have hvalue := ofDigits_ofInt hnonneg
      have hweekday : IsValue .dayOfWeek (ofInt weekday) weekday := isValue_ofInt ⟨hpos, hle⟩
      have hmarker := MarkerDenotes.nthWeekday hweekday (isNumeral_ofInt hnonneg) (by omega)
        (by omega)
      rw [hvalue] at hmarker
      exact ⟨.marker hmarker, (IsPlain.ofInt (by omega) (by omega)).append_cons
        (.ofInt hnonneg (by omega)) (by decide) (by decide)⟩
  | @lastWeekday weekday hpos hle =>
      have hweekday : IsValue .dayOfWeek (ofInt weekday) weekday := isValue_ofInt ⟨hpos, hle⟩
      exact ⟨.marker (.lastWeekday hweekday),
        (IsPlain.ofInt (by omega) (by omega)).append_cons .nil (by decide) (by decide)⟩

/-- **The canonical text of a well-formed constraint prints it.** -/
theorem format_prints {constraint : Constraint} (h : constraint.WellFormed field) :
    ∃ text, constraint.format field = .ok text ∧ Prints field constraint text := by
  cases h with
  | @values set h =>
      refine ⟨_, rfl, ?_⟩
      split_ifs with hmark
      · exact ⟨.wildcard hmark (h.full hmark), .of_forall (by decide) (by decide)⟩
      · exact formatValues_prints h (by simpa using hmark)
  | unspecified h =>
      exact ⟨_, rfl, .marker (.unspecified h), .of_forall (by decide) (by decide)⟩
  | rule h => exact ⟨_, rfl, formatRule_prints h⟩

end CronSchedule
