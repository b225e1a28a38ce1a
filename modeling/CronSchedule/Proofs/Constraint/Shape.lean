import CronSchedule.Proofs.Constraint.Text
import CronSchedule.Proofs.Search.Nearest
import Mathlib.Data.List.Flatten
import Mathlib.Data.Set.Card
import Mathlib.Tactic.Linarith

/-!
# The shape of canonical text

Which of the two forms a set of values is written in, and what stands in it.

* `IsMaximalRun`, `ListsRuns` — the maximal runs of consecutive values of a set, in order.
* `IsOpenProgression` — at least three values in steps of at least two, up to the end of the field.
* **`runsOf_listsRuns`** — the runs of an increasing list are the maximal runs of its members.
* **`openProgression?_eq_some_iff`** — exactly the open progressions are found to be such.
* `Covers` — terms whose values are disjoint and make up a set.
* **`canonical_shape`** — an open progression is written by its start and its step, any other set by
  its maximal runs, and every member is covered once.
-/

namespace CronSchedule

open Expression Text

variable {field : Field} {V : Set Int} {run other : Int × Int} {runs : List (Int × Int)}
  {values : List Int}

/-! ## Maximal runs -/

/-- The values from the first to the second number are members, and the neighbours on both sides
are not. -/
structure IsMaximalRun (V : Set Int) (run : Int × Int) : Prop where
  le : run.1 ≤ run.2
  subset : Set.Icc run.1 run.2 ⊆ V
  before : run.1 - 1 ∉ V
  after : run.2 + 1 ∉ V

/-- The maximal runs of a set, in increasing order. -/
structure ListsRuns (V : Set Int) (runs : List (Int × Int)) : Prop where
  ordered : runs.Pairwise fun a b => a.2 < b.1
  mem_iff : ∀ run, run ∈ runs ↔ IsMaximalRun V run

/-- Two maximal runs that share a value are the same. -/
lemma IsMaximalRun.unique {v : Int} (h : IsMaximalRun V run) (h' : IsMaximalRun V other)
    (hv : v ∈ Set.Icc run.1 run.2) (hv' : v ∈ Set.Icc other.1 other.2) : run = other := by
  obtain ⟨hfirst, hlast⟩ := hv
  obtain ⟨hfirst', hlast'⟩ := hv'
  have hstart : ¬run.1 < other.1 := fun hlt => h'.before (h.subset ⟨by omega, by omega⟩)
  have hstart' : ¬other.1 < run.1 := fun hlt => h.before (h'.subset ⟨by omega, by omega⟩)
  have hstop : ¬run.2 < other.2 := fun hlt => h.after (h'.subset ⟨by omega, by omega⟩)
  have hstop' : ¬other.2 < run.2 := fun hlt => h'.after (h.subset ⟨by omega, by omega⟩)
  exact Prod.ext (by omega) (by omega)

/-- Between the runs of an increasing list there are gaps. -/
lemma runsOf_gaps (h : values.Pairwise (· < ·)) :
    (runsOf values).Pairwise fun a b => a.2 + 1 < b.1 := by
  induction values with
  | nil => exact .nil
  | cons value rest ih =>
      obtain ⟨hvalue, hrest⟩ := List.pairwise_cons.1 h
      have hgaps := ih hrest
      obtain ⟨hle, hcover⟩ := runsOf_spec rest
      rw [runsOf]
      split
      · exact List.pairwise_singleton _ _
      · rename_i first last more heq
        rw [heq] at hgaps hle hcover
        obtain ⟨hmore, hothers⟩ := List.pairwise_cons.1 hgaps
        have hfirst : first ≤ last := hle _ List.mem_cons_self
        have habove : value < first :=
          hvalue first ((hcover first).1 ⟨_, List.mem_cons_self, le_rfl, hfirst⟩)
        split
        · exact List.pairwise_cons.2 ⟨hmore, hothers⟩
        · rename_i hne
          refine List.pairwise_cons.2 ⟨fun run hrun => ?_, hgaps⟩
          rcases List.mem_cons.1 hrun with rfl | hrun
          · dsimp only
            omega
          · have hlater := hmore run hrun
            dsimp only at hlater ⊢
            omega

/-- Runs with gaps between them that cover a set are its maximal runs. -/
lemma listsRuns_of_gaps (hgaps : runs.Pairwise fun a b => a.2 + 1 < b.1)
    (hle : ∀ run ∈ runs, run.1 ≤ run.2)
    (hcover : ∀ v, (∃ run ∈ runs, v ∈ Set.Icc run.1 run.2) ↔ v ∈ V) : ListsRuns V runs := by
  have heither : runs.Pairwise fun a b => a.2 + 1 < b.1 ∨ b.2 + 1 < a.1 :=
    hgaps.imp fun hab => Or.inl hab
  have hsymm : Std.Symm fun a b : Int × Int => a.2 + 1 < b.1 ∨ b.2 + 1 < a.1 :=
    ⟨fun _ _ => Or.symm⟩
  have hapart : ∀ a ∈ runs, ∀ b ∈ runs, a = b ∨ a.2 + 1 < b.1 ∨ b.2 + 1 < a.1 :=
    fun a ha b hb => or_iff_not_imp_left.2 fun hne => heither.forall ha hb hne
  have hmaximal : ∀ run ∈ runs, IsMaximalRun V run := by
    intro run hrun
    have hself := hle run hrun
    refine ⟨hself, fun v hv => (hcover v).1 ⟨run, hrun, hv⟩, fun hmem => ?_, fun hmem => ?_⟩
    · obtain ⟨other, hother, hfirst, hlast⟩ := (hcover _).2 hmem
      have hothers := hle other hother
      rcases hapart run hrun other hother with rfl | hlt | hlt <;> omega
    · obtain ⟨other, hother, hfirst, hlast⟩ := (hcover _).2 hmem
      have hothers := hle other hother
      rcases hapart run hrun other hother with rfl | hlt | hlt <;> omega
  refine ⟨hgaps.imp fun hab => by omega, fun run => ⟨hmaximal run, fun hrun => ?_⟩⟩
  obtain ⟨other, hother, hmem⟩ := (hcover run.1).2 (hrun.subset (Set.left_mem_Icc.2 hrun.le))
  rwa [hrun.unique (hmaximal other hother) (Set.left_mem_Icc.2 hrun.le) hmem]

/-- **The runs of an increasing list are the maximal runs of its members.** -/
theorem runsOf_listsRuns (h : values.Pairwise (· < ·)) :
    ListsRuns {v | v ∈ values} (runsOf values) := by
  obtain ⟨hle, hcover⟩ := runsOf_spec values
  exact listsRuns_of_gaps (runsOf_gaps h) hle hcover

/-! ## Open progressions -/

/-- At least three values from `start` on in steps of at least two, all of them up to the greatest
value of the field. -/
structure IsOpenProgression (field : Field) (V : Set Int) (start : Int) (step : Nat) : Prop where
  gap : 2 ≤ step
  steps : V = stepsUpTo start step field.high
  several : 3 ≤ V.ncard

/-- An open progression has its start among its values. -/
lemma IsOpenProgression.start_mem {start : Int} {step : Nat}
    (h : IsOpenProgression field V start step) : start ∈ V := by
  have hseveral := h.several
  obtain ⟨v, hv⟩ : V.Nonempty := Set.nonempty_of_ncard_ne_zero (by omega)
  have hbounds := stepsUpTo_subset start step field.high (h.steps ▸ hv)
  rw [h.steps]
  exact ⟨⟨0, by simp⟩, hbounds.1.trans hbounds.2⟩

/-- The number of members of an increasing list. -/
lemma ncard_members (h : values.Pairwise (· < ·)) :
    {v | v ∈ values}.ncard = values.length := by
  have hnodup : values.Nodup := h.imp fun hab => ne_of_lt hab
  have hcoe : {v | v ∈ values} = (values.toFinset : Set Int) := by
    ext v
    simp
  rw [hcoe, Set.ncard_coe_finset, List.toFinset_card_of_nodup hnodup]

lemma hasStep_range' (start step : Int) (first count : Nat) :
    hasStep step ((List.range' first count).map fun (i : Nat) => start + step * i) = true := by
  induction count generalizing first with
  | zero => rfl
  | succ count ih =>
      cases count with
      | zero => rfl
      | succ more =>
          have hrest := ih (first + 1)
          rw [List.range'_succ, List.map_cons] at hrest ⊢
          rw [List.range'_succ, List.map_cons, hasStep, hrest, Bool.and_true, beq_iff_eq]
          push_cast
          ring

lemma Progression.pairwise_values {p : Progression} (h : 0 < p.step) :
    p.values.Pairwise (· < ·) := by
  rw [values, List.pairwise_map]
  refine List.pairwise_lt_range.imp fun {i j} hij => ?_
  have hgrowth : (p.step : Int) * i < p.step * j := by
    exact_mod_cast Nat.mul_lt_mul_of_pos_left hij h
  omega

/-- A progression that is stopped by a bound has no room for another value. -/
lemma Progression.lt_upTo {first last : Int} {step : Nat} (h : first ≤ last) (hstep : 0 < step) :
    last < first + step * ((upTo first last step).extra + 1) := by
  have hpos : (0 : Int) < step := by omega
  have hquot : 0 ≤ (last - first) / step := Int.ediv_nonneg (by omega) hpos.le
  have hroom := Int.lt_ediv_add_one_mul_self (last - first) hpos
  rw [upTo, Int.toNat_of_nonneg hquot]
  linarith

/-- The list of a progression with gaps, of at least three values and with no room for another one,
is found to be one. -/
lemma openProgression?_values {p : Progression} {high : Int} (hgap : 2 ≤ p.step)
    (hextra : 2 ≤ p.extra) (hend : high < p.start + p.step * (p.extra + 1)) :
    openProgression? high p.values = some (p.start, (p.step : Int)) := by
  have hsteps : hasStep p.step p.values = true := by
    rw [Progression.values, List.range_eq_range']
    exact hasStep_range' p.start p.step 0 (p.extra + 1)
  have hlength : p.values.length = p.extra + 1 := by simp [Progression.values]
  have hhead : p.values.head? = some p.start := by
    simp [Progression.values, List.range_succ_eq_map]
  obtain ⟨a, b, c, rest, hvalues⟩ : ∃ a b c rest, p.values = a :: b :: c :: rest := by
    rcases hvalues : p.values with _ | ⟨a, _ | ⟨b, _ | ⟨c, rest⟩⟩⟩
    · simp [hvalues] at hlength
    · simp only [hvalues, List.length_singleton] at hlength
      omega
    · simp only [hvalues, List.length_cons, List.length_nil] at hlength
      omega
    · exact ⟨a, b, c, rest, rfl⟩
  rw [hvalues] at hsteps hlength hhead ⊢
  obtain rfl : a = p.start := Option.some.inj hhead
  obtain ⟨hlast, -⟩ := hasStep_spec hsteps
  have hstep : b - p.start = p.step := by
    simp only [hasStep, Bool.and_eq_true, beq_iff_eq] at hsteps
    exact hsteps.1
  have hmore : ((b :: c :: rest).length : Int) = p.extra := by
    rw [List.length_cons] at hlength
    omega
  simp only [List.getLastD_cons] at hlast
  rw [hmore] at hlast
  simp only [openProgression?, List.getLastD_cons, hstep, hsteps, hlast, Bool.and_true]
  rw [if_pos]
  rw [Bool.and_eq_true, decide_eq_true_eq, decide_eq_true_eq]
  constructor
  · omega
  · linarith

lemma length_of_openProgression? {high : Int} {found : Int × Int}
    (h : openProgression? high values = some found) : 3 ≤ values.length := by
  unfold openProgression? at h
  split at h
  · simp
  · cases h

/-- **Exactly the open progressions are found to be such**, with their start and their step. -/
theorem openProgression?_eq_some_iff {start : Int} {step : Nat} (h : values.Pairwise (· < ·))
    (hle : ∀ v ∈ values, v ≤ field.high) :
    openProgression? field.high values = some (start, (step : Int)) ↔
      IsOpenProgression field {v | v ∈ values} start step := by
  constructor
  · intro hfound
    obtain ⟨-, -, hgap, hsteps⟩ := openProgression_spec hfound hle
    rw [Int.toNat_natCast] at hsteps
    refine ⟨by omega, hsteps, ?_⟩
    rw [ncard_members h]
    exact length_of_openProgression? hfound
  · rintro ⟨hgap, hsteps, hseveral⟩
    have hpos : 0 < step := by omega
    have hstart : start ≤ field.high :=
      hle start (IsOpenProgression.start_mem ⟨hgap, hsteps, hseveral⟩)
    have htoSet := Progression.toSet_upTo hstart hpos
    -- two increasing lists with the same members are the same
    obtain rfl : values = (Progression.upTo start field.high step).values :=
      h.eq_of_mem_iff (Progression.pairwise_values hpos)
        (Set.ext_iff.1 (hsteps.trans htoSet.symm))
    rw [ncard_members h, Progression.values, List.length_map, List.length_range] at hseveral
    exact openProgression?_values hgap (by omega) (Progression.lt_upTo hstart hpos)

/-! ## The terms of a run -/

/-- The terms for a run: its ends if it has at least three values, else every value. -/
def writtenRun (run : Int × Int) : List (List Char) :=
  let members := integersFrom run.1 run.2
  if 3 ≤ members.length then [ofInt run.1 ++ '-' :: ofInt run.2] else members.map ofInt

lemma length_integersFrom (first last : Int) :
    (integersFrom first last).length = (last - first + 1).toNat := by
  simp [integersFrom]

lemma runTexts_eq_writtenRun (h : run.1 ≤ run.2) : runTexts run.1 run.2 = writtenRun run := by
  obtain ⟨first, last⟩ := run
  simp only [writtenRun, length_integersFrom, runTexts] at h ⊢
  by_cases hlong : 2 ≤ last - first
  · have hthree : 3 ≤ (last - first + 1).toNat := by omega
    rw [if_pos hlong, if_pos hthree]
  · have hshort : ¬3 ≤ (last - first + 1).toNat := by omega
    rw [if_neg hlong, if_neg hshort]
    by_cases heq : first = last
    · subst heq
      simp [integersFrom]
    · obtain rfl : last = first + 1 := by omega
      have htwo : (first + 1 - first + 1).toNat = 2 := by omega
      rw [if_neg heq, integersFrom, htwo]
      simp [List.range_succ]

/-! ## Coverage -/

/-- Terms that denote disjoint sets, which make up `V`: every member of `V` is covered by exactly
one term, and nothing else is covered. -/
def Covers (field : Field) (terms : List (List Char)) (V : Set Int) : Prop :=
  ∃ sets, List.Forall₂ (TermValues field) terms sets ∧
    sets.Pairwise (fun a b => ∀ v ∈ a, v ∉ b) ∧ V = {v | ∃ set ∈ sets, v ∈ set}

namespace Covers

variable {a b : List (List Char)} {s u : Set Int} {term : List Char}

lemma nil : Covers field [] ∅ :=
  ⟨[], .nil, .nil, by simp⟩

lemma single (h : TermValues field term s) : Covers field [term] s :=
  ⟨[s], .cons h .nil, List.pairwise_singleton _ _, by simp⟩

lemma append (ha : Covers field a s) (hb : Covers field b u) (hdisjoint : ∀ v ∈ s, v ∉ u) :
    Covers field (a ++ b) (s ∪ u) := by
  obtain ⟨sets, hsets, hpairwise, rfl⟩ := ha
  obtain ⟨more, hmore, hothers, rfl⟩ := hb
  refine ⟨sets ++ more, List.rel_append hsets hmore, ?_, ?_⟩
  · refine List.pairwise_append.2 ⟨hpairwise, hothers, fun x hx y hy v hv hv' => ?_⟩
    exact hdisjoint v ⟨x, hx, hv⟩ ⟨y, hy, hv'⟩
  · ext v
    simp only [Set.mem_union, Set.mem_ofPred_eq, List.mem_append, or_and_right, exists_or]

/-- Distinct values, each written out. -/
lemma ofValues (hdistinct : values.Nodup)
    (hrange : ∀ v ∈ values, v ∈ Set.Icc field.low field.high) :
    Covers field (values.map ofInt) {v | v ∈ values} := by
  induction values with
  | nil => simpa using nil
  | cons value rest ih =>
      obtain ⟨hvalue, hrest⟩ := List.nodup_cons.1 hdistinct
      obtain ⟨hin, hothers⟩ := List.forall_mem_cons.1 hrange
      have hunion : {v | v ∈ value :: rest} = {value} ∪ {v | v ∈ rest} := by
        ext v
        simp
      rw [hunion, List.map_cons]
      refine (single (.value (isValue_ofInt hin))).append (ih hrest hothers) fun v hv => ?_
      obtain rfl := Set.mem_singleton_iff.1 hv
      exact hvalue

/-- The terms of a run cover its values. -/
lemma writtenRun (hle : run.1 ≤ run.2)
    (hrange : Set.Icc run.1 run.2 ⊆ Set.Icc field.low field.high) :
    Covers field (writtenRun run) (Set.Icc run.1 run.2) := by
  have hfirst := hrange (Set.left_mem_Icc.2 hle)
  have hlast := hrange (Set.right_mem_Icc.2 hle)
  rw [CronSchedule.writtenRun]
  split
  · exact single (.range (.mk (isValue_ofInt hfirst) (isValue_ofInt hlast) hle))
  · have hmembers : Set.Icc run.1 run.2 = {v | v ∈ integersFrom run.1 run.2} := by
      ext v
      rw [Set.mem_Icc, Set.mem_ofPred_eq, mem_integersFrom]
    rw [hmembers]
    refine ofValues ((pairwise_integersFrom _ _).imp fun hab => ne_of_lt hab) fun v hv => ?_
    exact hrange (mem_integersFrom.1 hv)

/-- The terms of runs that go upwards cover the values of all of them. -/
lemma writtenRuns (hordered : runs.Pairwise fun a b => a.2 < b.1)
    (hle : ∀ run ∈ runs, run.1 ≤ run.2)
    (hrange : ∀ run ∈ runs, Set.Icc run.1 run.2 ⊆ Set.Icc field.low field.high) :
    Covers field (runs.flatMap CronSchedule.writtenRun)
      {v | ∃ run ∈ runs, v ∈ Set.Icc run.1 run.2} := by
  induction runs with
  | nil => simpa using nil
  | cons run more ih =>
      obtain ⟨hbefore, hmore⟩ := List.pairwise_cons.1 hordered
      obtain ⟨hself, hothers⟩ := List.forall_mem_cons.1 hle
      obtain ⟨hrun, hranges⟩ := List.forall_mem_cons.1 hrange
      have hunion : {v | ∃ r ∈ run :: more, v ∈ Set.Icc r.1 r.2}
          = Set.Icc run.1 run.2 ∪ {v | ∃ r ∈ more, v ∈ Set.Icc r.1 r.2} := by
        ext v
        simp only [List.mem_cons, exists_eq_or_imp, Set.mem_union, Set.mem_ofPred_eq]
      rw [hunion, List.flatMap_cons]
      refine (writtenRun hself hrun).append (ih hmore hothers hranges) ?_
      rintro v ⟨-, hv⟩ ⟨later, hlater, hv', -⟩
      have hgap := hbefore later hlater
      omega

end Covers

/-! ## The two forms -/

/-- No term of a run holds a slash. -/
lemma slash_notMem_runTexts {term : List Char} (h : term ∈ runTexts run.1 run.2) : '/' ∉ term := by
  have hnumber : ∀ n : Int, '/' ∉ ofInt n := fun n => notMem_ofInt (by decide) (by decide)
  rw [runTexts] at h
  split at h
  · obtain rfl := List.mem_singleton.1 h
    simp [hnumber]
  · split at h
    · obtain rfl := List.mem_singleton.1 h
      exact hnumber _
    · rcases List.mem_pair.1 h with rfl | rfl <;> exact hnumber _

/-- **The text is a start and a step with a slash between them** exactly if the values are found to
be a progression with this start and this step. -/
theorem formatValues_eq_iff {high start step : Int} :
    formatValues high values = ofInt start ++ '/' :: ofInt step ↔
      openProgression? high values = some (start, step) := by
  have hnumber : ∀ n : Int, '/' ∉ ofInt n := fun n => notMem_ofInt (by decide) (by decide)
  rw [formatValues]
  cases hfound : openProgression? high values with
  | some found =>
      obtain ⟨first, gap⟩ := found
      dsimp only
      rw [List.append_cons_inj_of_notMem (hnumber first) (hnumber gap), ofInt_injective.eq_iff,
        ofInt_injective.eq_iff, Option.some.injEq, Prod.mk.injEq, eq_self, true_and]
  | none =>
      refine iff_of_false (fun heq => ?_) (Option.some_ne_none _).symm
      have hslash : '/' ∈ ofInt start ++ '/' :: ofInt step := by simp
      dsimp only at heq
      rw [← heq] at hslash
      rcases mem_joinWith hslash with hcomma | ⟨term, hterm, hmem⟩
      · cases hcomma
      · obtain ⟨run, -, hrun⟩ := List.mem_flatMap.1 hterm
        exact slash_notMem_runTexts hrun hmem

/-- A set of values of a field that is no open progression is written by its maximal runs. -/
lemma formatValues_of_none {high : Int} (h : openProgression? high values = none) :
    formatValues high values = joinWith [','] ((runsOf values).flatMap writtenRun) := by
  rw [formatValues, h]
  dsimp only
  congr 1
  refine List.flatMap_congr fun run hrun => ?_
  exact runTexts_eq_writtenRun ((runsOf_spec values).1 run hrun)

/-- Values that are found to be a progression are an open one. -/
lemma isOpenProgression_of_found {found : Int × Int} (h : values.Pairwise (· < ·))
    (hle : ∀ v ∈ values, v ≤ field.high) (hfound : openProgression? field.high values = some found) :
    ∃ (start : Int) (step : Nat), found = (start, (step : Int)) ∧
      IsOpenProgression field {v | v ∈ values} start step := by
  obtain ⟨start, step⟩ := found
  obtain ⟨-, -, hgap, -⟩ := openProgression_spec hfound hle
  obtain ⟨n, rfl⟩ := Int.eq_ofNat_of_zero_le (by omega : 0 ≤ step)
  exact ⟨start, n, rfl, (openProgression?_eq_some_iff h hle).1 hfound⟩

/-- The start and the step of an open progression cover it. -/
lemma IsOpenProgression.covers {start : Int} {step : Nat}
    (h : IsOpenProgression field V start step) (hrange : V ⊆ Set.Icc field.low field.high) :
    Covers field [ofInt start ++ '/' :: ofInt step] V := by
  have hgap := h.gap
  have hvalue := ofDigits_ofInt (n := (step : Int)) (by omega)
  have hstep : IsStep (ofInt step) step := ⟨isNumeral_ofInt (by omega), by omega, by omega⟩
  have hterm := TermValues.valueStep (isValue_ofInt (hrange h.start_mem)) hstep
  rw [← h.steps] at hterm
  exact .single hterm

/-- The text of the values of a field is a list of terms that cover them. -/
lemma formatValues_covers (h : values.Pairwise (· < ·))
    (hrange : {v | v ∈ values} ⊆ Set.Icc field.low field.high) :
    ∃ terms, formatValues field.high values = joinWith [','] terms ∧
      Covers field terms {v | v ∈ values} := by
  have hle : ∀ v ∈ values, v ≤ field.high := fun v hv => (hrange hv).2
  cases hfound : openProgression? field.high values with
  | some found =>
      obtain ⟨start, step, rfl, hopen⟩ := isOpenProgression_of_found h hle hfound
      exact ⟨[ofInt start ++ '/' :: ofInt step], formatValues_eq_iff.2 hfound, hopen.covers hrange⟩
  | none =>
      obtain ⟨hupward, hcover⟩ := runsOf_spec values
      have hcovers := Covers.writtenRuns (runsOf_listsRuns h).ordered hupward
        fun run hrun v hv => hrange ((hcover v).1 ⟨run, hrun, hv⟩)
      refine ⟨_, formatValues_of_none hfound, ?_⟩
      rwa [Set.ext hcover] at hcovers

/-- **The shape of canonical text.**  A set of values that is not the wildcard is written as
`start/step` exactly if it is an open progression with this start and this step.  Any other set is
the list of its maximal runs in increasing order, where a run of at least three values is written by
its ends and a shorter one by its values.  In either form every member of the set is covered by
exactly one term of the text, and nothing else is covered. -/
theorem canonical_shape {set : ValueSet} (hrange : set.toSet ⊆ Set.Icc field.low field.high)
    (hmark : set.wildcard = false) :
    ∃ text, (Constraint.values set).format field = .ok text ∧
      (∀ (start : Int) (step : Nat), text = ofInt start ++ '/' :: ofInt step ↔
        IsOpenProgression field set.toSet start step) ∧
      ((¬∃ start step, IsOpenProgression field set.toSet start step) →
        ∃ runs, ListsRuns set.toSet runs ∧ text = joinWith [','] (runs.flatMap writtenRun)) ∧
      ∃ terms, text = joinWith [','] terms ∧ Covers field terms set.toSet := by
  have hle : ∀ v ∈ set.members, v ≤ field.high := fun v hv => (hrange hv).2
  refine ⟨formatValues field.high set.members, by simp [Constraint.format, hmark],
    fun start step => ?progression, fun hnone => ?list, formatValues_covers set.increasing hrange⟩
  case progression =>
    exact formatValues_eq_iff.trans (openProgression?_eq_some_iff set.increasing hle)
  case list =>
    refine ⟨runsOf set.members, runsOf_listsRuns set.increasing, formatValues_of_none ?_⟩
    refine Option.eq_none_iff_forall_ne_some.2 fun found hfound => hnone ?_
    obtain ⟨start, step, -, hopen⟩ := isOpenProgression_of_found set.increasing hle hfound
    exact ⟨start, step, hopen⟩

/-- Every tenth day from the fifth on is an open progression.  Two days ten apart, a pair and the
end of a month are a list, in which the last run is written by its ends. -/
theorem canonical_shape_days :
    let everyTen : ValueSet := .ofProgressions ⟨5, 10, 2⟩ []
    let mixed : ValueSet := .ofProgressions ⟨3, 10, 1⟩ [⟨20, 1, 1⟩, ⟨29, 1, 2⟩]
    everyTen.toSet ⊆ Set.Icc Field.dayOfMonth.low Field.dayOfMonth.high ∧
      IsOpenProgression .dayOfMonth everyTen.toSet 5 10 ∧
      (Constraint.values everyTen).format .dayOfMonth = .ok "5/10".toList ∧
      (¬∃ start step, IsOpenProgression .dayOfMonth mixed.toSet start step) ∧
      (Constraint.values mixed).format .dayOfMonth = .ok "3,13,20,21,29-31".toList ∧
      ∃ terms, "3,13,20,21,29-31".toList = joinWith [','] terms ∧
        Covers .dayOfMonth terms mixed.toSet := by
  intro everyTen mixed
  have hrange : ∀ v ∈ everyTen.members, v ∈ Set.Icc Field.dayOfMonth.low Field.dayOfMonth.high := by
    decide
  have hmixed : ∀ v ∈ mixed.members, v ∈ Set.Icc Field.dayOfMonth.low Field.dayOfMonth.high := by
    decide
  obtain ⟨text, htext, hopen, -, -⟩ := canonical_shape hrange rfl
  obtain ⟨text', htext', hopen', -, hcovers⟩ := canonical_shape hmixed rfl
  have hten : (Constraint.values everyTen).format .dayOfMonth = .ok "5/10".toList := by decide
  have hlist : (Constraint.values mixed).format .dayOfMonth = .ok "3,13,20,21,29-31".toList := by
    decide
  obtain rfl := Except.ok.inj (hten.symm.trans htext)
  obtain rfl := Except.ok.inj (hlist.symm.trans htext')
  refine ⟨hrange, (hopen 5 10).1 (by decide), hten, ?_, hlist, hcovers⟩
  rintro ⟨start, step, hprogression⟩
  have hslash : '/' ∈ ofInt start ++ '/' :: ofInt (step : Int) := by simp
  rw [← (hopen' start step).2 hprogression] at hslash
  revert hslash
  decide

end CronSchedule
