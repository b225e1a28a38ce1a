import CronSchedule.Proofs.Constraint.Text
import CronSchedule.Proofs.Expression.Plain
import CronSchedule.Proofs.Schedule.Search
import Mathlib.Tactic.Choose

/-!
# The canonical text of a schedule

* **`compile_canonical`** — the canonical text of a well-formed timetable compiles to it.
* **`canonical_round_trip`** — what canonical text keeps of constraints, expressions and schedules.
-/

namespace CronSchedule

open Expression Text

/-! ## The way back -/

namespace Schedule

variable {t : Timetable}

/-- A well-formed timetable has a canonical text in every field. -/
lemma fieldTexts_ok (ht : t.WellFormed) : ∃ texts : Field → List Char,
    fieldTexts t = .ok (Field.all.map texts) ∧
      ∀ field, Prints field (t.constraint field) (texts field) := by
  choose texts hformat hprints using fun field => format_prints (ht field)
  refine ⟨texts, ?_, hprints⟩
  simp [fieldTexts, Field.all, hformat]

/-- **The canonical text of a well-formed timetable compiles to the timetable.** -/
theorem compile_canonical (ht : t.WellFormed) :
    ∃ text, canonicalText t = .ok text ∧ compile false text = .ok t := by
  obtain ⟨texts, htexts, hprints⟩ := fieldTexts_ok ht
  obtain ⟨tokens, htokens, hfields⟩ := tokenize_canonical (fun field => (hprints field).plain.chars)
    fun field => (hprints field).denotes.nil_notMem_pieces
  have hplace := tokenize_inPlace htokens
  refine ⟨_, by rw [canonicalText, htexts]; rfl, ?_⟩
  refine compile_eq_ok_iff.2 ⟨tokens, htokens, ?_, by simp⟩
  refine (tokens_compile_iff hplace).2 fun field => ?_
  have hfield := hfields field
  simp only [Tokens.CompilesTo]
  cases htoken : tokens.token? field with
  | some token =>
      rw [htoken] at hfield
      obtain ⟨hdenotes, hplain⟩ := hprints field
      have htext : token.text = texts field := hfield
      refine compileField_complete ?_ (htext ▸ hplain.shortRuns)
      rwa [hplace field token htoken, htext]
  | none =>
      rw [htoken] at hfield
      obtain ⟨rfl, hstar⟩ := hfield
      have hdenotes := (hprints .year).denotes
      rw [hstar] at hdenotes
      exact hdenotes.eq_of_star

/-- The canonical text belongs to one well-formed timetable only. -/
lemma canonicalText_injective {u : Timetable} (ht : t.WellFormed) (hu : u.WellFormed)
    (h : canonicalText t = canonicalText u) : t = u := by
  obtain ⟨text, htext, hcompile⟩ := compile_canonical ht
  obtain ⟨text', htext', hcompile'⟩ := compile_canonical hu
  obtain rfl : text = text' := Except.ok.inj ((htext.symm.trans h).trans htext')
  exact Except.ok.inj (hcompile.symm.trans hcompile')

/-- Well-formed constraints make a timetable, and these are its constraints. -/
lemma ofConstraints?_ok {constraints : List Constraint}
    (h : List.Forall₂ Constraint.WellFormed Field.all constraints) :
    ∃ t, Timetable.ofConstraints? constraints = .ok t ∧ t.constraints = constraints ∧
      t.WellFormed := by
  simp only [Field.all] at h
  rcases h with _ | ⟨hsecond, h⟩
  rcases h with _ | ⟨hminute, h⟩
  rcases h with _ | ⟨hhour, h⟩
  rcases h with _ | @⟨_, dayOfMonth, _, _, hdays, h⟩
  rcases h with _ | ⟨hmonth, h⟩
  rcases h with _ | @⟨_, dayOfWeek, _, _, hweek, h⟩
  rcases h with _ | ⟨hyear, h⟩
  cases h
  obtain ⟨second, rfl⟩ := hsecond.exists_set rfl
  obtain ⟨minute, rfl⟩ := hminute.exists_set rfl
  obtain ⟨hour, rfl⟩ := hhour.exists_set rfl
  obtain ⟨month, rfl⟩ := hmonth.exists_set rfl
  obtain ⟨year, rfl⟩ := hyear.exists_set rfl
  refine ⟨⟨second, minute, hour, dayOfMonth, month, dayOfWeek, year⟩, rfl, rfl, fun field => ?_⟩
  cases field <;> assumption

lemma sameTimes_iff {s u : Schedule} : s.sameTimes u = true ↔ s.timetable = u.timetable := by
  simp [sameTimes]

/-- **Canonical text is read back as what it was made from.**  Well-formed constraints are found
again by compiling their canonical text.  So the canonical text of a parsed expression parses to an
equal schedule, in the same mode and in the lenient one, and this has the same canonical text; and
two well-formed schedules have the same canonical text exactly if they are equal. -/
theorem canonical_round_trip :
    (∀ constraints, List.Forall₂ Constraint.WellFormed Field.all constraints → ∀ text,
      ∃ t canonical t', Timetable.ofConstraints? constraints = .ok t ∧
        (make text t).canonical = .ok canonical ∧ compile false canonical = .ok t' ∧
        t'.constraints = constraints) ∧
    (∀ strict text s, parse strict text = .ok s → ∃ canonical s', s.canonical = .ok canonical ∧
      parse false canonical = .ok s' ∧ parse strict canonical = .ok s' ∧
      s.sameTimes s' = true ∧ s'.canonical = .ok canonical) ∧
    (∀ s u : Schedule, s.timetable.WellFormed → u.timetable.WellFormed →
      (s.canonical = u.canonical ↔ s.sameTimes u = true)) := by
  refine ⟨?_, ?_, ?_⟩
  · intro constraints hconstraints text
    obtain ⟨t, hmake, hsame, ht⟩ := ofConstraints?_ok hconstraints
    obtain ⟨canonical, htext, hcompile⟩ := compile_canonical ht
    exact ⟨t, canonical, t, hmake, htext, hcompile, hsame⟩
  · intro strict text s hs
    obtain ⟨t, hcompile, rfl⟩ := parse_eq_ok_iff.1 hs
    obtain ⟨canonical, htext, hback⟩ := compile_canonical (compile_wellFormed hcompile)
    have hstrict : compile strict canonical = .ok t := by
      obtain ⟨-, -, -, hpairing⟩ := compile_eq_ok_iff.1 hcompile
      obtain ⟨tokens, htokens, hfields, -⟩ := compile_eq_ok_iff.1 hback
      exact compile_eq_ok_iff.2 ⟨tokens, htokens, hfields, hpairing⟩
    refine ⟨canonical, make canonical t, htext, ?_, ?_, sameTimes_iff.2 rfl, htext⟩
    · exact parse_eq_ok_iff.2 ⟨t, hback, rfl⟩
    · exact parse_eq_ok_iff.2 ⟨t, hstrict, rfl⟩
  · intro s u hs hu
    rw [sameTimes_iff]
    exact ⟨canonicalText_injective hs hu, fun heq => congrArg canonicalText heq⟩

/-- All hours written out stay apart from the wildcard, and a working week is read back. -/
theorem canonical_round_trip_hours :
    let hourly (wildcard : Bool) : Timetable :=
      ⟨.single 0, .single 0, .full .hour wildcard, .rule (.lastDay 3), .full .month true,
        .unspecified, .full .year true⟩
    (∀ wildcard, (hourly wildcard).WellFormed) ∧
      List.Forall₂ Constraint.WellFormed Field.all (hourly false).constraints ∧
      (∃ t canonical t', Timetable.ofConstraints? (hourly false).constraints = .ok t ∧
        (make [] t).canonical = .ok canonical ∧ compile false canonical = .ok t' ∧
        t'.constraints = (hourly false).constraints) ∧
      (∃ s canonical s', parse true "0 */15 9-17 ? * MON-FRI".toList = .ok s ∧
        s.canonical = .ok canonical ∧ parse true canonical = .ok s' ∧ s.sameTimes s' = true) ∧
      (make [] (hourly true)).canonical ≠ (make [] (hourly false)).canonical := by
  intro hourly
  have hhourly : ∀ wildcard, (hourly wildcard).WellFormed := by
    intro wildcard field
    cases field with
    | second => exact .values (ValueSet.single_wellFormed (by decide))
    | minute => exact .values (ValueSet.single_wellFormed (by decide))
    | hour => exact .values (ValueSet.full_wellFormed _ _)
    | dayOfMonth => exact .rule (.lastDay (by decide) (by decide))
    | month => exact .values (ValueSet.full_wellFormed _ _)
    | dayOfWeek => exact .unspecified rfl
    | year => exact .values (ValueSet.full_wellFormed _ _)
  have hconstraints : List.Forall₂ Constraint.WellFormed Field.all (hourly false).constraints := by
    refine List.forall₂_map_right_iff.2 (List.forall₂_same.2 fun field _ => ?_)
    exact hhourly false field
  obtain ⟨hmake, hparse, hequal⟩ := canonical_round_trip
  refine ⟨hhourly, hconstraints, hmake _ hconstraints [], ?_, ?_⟩
  · have hparsed : (parse true "0 */15 9-17 ? * MON-FRI".toList).toOption.isSome = true := by
      decide +kernel
    cases hs : parse true "0 */15 9-17 ? * MON-FRI".toList with
    | error e => rw [hs] at hparsed; cases hparsed
    | ok s =>
        obtain ⟨canonical, s', htext, -, hback, hsame, -⟩ := hparse _ _ s hs
        exact ⟨s, canonical, s', rfl, htext, hback, hsame⟩
  · intro heq
    have hsame := (hequal _ _ (hhourly true) (hhourly false)).1 heq
    revert hsame
    decide +kernel

end Schedule

end CronSchedule
