import CronSchedule.Proofs.Expression.Grammar

/-!
# The characters of values, terms and markers

Which branch a term takes when it is read depends on the characters in it.  A value has no
punctuation, a term has no marker character of its field, and a marker always has one, so the
branches for terms and for markers cannot be confused.

* `Field.spells` — the characters of values; `Field.writes` — the characters of terms.
* `Field.markers` — the characters that only markers have.
* **`TermValues.ne_marker`** — no text is both a term and a marker.
-/

namespace CronSchedule

open Text

/-! ## Characters of a field -/

namespace Field

/-- Whether a character may stand in a value: a digit, or a letter of a name. -/
def spells (field : Field) (c : Char) : Bool :=
  isDigit c || field.names.any fun (name, _) => name.contains c

/-- Whether a character may stand in a term. -/
def writes (field : Field) (c : Char) : Bool :=
  field.spells c || c == '*' || c == '-' || c == '/'

/-- The characters that stand in the markers of a field and in no term. -/
def markers : Field → List Char
  | .dayOfMonth => ['?', 'L', 'W']
  | .dayOfWeek => ['?', 'L', '#']
  | _ => []

variable {field : Field} {c : Char}

lemma spells_of_isDigit (h : isDigit c = true) : field.spells c = true := by
  simp [spells, h]

lemma spells_punctuation (h : c ∈ ['*', ',', '-', '/', '?', '#']) : field.spells c = false := by
  have hall : List.Forall (fun c => field.spells c = false) ['*', ',', '-', '/', '?', '#'] := by
    cases field <;> decide
  exact List.forall_iff_forall_mem.1 hall c h

lemma writes_comma (field : Field) : field.writes ',' = false := by
  cases field <;> decide

lemma writes_unspecified (field : Field) : field.writes '?' = false := by
  cases field <;> decide

lemma writes_marker (h : c ∈ field.markers) : field.writes c = false := by
  have hall : List.Forall (fun c => field.writes c = false) field.markers := by
    cases field <;> decide
  exact List.forall_iff_forall_mem.1 hall c h

lemma permits_of_writes (h : field.writes c = true) : field.permits c = true := by
  simp only [writes, spells, isDigit, Bool.or_eq_true] at h
  simp only [permits, Bool.or_eq_true]
  tauto

lemma permits_marker (h : c ∈ field.markers) : field.permits c = true := by
  have hall : List.Forall (fun c => field.permits c = true) field.markers := by
    cases field <;> decide
  exact List.forall_iff_forall_mem.1 hall c h

lemma permits_comma (field : Field) : field.permits ',' = true := by
  cases field <;> decide

lemma permits_star (field : Field) : field.permits '*' = true := by
  cases field <;> decide

/-- A name has a value in the range of the field and is written with its letters. -/
lemma of_mem_names {entry : List Char × Int} (h : entry ∈ field.names) :
    field.names.lookup entry.1 = some entry.2 ∧ field.contains entry.2 = true ∧ entry.1 ≠ [] ∧
      isNumeral entry.1 = false := by
  revert entry
  cases field <;> decide

/-- A numeral is no name. -/
lemma lookup_of_isNumeral {text : List Char} (h : isNumeral text = true) :
    field.names.lookup text = none := by
  refine List.lookup_eq_none_iff.2 fun entry hentry => bne_iff_ne.2 ?_
  rintro rfl
  have hletters := (of_mem_names hentry).2.2.2
  simp [h] at hletters

lemma capital_of_mem_names {entry : List Char × Int} (h : entry ∈ field.names)
    (hc : c ∈ entry.1) : 'A' ≤ c ∧ c ≤ 'Z' := by
  have hall : ∀ entry ∈ field.names, entry.1.Forall fun c => 'A' ≤ c ∧ c ≤ 'Z' := by
    cases field <;> decide
  exact List.forall_iff_forall_mem.1 (hall entry h) c hc

end Field

/-! ## Characters of the grammar -/

namespace Expression

variable {field : Field} {text : List Char} {c : Char}

namespace IsValue

variable {value : Int}

lemma spells (h : IsValue field text value) (hc : c ∈ text) : field.spells c = true := by
  cases h with
  | numeral hdigits hrange => exact Field.spells_of_isDigit ((isNumeral_iff.1 hdigits).2 c hc)
  | name hname =>
      refine Bool.or_eq_true_iff.2 (Or.inr (List.any_eq_true.2 ⟨_, hname, ?_⟩))
      simpa using hc

lemma notMem (h : IsValue field text value) (hc : field.spells c = false) : c ∉ text := by
  intro hmem
  simp [h.spells hmem] at hc

lemma ne_nil (h : IsValue field text value) : text ≠ [] := by
  cases h with
  | numeral hdigits hrange => exact (isNumeral_iff.1 hdigits).1
  | name hname => exact (Field.of_mem_names hname).2.2.1

/-- A value lies in the range of its field. -/
lemma contains (h : IsValue field text value) : field.contains value = true := by
  cases h with
  | numeral hdigits hrange => exact hrange
  | name hname => exact (Field.of_mem_names hname).2.1

lemma le_high (h : IsValue field text value) : value ≤ field.high := by
  have hrange := h.contains
  simp only [Field.contains, Bool.and_eq_true, decide_eq_true_eq] at hrange
  exact hrange.2

end IsValue

lemma IsStep.writes {step : Nat} (h : IsStep text step) (hc : c ∈ text) :
    field.writes c = true := by
  simp [Field.writes, Field.spells_of_isDigit ((isNumeral_iff.1 h.numeral).2 c hc)]

lemma IsValue.writes {value : Int} (h : IsValue field text value) (hc : c ∈ text) :
    field.writes c = true := by
  simp [Field.writes, h.spells hc]

lemma IsRange.le {first last : Int} (h : IsRange field text first last) : first ≤ last := by
  cases h
  assumption

lemma IsRange.writes {first last : Int} (h : IsRange field text first last) (hc : c ∈ text) :
    field.writes c = true := by
  obtain ⟨hfirst, hlast, hle⟩ := h
  simp only [List.mem_append, List.mem_cons] at hc
  rcases hc with hc | rfl | hc
  · exact hfirst.writes hc
  · simp [Field.writes]
  · exact hlast.writes hc

lemma TermValues.writes {set : Set Int} (h : TermValues field text set) (hc : c ∈ text) :
    field.writes c = true := by
  have hslash : field.writes '/' = true := by simp [Field.writes]
  have hstar : field.writes '*' = true := by simp [Field.writes]
  cases h with
  | every => simpa [List.mem_singleton.1 hc] using hstar
  | value h => exact h.writes hc
  | range h => exact h.writes hc
  | everyStep h =>
      simp only [List.mem_cons] at hc
      rcases hc with rfl | rfl | hc
      · exact hstar
      · exact hslash
      · exact h.writes hc
  | valueStep hbase h =>
      simp only [List.mem_append, List.mem_cons] at hc
      rcases hc with hc | rfl | hc
      · exact hbase.writes hc
      · exact hslash
      · exact h.writes hc
  | rangeStep hbase h =>
      simp only [List.mem_append, List.mem_cons] at hc
      rcases hc with hc | rfl | hc
      · exact hbase.writes hc
      · exact hslash
      · exact h.writes hc

lemma TermValues.notMem {set : Set Int} (h : TermValues field text set)
    (hc : field.writes c = false) : c ∉ text := by
  intro hmem
  simp [h.writes hmem] at hc

namespace MarkerDenotes

variable {constraint : Constraint}

/-- A marker has a character that only markers have. -/
lemma exists_marker (h : MarkerDenotes field text constraint) :
    ∃ c ∈ field.markers, c ∈ text := by
  cases h with
  | unspecified h => exact ⟨'?', by revert h; cases field <;> decide, by simp⟩
  | lastDay => exact ⟨'L', by decide, by simp⟩
  | lastWorkday => exact ⟨'L', by decide, by simp⟩
  | beforeLastDay hdigits hle => exact ⟨'L', by decide, by simp⟩
  | nearestWorkday h => exact ⟨'W', by decide, by simp⟩
  | saturday => exact ⟨'L', by decide, by simp⟩
  | lastWeekday h => exact ⟨'L', by decide, by simp⟩
  | nthWeekday h hdigits hpos hle => exact ⟨'#', by decide, by simp⟩

/-- A marker is written with the characters of terms and of markers. -/
lemma writes_or_marker (h : MarkerDenotes field text constraint) (hc : c ∈ text) :
    field.writes c = true ∨ c ∈ field.markers := by
  have hnumeral : ∀ {digits : List Char}, isNumeral digits = true → c ∈ digits →
      field.writes c = true := fun hdigits hmem => by
    simp [Field.writes, Field.spells_of_isDigit ((isNumeral_iff.1 hdigits).2 c hmem)]
  cases h with
  | unspecified h =>
      obtain rfl := List.mem_singleton.1 hc
      exact Or.inr (by revert h; cases field <;> decide)
  | lastDay => exact Or.inr (by simp_all [Field.markers])
  | lastWorkday => exact Or.inr (by simp_all [Field.markers])
  | beforeLastDay hdigits hle =>
      simp only [List.mem_cons] at hc
      rcases hc with rfl | rfl | hc
      · exact Or.inr (by decide)
      · exact Or.inl (by decide)
      · exact Or.inl (hnumeral hdigits hc)
  | nearestWorkday h =>
      rcases List.mem_append.1 hc with hc | hc
      · exact Or.inl (h.writes hc)
      · exact Or.inr (by simp_all [Field.markers])
  | saturday => exact Or.inr (by simp_all [Field.markers])
  | lastWeekday h =>
      rcases List.mem_append.1 hc with hc | hc
      · exact Or.inl (h.writes hc)
      · exact Or.inr (by simp_all [Field.markers])
  | nthWeekday h hdigits hpos hle =>
      simp only [List.mem_append, List.mem_cons] at hc
      rcases hc with hc | rfl | hc
      · exact Or.inl (h.writes hc)
      · exact Or.inr (by decide)
      · exact Or.inl (hnumeral hdigits hc)

/-- A marker is the `?` or has none in it. -/
lemma unspecified_or_notMem (h : MarkerDenotes field text constraint) :
    (text = ['?'] ∧ constraint = .unspecified) ∨ '?' ∉ text := by
  have hvalue : ∀ {value : Int} {word : List Char}, IsValue field word value → '?' ∉ word :=
    fun h => h.notMem (Field.spells_punctuation (by decide))
  have hnumeral : ∀ {digits : List Char}, isNumeral digits = true → '?' ∉ digits :=
    fun h => notMem_of_isNumeral h (by decide)
  cases h with
  | unspecified h => exact Or.inl ⟨rfl, rfl⟩
  | lastDay => exact Or.inr (by decide)
  | lastWorkday => exact Or.inr (by decide)
  | beforeLastDay hdigits hle => exact Or.inr (by simp [hnumeral hdigits])
  | nearestWorkday h => exact Or.inr (by simp [hvalue h])
  | saturday => exact Or.inr (by decide)
  | lastWeekday h => exact Or.inr (by simp [hvalue h])
  | nthWeekday h hdigits hpos hle => exact Or.inr (by simp [hvalue h, hnumeral hdigits])

lemma permits (h : MarkerDenotes field text constraint) (hc : c ∈ text) :
    field.permits c = true :=
  (h.writes_or_marker hc).elim Field.permits_of_writes Field.permits_marker

lemma comma_notMem (h : MarkerDenotes field text constraint) : ',' ∉ text := by
  intro hmem
  rcases h.writes_or_marker hmem with hwrites | hmarker
  · simp [Field.writes_comma] at hwrites
  · revert hmarker
    cases field <;> decide

end MarkerDenotes

namespace TermValues

variable {terms : List (List Char)} {sets : List (Set Int)}

/-- Each text of a list of terms is a term. -/
lemma of_mem (h : List.Forall₂ (TermValues field) terms sets) (hterm : text ∈ terms) :
    ∃ set, TermValues field text set := by
  have hboth := h.imp fun _ _ hvalues => And.intro (Exists.intro _ hvalues) hvalues
  exact ((List.forall₂_and_left _ _).1 hboth).1 text hterm

lemma writes_of_mem (h : List.Forall₂ (TermValues field) terms sets) (hterm : text ∈ terms)
    (hc : c ∈ text) : field.writes c = true := by
  obtain ⟨set, hset⟩ := of_mem h hterm
  exact hset.writes hc

/-- The commas in a list of terms are those between the terms. -/
lemma comma_or_writes (h : List.Forall₂ (TermValues field) terms sets)
    (hc : c ∈ joinWith [','] terms) : c = ',' ∨ field.writes c = true := by
  refine (mem_joinWith hc).imp_right ?_
  rintro ⟨term, hterm, hmem⟩
  exact writes_of_mem h hterm hmem

lemma permits_joinWith (h : List.Forall₂ (TermValues field) terms sets)
    (hc : c ∈ joinWith [','] terms) : field.permits c = true := by
  rcases comma_or_writes h hc with rfl | hc
  · exact Field.permits_comma field
  · exact Field.permits_of_writes hc

lemma pieces_eq (h : List.Forall₂ (TermValues field) terms sets) (hne : terms ≠ []) :
    pieces ',' (joinWith [','] terms) = terms := by
  refine pieces_joinWith hne fun term hterm hmem => ?_
  simpa [Field.writes_comma] using writes_of_mem h hterm hmem

end TermValues

lemma TermValues.ne_nil {set : Set Int} (h : TermValues field text set) : text ≠ [] := by
  cases h with
  | value h => exact h.ne_nil
  | range h =>
      cases h
      simp
  | _ => simp

/-- A text with a meaning is written with the characters that its field permits. -/
lemma FieldDenotes.permits {constraint : Constraint} (h : FieldDenotes field text constraint)
    (hc : c ∈ text) : field.permits c = true := by
  cases h with
  | wildcard hmark hset =>
      obtain rfl := List.mem_singleton.1 hc
      exact Field.permits_star field
  | marker h => exact h.permits hc
  | list hne hstar hterms hmark hset => exact TermValues.permits_joinWith hterms hc

/-- No element of a text with a meaning is empty. -/
lemma FieldDenotes.nil_notMem_pieces {constraint : Constraint}
    (h : FieldDenotes field text constraint) : [] ∉ pieces ',' text := by
  cases h with
  | wildcard hmark hset => decide
  | marker h =>
      obtain ⟨c, -, hc⟩ := h.exists_marker
      rw [pieces_of_notMem h.comma_notMem, List.mem_singleton]
      exact (List.ne_nil_of_mem hc).symm
  | list hne hstar hterms hmark hset =>
      rw [TermValues.pieces_eq hterms hne]
      intro hmem
      obtain ⟨set, hset⟩ := TermValues.of_mem hterms hmem
      exact hset.ne_nil rfl

/-- **No text is both a term and a marker of its field.** -/
theorem TermValues.ne_marker {set : Set Int} {constraint : Constraint}
    (h : TermValues field text set) : ¬MarkerDenotes field text constraint := by
  intro hmarker
  obtain ⟨c, hc, hmem⟩ := hmarker.exists_marker
  exact h.notMem (Field.writes_marker hc) hmem

end Expression

end CronSchedule
