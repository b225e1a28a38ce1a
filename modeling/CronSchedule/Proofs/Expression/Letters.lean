import CronSchedule.Proofs.Expression.Validation

/-!
# The characters of expressions

A field permits characters of its word in upper case.  So besides the ASCII characters of the field
in either case, it takes the characters beyond ASCII whose upper case is one of its letters: the
dotless `ı` and the long `ſ`.  The other characters that upper case leads into ASCII become a pair
of letters or more, and no text with a meaning has such a pair.

* `Field.reads`, `Field.lookalikes` — the characters of a field in ASCII and beyond.
* `LigatureFree` — no pair of `ligatures` stands in a text; `FieldDenotes.ligatureFree` — so it is
  for every text with a meaning.
* `WrittenWith` — every character of an expression that is not blank may stand in the field in whose
  word it stands.
* **`compile_written`** — an expression compiles only if it is written with the characters of its
  fields, and is malformed otherwise.
-/

namespace CronSchedule

open Text

/-! ## Characters of a field -/

namespace Field

/-- Whether a field permits an ASCII character, letters in either case. -/
def reads (field : Field) (c : Char) : Bool :=
  c.toNat < 128 && field.permits c.toUpper

/-- The characters beyond ASCII whose upper case is a letter of the field. -/
def lookalikes : Field → List Char
  | .month => ['ſ']
  | .dayOfWeek => ['ı', 'ſ']
  | _ => []

variable {field : Field} {c : Char}

lemma ascii_of_permits (h : field.permits c = true) : 0 < c.toNat ∧ c.toNat < 128 := by
  have hbetween : ∀ {low high : Char}, low ≤ c → c ≤ high → 0 < low.toNat → high.toNat < 128 →
      0 < c.toNat ∧ c.toNat < 128 := fun hlow hhigh hpos hlt =>
    ⟨Nat.lt_of_lt_of_le hpos hlow, Nat.lt_of_le_of_lt hhigh hlt⟩
  have hmarks : ['*', ',', '-', '/', '?', '#', 'L', 'W'].Forall fun d =>
      0 < d.toNat ∧ d.toNat < 128 := by decide
  simp only [permits, Bool.or_eq_true, Bool.and_eq_true, decide_eq_true_eq, beq_iff_eq,
    List.any_eq_true, List.contains_iff_mem] at h
  rcases h with h | ⟨entry, hentry, hc⟩
  · by_cases hdigit : '0' ≤ c ∧ c ≤ '9'
    · exact hbetween hdigit.1 hdigit.2 (by decide) (by decide)
    · refine List.forall_iff_forall_mem.1 hmarks c ?_
      simp only [List.mem_cons]
      tauto
  · obtain ⟨hlow, hhigh⟩ := capital_of_mem_names hentry hc
    exact hbetween hlow hhigh (by decide) (by decide)

lemma eq_of_mem_lookalikes (h : c ∈ field.lookalikes) : c = 'ı' ∨ c = 'ſ' := by
  cases field <;> simp_all [lookalikes]

lemma dotless_mem_lookalikes (h : field.permits 'I' = true) : 'ı' ∈ field.lookalikes := by
  revert h
  cases field <;> decide

lemma long_mem_lookalikes (h : field.permits 'S' = true) : 'ſ' ∈ field.lookalikes := by
  revert h
  cases field <;> decide

/-- A character whose upper case is permitted is one of the field, or stands for several letters. -/
lemma reads_or_lookalike (h : ∀ d ∈ upperChar c, field.permits d = true)
    (hpair : ∀ pair ∈ ligatures, ¬pair <+: upperChar c) :
    field.reads c = true ∨ c ∈ field.lookalikes := by
  by_cases hascii : c.toNat < 128
  · have hupper : c.toUpper ∈ upperChar c := by simp [upperChar, hascii]
    exact Or.inl (by simp [reads, hascii, h _ hupper])
  · refine Or.inr ?_
    rcases upperChar_ascii hascii fun d hd => ascii_of_permits (h d hd) with rfl | rfl | hfound
    · exact dotless_mem_lookalikes (h 'I' (by decide))
    · exact long_mem_lookalikes (h 'S' (by decide))
    · obtain ⟨pair, hmem, hbegins⟩ := hfound
      exact absurd hbegins (hpair pair hmem)

end Field

namespace Expression

variable {field : Field} {text a b : List Char} {c : Char}

/-! ## Pairs of letters -/

/-- No pair of letters that is the upper case of a single character stands in a text. -/
def LigatureFree (text : List Char) : Prop :=
  ∀ pair ∈ ligatures, ¬pair <:+: text

instance (text : List Char) : Decidable (LigatureFree text) :=
  inferInstanceAs (Decidable (∀ pair ∈ ligatures, ¬pair <:+: text))

/-- Every pair begins with an `S` or an `F`. -/
lemma ligatureFree_of_notMem (hs : 'S' ∉ text) (hf : 'F' ∉ text) : LigatureFree text := by
  intro pair hpair hwithin
  have hall : ∀ pair ∈ ligatures, 'S' ∈ pair ∨ 'F' ∈ pair := by decide
  rcases hall pair hpair with h | h
  · exact hs (hwithin.subset h)
  · exact hf (hwithin.subset h)

lemma ligatureFree_of_isNumeral (h : isNumeral text = true) : LigatureFree text :=
  ligatureFree_of_notMem (notMem_of_isNumeral h (by decide)) (notMem_of_isNumeral h (by decide))

/-- A character that is in no pair keeps apart what stands on its two sides. -/
lemma LigatureFree.append_cons (ha : LigatureFree a) (hb : LigatureFree b)
    (hc : ∀ pair ∈ ligatures, c ∉ pair) : LigatureFree (a ++ c :: b) := by
  intro pair hpair hwithin
  rcases infix_of_infix_append hwithin (hc pair hpair) with h | h
  · exact ha pair hpair h
  · exact hb pair hpair h

lemma ligatureFree_joinWith {parts : List (List Char)} (h : ∀ part ∈ parts, LigatureFree part) :
    LigatureFree (joinWith [','] parts) := by
  induction parts with
  | nil => decide
  | cons part more ih =>
      obtain ⟨hpart, hmore⟩ := List.forall_mem_cons.1 h
      by_cases hnil : more = []
      · subst hnil
        exact hpart
      · rw [joinWith_cons part hnil]
        exact hpart.append_cons (ih hmore) (by decide)

lemma IsValue.ligatureFree {value : Int} (h : IsValue field text value) : LigatureFree text := by
  cases h with
  | numeral hdigits hrange => exact ligatureFree_of_isNumeral hdigits
  | name hname =>
      have hall : ∀ entry ∈ field.names, LigatureFree entry.1 := by
        cases field <;> decide
      exact hall _ hname

/-- A weekday with an `L` behind it is no exception, for no name ends with an `F`. -/
lemma IsValue.ligatureFree_last {weekday : Int} (h : IsValue .dayOfWeek text weekday) :
    LigatureFree (text ++ ['L']) := by
  cases h with
  | numeral hdigits hrange =>
      refine ligatureFree_of_notMem ?_ ?_
      · simp [notMem_of_isNumeral hdigits (by decide : isDigit 'S' = false)]
      · simp [notMem_of_isNumeral hdigits (by decide : isDigit 'F' = false)]
  | name hname =>
      have hall : ∀ entry ∈ Field.dayOfWeek.names, LigatureFree (entry.1 ++ ['L']) := by decide
      exact hall _ hname

lemma IsRange.ligatureFree {first last : Int} (h : IsRange field text first last) :
    LigatureFree text := by
  obtain ⟨hfirst, hlast, hle⟩ := h
  exact hfirst.ligatureFree.append_cons hlast.ligatureFree (by decide)

lemma IsStep.ligatureFree {step : Nat} (h : IsStep text step) : LigatureFree text :=
  ligatureFree_of_isNumeral h.numeral

lemma TermValues.ligatureFree {set : Set Int} (h : TermValues field text set) :
    LigatureFree text := by
  have hstar : LigatureFree ['*'] := by decide
  cases h with
  | every => exact hstar
  | value h => exact h.ligatureFree
  | range h => exact h.ligatureFree
  | everyStep h => exact hstar.append_cons h.ligatureFree (by decide)
  | valueStep hbase h => exact hbase.ligatureFree.append_cons h.ligatureFree (by decide)
  | rangeStep hbase h => exact hbase.ligatureFree.append_cons h.ligatureFree (by decide)

lemma MarkerDenotes.ligatureFree {constraint : Constraint}
    (h : MarkerDenotes field text constraint) : LigatureFree text := by
  have hlast : LigatureFree ['L'] := by decide
  have hnil : LigatureFree [] := by decide
  cases h with
  | unspecified h => decide
  | lastDay => exact hlast
  | lastWorkday => decide
  | beforeLastDay hdigits hle =>
      exact hlast.append_cons (ligatureFree_of_isNumeral hdigits) (by decide)
  | nearestWorkday h => exact h.ligatureFree.append_cons hnil (by decide)
  | saturday => exact hlast
  | lastWeekday h => exact h.ligatureFree_last
  | nthWeekday h hdigits hpos hle =>
      exact h.ligatureFree.append_cons (ligatureFree_of_isNumeral hdigits) (by decide)

/-- **No text with a meaning has a pair of letters that is the upper case of one character.** -/
theorem FieldDenotes.ligatureFree {constraint : Constraint}
    (h : FieldDenotes field text constraint) : LigatureFree text := by
  cases h with
  | wildcard hmark hset => decide
  | marker h => exact h.ligatureFree
  | list hne hstar hterms hmark hset =>
      refine ligatureFree_joinWith fun term hterm => ?_
      obtain ⟨set, hset⟩ := TermValues.of_mem hterms hterm
      exact hset.ligatureFree

/-- A word with a meaning is written with the characters of its field. -/
lemma FieldDenotes.reads_or_lookalike {constraint : Constraint}
    (h : FieldDenotes field (upper text) constraint) (hc : c ∈ text) :
    field.reads c = true ∨ c ∈ field.lookalikes := by
  have hwithin := upperChar_infix_upper hc
  refine Field.reads_or_lookalike (fun d hd => h.permits (hwithin.subset hd)) ?_
  intro pair hpair hbegins
  exact h.ligatureFree pair hpair (hbegins.isInfix.trans hwithin)

/-! ## Expressions -/

/-- A place of an expression lies in the word of a field. -/
def InWord (text : List Char) (field : Field) (place : Nat) : Prop :=
  ∃ position word, (words text)[field.index]? = some (position, word) ∧
    position ≤ place ∧ place < position + word.length

/-- Every character of an expression that is not blank may stand in the field in whose word it
stands. -/
def WrittenWith (mayStand : Field → Char → Prop) (text : List Char) : Prop :=
  ∀ place c, text[place]? = some c → isBlank c = false →
    ∃ field, InWord text field place ∧ mayStand field c

lemma WrittenWith.imp {mayStand mayStand' : Field → Char → Prop} (h : WrittenWith mayStand text)
    (himp : ∀ field, ∀ c ∈ text, mayStand field c → mayStand' field c) :
    WrittenWith mayStand' text := by
  intro place c hc hblank
  obtain ⟨field, hplace, hmay⟩ := h place c hc hblank
  exact ⟨field, hplace, himp field c (List.mem_of_getElem? hc) hmay⟩

lemma exists_index_eq {index : Nat} (h : index < 7) : ∃ field : Field, field.index = index := by
  have hall : ∀ index < 7, ∃ field ∈ Field.all, field.index = index := by decide
  obtain ⟨field, -, hfield⟩ := hall index h
  exact ⟨field, hfield⟩

/-- The words of an expression that compiles are written with the characters of their fields. -/
lemma written_of_compile {strict : Bool} {t : Timetable} (halias : expandAlias text = text)
    (h : compile strict text = .ok t) :
    WrittenWith (fun field c => field.reads c = true ∨ c ∈ field.lookalikes) text := by
  intro place c hc hblank
  obtain ⟨hlength, hdenotes⟩ := compile_denotes h
  rw [halias] at hlength hdenotes
  obtain ⟨⟨position, word⟩, hmem, hle, hlt⟩ := @exists_word text c 0 place hc hblank
  simp only [Nat.zero_add] at hle hlt
  obtain ⟨index, hindex⟩ := List.mem_iff_getElem?.1 hmem
  have hrange : index < 7 := (List.getElem?_eq_some_iff.1 hindex).1.trans_le hlength
  obtain ⟨field, rfl⟩ := exists_index_eq hrange
  refine ⟨field, ⟨position, word, hindex, hle, hlt⟩, ?_⟩
  obtain ⟨d, hd⟩ : ∃ d, word[place - position]? = some d :=
    ⟨_, List.getElem?_eq_getElem (by omega)⟩
  have hplace := getElem?_of_mem_words hmem hd
  rw [Nat.add_sub_cancel' hle, hc] at hplace
  obtain rfl : c = d := Option.some.inj hplace
  exact (hdenotes field (position, word) hindex).reads_or_lookalike (List.mem_of_getElem? hd)

/-- **An expression is written with the characters of its fields**, or it is malformed.  The
characters of a field are its ASCII characters, letters in either case, and the dotless `ı` and the
long `ſ` where it permits an `I` or an `S`; an expression in which neither of these two occurs is
written with ASCII alone.  A numeral that is too long to be read is another reason why an expression
does not compile. -/
theorem compile_written (halias : expandAlias text = text) :
    let mayStand (field : Field) (c : Char) : Prop := field.reads c = true ∨ c ∈ field.lookalikes
    (∀ strict t, compile strict text = .ok t → WrittenWith mayStand text) ∧
    (ShortRuns text → ¬WrittenWith mayStand text →
      ∀ strict, ∃ e, compile strict text = .error (.malformed e)) ∧
    ('ı' ∉ text → 'ſ' ∉ text →
      (WrittenWith mayStand text ↔ WrittenWith (fun field c => field.reads c = true) text)) := by
  intro mayStand
  refine ⟨fun strict t h => written_of_compile halias h, fun hshort hnot strict => ?_, ?_⟩
  · cases h : compile strict text with
    | ok t => exact absurd (written_of_compile halias h) hnot
    | error failure =>
        obtain ⟨e, rfl⟩ := (compile_outcome strict hshort).of_eq_error h
        exact ⟨e, rfl⟩
  · intro hdotless hlong
    refine ⟨fun h => h.imp fun field c hc hmay => ?_, fun h => h.imp fun _ _ _ => Or.inl⟩
    refine hmay.resolve_right fun hlookalike => ?_
    rcases Field.eq_of_mem_lookalikes hlookalike with rfl | rfl
    · exact hdotless hc
    · exact hlong hc

/-- September may be written with a long `ſ`, but a ligature whose upper case is `FL` makes an
expression malformed, although each of the two letters is permitted. -/
theorem compile_written_september :
    let september := "0 0 12 l-3 ſep ? 2024".toList
    let ligature := "0 0 0 ? * ﬂ".toList
    (expandAlias september = september ∧ (∃ t, compile false september = .ok t) ∧
      WrittenWith (fun field c => field.reads c = true ∨ c ∈ field.lookalikes) september) ∧
    expandAlias ligature = ligature ∧ ShortRuns ligature ∧
      (∀ c ∈ upper ['ﬂ'], Field.dayOfWeek.permits c = true) ∧
      ∀ strict, ∃ e, compile strict ligature = .error (.malformed e) := by
  intro september ligature
  have hseptember : expandAlias september = september := by decide +kernel
  have hligature : expandAlias ligature = ligature := by decide +kernel
  have hshort : ShortRuns ligature := shortRuns_of_length (by decide)
  have hpermits : ∀ c ∈ upper ['ﬂ'], Field.dayOfWeek.permits c = true :=
    List.all_eq_true.1 (by decide)
  obtain ⟨t, ht⟩ := exists_ok_of_isSome
    (by decide +kernel : (compile false september).toOption.isSome = true)
  obtain ⟨haccepted, -, -⟩ := compile_written hseptember
  obtain ⟨-, hmalformed, -⟩ := compile_written hligature
  refine ⟨⟨hseptember, ⟨t, ht⟩, haccepted false t ht⟩, hligature, hshort, hpermits, ?_⟩
  refine hmalformed hshort fun hwritten => ?_
  obtain ⟨field, -, hmay⟩ := hwritten 10 'ﬂ' rfl rfl
  revert hmay
  cases field <;> decide

/-- Sunday with a long `ſ` and Friday with a dotless `ı` compile, though neither is in ASCII. -/
theorem compile_written_lookalikes :
    let text := "0 0 0 ? * ſun,frı".toList
    expandAlias text = text ∧ (∃ t, compile false text = .ok t) ∧
      ¬WrittenWith (fun field c => field.reads c = true) text := by
  intro text
  refine ⟨by decide +kernel, exists_ok_of_isSome (by decide +kernel), fun hwritten => ?_⟩
  obtain ⟨field, -, hreads⟩ := hwritten 10 'ſ' rfl rfl
  revert hreads
  cases field <;> decide

end Expression

end CronSchedule
