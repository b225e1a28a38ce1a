import CronSchedule.Proofs.Text.Digits
import CronSchedule.Text.Case
import Mathlib.Data.List.Basic

/-!
# Upper case

Upper case keeps every digit and makes no new one, beyond ASCII too.  So the runs of digits of a
text and of its upper case are the same.  Of the characters beyond ASCII, few lead into ASCII; and
as long as each character of a text becomes a single one, all stay at their places.

* `mapByRuns_cases`, `upperChar_cases` — where the mapping of a code and of a character comes from.
* `upperChar_of_isDigit`, `upperChar_of_not_isDigit` — the upper case of one character.
* `upperChar_ascii` — the characters beyond ASCII that upper case leads into ASCII: `ı` and `ſ`, and
  those that become a pair of `ligatures` and perhaps more.
* `infix_of_infix_upper` — a run of digits in the upper case of a text stands in the text.
* **`ShortRuns.upper`** — upper case makes no run of digits too long to be read.
* `KeepsPlaces` — upper case leaves every character of a text at its place.
-/

namespace CronSchedule.Text

variable {text run : List Char} {c : Char}

/-! ## Characters -/

/-- The digits are the characters from 48 to 57, and an invalid code is no digit. -/
lemma not_isDigit_ofNat {n : Nat} (h : 58 ≤ n) : isDigit (Char.ofNat n) = false := by
  by_cases hvalid : n.isValidChar
  · have hcode : (Char.ofNat n).toNat = n := by
      rw [Char.ofNat, dif_pos hvalid]
      rfl
    rw [isDigit, Bool.and_eq_false_iff]
    refine Or.inr (decide_eq_false fun hle => ?_)
    have hnine : (Char.ofNat n).toNat ≤ 57 := hle
    omega
  · rw [Char.ofNat, dif_neg hvalid]
    rfl

lemma toUpper_of_ascii {n : Nat} (h : n < 128) :
    let c := Char.ofNat n
    (isDigit c = true → c.toUpper = c) ∧ (isDigit c = false → isDigit c.toUpper = false) := by
  revert n
  decide

lemma toNat_ofNat {n : Nat} (h : 0 < (Char.ofNat n).toNat) : (Char.ofNat n).toNat = n := by
  by_cases hvalid : n.isValidChar
  · rw [Char.ofNat, dif_pos hvalid]
    rfl
  · rw [Char.ofNat, dif_neg hvalid] at h
    cases h

lemma upperChar_of_isDigit (h : isDigit c = true) : upperChar c = [c] := by
  have hall : ['0', '1', '2', '3', '4', '5', '6', '7', '8', '9'].Forall fun d =>
      upperChar d = [d] := by decide
  exact List.forall_iff_forall_mem.1 hall c (mem_digits_of_isDigit h)

/-- A list of runs leaves a code alone or moves it by one of the runs. -/
lemma mapByRuns_cases (runs : List CaseRun) (code : Nat) :
    mapByRuns runs code = code ∨ ∃ r ∈ runs, (r.first ≤ code ∧ code ≤ r.last) ∧
      mapByRuns runs code = (code + r.shift).toNat := by
  unfold mapByRuns
  split
  · rename_i r hfind
    have hcovers := List.find?_some hfind
    simp only [CaseRun.covers, Bool.and_eq_true, decide_eq_true_eq] at hcovers
    exact Or.inr ⟨r, List.mem_of_find?_eq_some hfind, hcovers.1, rfl⟩
  · exact Or.inl rfl

/-- The upper case of a character beyond ASCII stands in the list of expansions, or comes from the
runs. -/
lemma upperChar_cases (h : ¬c.toNat < 128) :
    (∃ entry ∈ upperExpansions, upperChar c = entry.2.map Char.ofNat) ∨
      upperChar c = [Char.ofNat (mapByRuns upperRuns c.toNat)] := by
  rw [upperChar, if_neg h, mapBeyondAscii]
  split
  · rename_i codes hlookup
    obtain ⟨before, after, hentries, -⟩ := List.lookup_eq_some_iff.1 hlookup
    exact Or.inl ⟨(c.toNat, codes), by simp [hentries], rfl⟩
  · exact Or.inr rfl

/-- The mappings beyond ASCII lead to no digit. -/
lemma not_isDigit_mapByRuns {code : Nat} (h : 128 ≤ code) :
    isDigit (Char.ofNat (mapByRuns upperRuns code)) = false := by
  have hall : ∀ r ∈ upperRuns, 58 ≤ (r.first : Int) + r.shift := by decide +kernel
  refine not_isDigit_ofNat ?_
  rcases mapByRuns_cases upperRuns code with heq | ⟨r, hr, hcovers, heq⟩
  · omega
  · have hrun := hall r hr
    omega

/-- The upper case of a character that is no digit has no digits, and it is not empty. -/
lemma upperChar_of_not_isDigit (h : isDigit c = false) :
    upperChar c ≠ [] ∧ ∀ d ∈ upperChar c, isDigit d = false := by
  by_cases hascii : c.toNat < 128
  · have hupper := (toUpper_of_ascii hascii).2
    rw [Char.ofNat_toNat] at hupper
    rw [upperChar, if_pos hascii]
    exact ⟨List.cons_ne_nil _ _, List.forall_mem_singleton.2 (hupper h)⟩
  have hall : ∀ entry ∈ upperExpansions, entry.2 ≠ [] ∧ ∀ code ∈ entry.2, 58 ≤ code := by
    decide +kernel
  rcases upperChar_cases hascii with ⟨entry, hentry, heq⟩ | heq
  · obtain ⟨hne, hcodes⟩ := hall entry hentry
    rw [heq]
    refine ⟨by simpa using hne, fun d hd => ?_⟩
    obtain ⟨code, hcode, rfl⟩ := List.mem_map.1 hd
    exact not_isDigit_ofNat (hcodes code hcode)
  · rw [heq]
    exact ⟨List.cons_ne_nil _ _,
      List.forall_mem_singleton.2 (not_isDigit_mapByRuns (Nat.not_lt.1 hascii))⟩

/-- The pairs of letters with which the upper case of a character beyond ASCII can begin. -/
def ligatures : List (List Char) :=
  [['S', 'S'], ['S', 'T'], ['F', 'F'], ['F', 'I'], ['F', 'L']]

/-- Only two characters beyond ASCII become a single one in ASCII. -/
lemma mapByRuns_ascii {code : Nat} (h : 128 ≤ code) (hascii : mapByRuns upperRuns code < 128) :
    code = 0x131 ∨ code = 0x17f := by
  have hall : ∀ r ∈ upperRuns, 128 ≤ (r.first : Int) + r.shift ∨
      r.first = 0x131 ∧ r.last = 0x131 ∨ r.first = 0x17f ∧ r.last = 0x17f := by decide +kernel
  rcases mapByRuns_cases upperRuns code with heq | ⟨r, hr, hcovers, heq⟩
  · omega
  · have hrun := hall r hr
    omega

/-- **Few characters beyond ASCII lead into ASCII**: the dotless `ı` and the long `ſ`, and those
that stand for two letters or more. -/
theorem upperChar_ascii (hc : ¬c.toNat < 128)
    (h : ∀ d ∈ upperChar c, 0 < d.toNat ∧ d.toNat < 128) :
    c = 'ı' ∨ c = 'ſ' ∨ ∃ pair ∈ ligatures, pair <+: upperChar c := by
  have hcode : ∀ {n : Nat}, Char.ofNat n ∈ upperChar c → n < 128 := by
    intro n hn
    have hascii := h _ hn
    rw [toNat_ofNat hascii.1] at hascii
    exact hascii.2
  have hall : ∀ entry ∈ upperExpansions, (∀ code ∈ entry.2, code < 128) →
      ∃ pair ∈ ligatures, pair <+: entry.2.map Char.ofNat := by decide +kernel
  rcases upperChar_cases hc with ⟨entry, hentry, heq⟩ | heq
  · rw [heq] at hcode ⊢
    exact Or.inr (Or.inr (hall entry hentry fun code hmem => hcode (List.mem_map_of_mem hmem)))
  · rw [heq] at hcode
    have hascii := hcode (List.mem_singleton.2 rfl)
    rcases mapByRuns_ascii (Nat.not_lt.1 hc) hascii with hdotless | hlong
    · exact Or.inl (Char.toNat_inj.1 hdotless)
    · exact Or.inr (Or.inl (Char.toNat_inj.1 hlong))

/-! ## Runs of digits -/

lemma upper_cons (c : Char) (text : List Char) : upper (c :: text) = upperChar c ++ upper text :=
  List.flatMap_cons

lemma prefix_of_prefix_upper (hdigits : ∀ c ∈ run, isDigit c = true) (h : run <+: upper text) :
    run <+: text := by
  induction text generalizing run with
  | nil => exact h
  | cons c rest ih =>
      cases run with
      | nil => exact List.nil_prefix
      | cons d more =>
          obtain ⟨hd, hmore⟩ := List.forall_mem_cons.1 hdigits
          rw [upper_cons] at h
          cases hc : isDigit c with
          | true =>
              rw [upperChar_of_isDigit hc, List.singleton_append, List.cons_prefix_cons] at h
              obtain ⟨rfl, hprefix⟩ := h
              exact List.cons_prefix_cons.2 ⟨rfl, ih hmore hprefix⟩
          | false =>
              obtain ⟨hne, hnot⟩ := upperChar_of_not_isDigit hc
              obtain ⟨first, others, hupper⟩ := List.exists_cons_of_ne_nil hne
              rw [hupper, List.cons_append, List.cons_prefix_cons] at h
              have hfirst := hnot first (hupper ▸ List.mem_cons_self)
              rw [← h.1, hd] at hfirst
              cases hfirst

/-- A run of digits in the upper case of a text stands in the text. -/
lemma infix_of_infix_upper (hdigits : ∀ c ∈ run, isDigit c = true) (h : run <:+: upper text) :
    run <:+: text := by
  induction text generalizing run with
  | nil => exact h
  | cons c rest ih =>
      cases hc : isDigit c with
      | true =>
          rw [upper_cons, upperChar_of_isDigit hc, List.singleton_append, List.infix_cons_iff] at h
          rcases h with h | h
          · have hprefix : run <+: upper (c :: rest) := by
              rwa [upper_cons, upperChar_of_isDigit hc]
            exact (prefix_of_prefix_upper hdigits hprefix).isInfix
          · exact List.infix_cons (ih hdigits h)
      | false =>
          have hnot := (upperChar_of_not_isDigit hc).2
          have hnil : ∀ {l : List Char}, l <:+: upperChar c → (∀ c ∈ l, isDigit c = true) →
              l = [] := by
            intro l hl hall
            refine List.eq_nil_iff_forall_not_mem.2 fun d hd => ?_
            simpa [hall d hd] using hnot d (hl.subset hd)
          rw [upper_cons] at h
          rcases List.infix_append_iff.1 h with h | h | ⟨left, right, rfl, hleft, hright⟩
          · rw [hnil h hdigits]
            exact List.nil_infix
          · exact List.infix_cons (ih hdigits h)
          · -- the run begins in the upper case of `c`, where there are no digits
            obtain ⟨hleftDigits, hrightDigits⟩ := List.forall_mem_append.1 hdigits
            rw [hnil hleft.isInfix hleftDigits, List.nil_append]
            exact List.infix_cons (prefix_of_prefix_upper hrightDigits hright).isInfix

/-- **Upper case makes no run of digits too long to be read.** -/
theorem ShortRuns.upper (h : ShortRuns text) : ShortRuns (upper text) :=
  fun run hrun hdigits => h run (infix_of_infix_upper hdigits hrun) hdigits

/-! ## Places -/

/-- The upper case of a character of a text stands in the upper case of the text. -/
lemma upperChar_infix_upper (h : c ∈ text) : upperChar c <:+: upper text := by
  obtain ⟨before, after, rfl⟩ := List.append_of_mem h
  refine ⟨upper before, upper after, ?_⟩
  simp [upper]

/-- Upper case leaves every character of a text at its place: each becomes a single one. -/
def KeepsPlaces (text : List Char) : Prop :=
  ∀ c ∈ text, (upperChar c).length = 1

instance (text : List Char) : Decidable (KeepsPlaces text) :=
  List.decidableBAll (fun c => (upperChar c).length = 1) text

namespace KeepsPlaces

lemma length_upper (h : KeepsPlaces text) : (Text.upper text).length = text.length := by
  induction text with
  | nil => rfl
  | cons c rest ih =>
      obtain ⟨hc, hrest⟩ := List.forall_mem_cons.1 h
      rw [upper_cons, List.length_append, hc, ih hrest, List.length_cons, Nat.add_comm]

/-- What stands at a place of the upper case comes from the character at the same place. -/
lemma exists_getElem? (h : KeepsPlaces text) {place : Nat}
    (hc : (Text.upper text)[place]? = some c) :
    ∃ d, text[place]? = some d ∧ c ∈ upperChar d := by
  induction text generalizing place with
  | nil => cases hc
  | cons d rest ih =>
      obtain ⟨hd, hrest⟩ := List.forall_mem_cons.1 h
      obtain ⟨u, hu⟩ := List.length_eq_one_iff.1 hd
      rw [upper_cons, hu, List.singleton_append] at hc
      cases place with
      | zero =>
          obtain rfl : u = c := by simpa using hc
          exact ⟨d, rfl, by simp [hu]⟩
      | succ place => exact ih hrest (by simpa using hc)

end KeepsPlaces

end CronSchedule.Text
