import CronSchedule.Proofs.Text.Split
import CronSchedule.Text.Numeral
import Mathlib.Data.List.Induction
import Mathlib.Tactic.IntervalCases
import Mathlib.Tactic.Lemma

/-!
# Numerals and the numbers they denote

* `isNumeral_iff`, `notMem_of_isNumeral` — what stands in a numeral.
* **`ofDigits_toDigits`** — the decimal text of a number denotes the number.
* **`ofInt_injective`** — an integer is known by its decimal text.
* `ShortRuns` — no run of digits in a text is too long to be read; `ShortRuns.append_cons` — parts
  with such runs may be put together around a separator.
-/

namespace CronSchedule.Text

variable {text digits a b : List Char} {c : Char}

/-! ## Numerals -/

lemma isNumeral_iff : isNumeral text = true ↔ text ≠ [] ∧ ∀ c ∈ text, isDigit c = true := by
  simp [isNumeral]

/-- What is no digit does not stand in a numeral. -/
lemma notMem_of_isNumeral (h : isNumeral text = true) (hc : isDigit c = false) : c ∉ text := by
  intro hmem
  have := (isNumeral_iff.1 h).2 c hmem
  simp [hc] at this

lemma isDigit_eq_isDigit (c : Char) : isDigit c = c.isDigit := by
  rw [isDigit, Char.isDigit]
  rfl

/-- The decimal text of a number is a numeral. -/
lemma isNumeral_toDigits (n : Nat) : isNumeral (Nat.toDigits 10 n) = true := by
  refine isNumeral_iff.2 ⟨Nat.toDigits_ne_nil, fun c hc => ?_⟩
  rw [isDigit_eq_isDigit]
  exact Nat.isDigit_of_mem_toDigits (by decide) (by decide) hc

/-- Digits are known by name. -/
lemma mem_digits_of_isDigit (h : isDigit c = true) :
    c ∈ ['0', '1', '2', '3', '4', '5', '6', '7', '8', '9'] := by
  simp only [isDigit, Bool.and_eq_true, decide_eq_true_eq] at h
  have hlow : 48 ≤ c.toNat := h.1
  have hhigh : c.toNat ≤ 57 := h.2
  rw [← Char.ofNat_toNat c]
  generalize c.toNat = n at hlow hhigh
  interval_cases n <;> decide

lemma digitValue_le (h : isDigit c = true) : digitValue c ≤ 9 := by
  simp only [isDigit, Bool.and_eq_true, decide_eq_true_eq] at h
  have hhigh : c.toNat ≤ 57 := h.2
  exact Nat.sub_le_sub_right hhigh 48

/-- **The decimal text of a number denotes the number.** -/
theorem ofDigits_toDigits (n : Nat) : ofDigits (Nat.toDigits 10 n) = n :=
  Nat.ofDigitChars_ten_toDigits

/-- A run of digits denotes a number below the power of ten of its length. -/
lemma ofDigits_lt (h : ∀ c ∈ digits, isDigit c = true) : ofDigits digits < 10 ^ digits.length := by
  induction digits using List.reverseRecOn with
  | nil => decide
  | append_singleton digits c ih =>
      obtain ⟨hdigits, hc⟩ := List.forall_mem_append.1 h
      have hvalue := digitValue_le (hc c (List.mem_singleton_self c))
      have hrest := ih hdigits
      have hstep : ofDigits (digits ++ [c]) = 10 * ofDigits digits + digitValue c := by
        rw [ofDigits, List.foldl_append]
        rfl
      rw [hstep, List.length_append, List.length_singleton, pow_succ]
      omega

/-! ## Integers -/

variable {n : Int}

lemma ofInt_of_nonneg (h : 0 ≤ n) : ofInt n = Nat.toDigits 10 n.natAbs :=
  if_neg (Int.not_lt.2 h)

lemma isNumeral_ofInt (h : 0 ≤ n) : isNumeral (ofInt n) = true := by
  rw [ofInt_of_nonneg h]
  exact isNumeral_toDigits _

lemma isDigit_of_mem_ofInt (h : 0 ≤ n) (hc : c ∈ ofInt n) : isDigit c = true :=
  (isNumeral_iff.1 (isNumeral_ofInt h)).2 c hc

lemma ofDigits_ofInt (h : 0 ≤ n) : (ofDigits (ofInt n) : Int) = n := by
  rw [ofInt_of_nonneg h, ofDigits_toDigits]
  omega

/-- A character that is no digit and no minus sign does not stand in a decimal text. -/
lemma notMem_ofInt (hdigit : isDigit c = false) (hminus : c ≠ '-') : c ∉ ofInt n := by
  have hdigits : c ∉ Nat.toDigits 10 n.natAbs := notMem_of_isNumeral (isNumeral_toDigits _) hdigit
  rw [ofInt]
  split
  · exact List.not_mem_cons_of_ne_of_not_mem hminus hdigits
  · exact hdigits

/-- **An integer is known by its decimal text.** -/
theorem ofInt_injective : Function.Injective ofInt := by
  have hdigits : ∀ {m k : Nat}, Nat.toDigits 10 m = Nat.toDigits 10 k → m = k := fun {m k} h => by
    rw [← ofDigits_toDigits m, h, ofDigits_toDigits]
  have hminus : ∀ m : Nat, '-' ∉ Nat.toDigits 10 m := fun m =>
    notMem_of_isNumeral (isNumeral_toDigits m) (by decide)
  intro a b h
  rw [ofInt, ofInt] at h
  split at h <;> split at h
  · have habs := hdigits (List.cons.inj h).2
    omega
  · exact absurd (h ▸ List.mem_cons_self) (hminus b.natAbs)
  · exact absurd (h ▸ List.mem_cons_self) (hminus a.natAbs)
  · have habs := hdigits h
    omega

/-! ## Runs of digits -/

/-- No run of digits in a text is too long to be read. -/
def ShortRuns (text : List Char) : Prop :=
  ∀ run, run <:+: text → (∀ c ∈ run, isDigit c = true) → run.length ≤ maxDigits

lemma ShortRuns.of_infix (h : ShortRuns text) (ha : a <:+: text) : ShortRuns a :=
  fun run hrun => h run (hrun.trans ha)

lemma ShortRuns.left (h : ShortRuns (a ++ c :: b)) : ShortRuns a :=
  h.of_infix (List.prefix_append a (c :: b)).isInfix

lemma ShortRuns.right (h : ShortRuns (a ++ c :: b)) : ShortRuns b :=
  h.of_infix ((List.suffix_cons c b).trans (List.suffix_append a (c :: b))).isInfix

lemma shortRuns_of_length (h : text.length ≤ maxDigits) : ShortRuns text :=
  fun _ hrun _ => hrun.length_le.trans h

/-- A run without the separator lies on one side of it. -/
lemma infix_of_infix_append {run : List Char} (h : run <:+: a ++ c :: b) (hc : c ∉ run) :
    run <:+: a ∨ run <:+: b := by
  have hempty : ∀ {l : List Char}, l <+: c :: b → c ∉ l → l = [] := by
    intro l hl hcl
    rcases List.prefix_cons_iff.1 hl with rfl | ⟨rest, rfl, -⟩
    · rfl
    · simp at hcl
  rcases List.infix_append_iff.1 h with h | h | ⟨left, right, rfl, hleft, hright⟩
  · exact Or.inl h
  · rcases List.infix_cons_iff.1 h with h | h
    · rw [hempty h hc]
      exact Or.inl List.nil_infix
    · exact Or.inr h
  · obtain rfl := hempty hright fun hmem => hc (List.mem_append_right _ hmem)
    rw [List.append_nil]
    exact Or.inl hleft.isInfix

/-- Texts with short runs may be put together with a character that is no digit. -/
lemma ShortRuns.append_cons (ha : ShortRuns a) (hb : ShortRuns b) (hc : isDigit c = false) :
    ShortRuns (a ++ c :: b) := by
  intro run hrun hdigits
  have hnot : c ∉ run := fun hmem => by simp [hdigits c hmem] at hc
  rcases infix_of_infix_append hrun hnot with h | h
  · exact ha run h hdigits
  · exact hb run h hdigits

lemma shortRuns_joinWith {parts : List (List Char)} (hc : isDigit c = false)
    (h : ∀ part ∈ parts, ShortRuns part) : ShortRuns (joinWith [c] parts) := by
  induction parts with
  | nil => exact shortRuns_of_length (Nat.zero_le _)
  | cons part more ih =>
      obtain ⟨hpart, hmore⟩ := List.forall_mem_cons.1 h
      by_cases hnil : more = []
      · subst hnil
        exact hpart
      · rw [joinWith_cons part hnil]
        exact hpart.append_cons (ih hmore) hc

/-- A number of up to four digits is not too long. -/
lemma shortRuns_ofInt (h : 0 ≤ n) (hlt : n < 10000) : ShortRuns (ofInt n) := by
  have hlength : (Nat.toDigits 10 n.natAbs).length ≤ 4 :=
    (Nat.length_toDigits_le_iff (by decide) (by decide)).2 (by omega)
  rw [ofInt_of_nonneg h]
  exact shortRuns_of_length (Nat.le_trans hlength (by decide))

lemma ShortRuns.readDigits_eq (h : ShortRuns digits) (hdigits : isNumeral digits = true) :
    readDigits digits = .ok (ofDigits digits) :=
  if_neg (Nat.not_lt.2 (h digits List.infix_rfl (isNumeral_iff.1 hdigits).2))

end CronSchedule.Text
