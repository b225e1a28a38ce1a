import Mathlib.Data.List.Forall2
import Mathlib.Tactic.Lemma

/-!
# Results and failures

The checked functions of this library return a result or say why there is none.  These lemmas take
such a function apart at its steps, so that no proof has to open the monad.

* `bind_eq_ok_iff`, `map_eq_ok_iff` — a sequence of steps has a result exactly when each step has.
* `mapError_bind`, `mapError_map` — failures are rewritten step by step.
* `mapM_eq_ok_iff`, `mapM_eq_error` — a step for each member of a list: the first failure decides.
* `Outcome` — a property of the result together with a property of the failure, and how it passes
  through a sequence of steps.
-/

namespace CronSchedule

variable {ε α β : Type}

/-! ## Results -/

@[simp] lemma pure_eq_ok_iff {a b : α} : (pure a : Except ε α) = .ok b ↔ a = b :=
  Except.ok.injEq a b ▸ Iff.rfl

@[simp] lemma ok_bind (a : α) (f : α → Except ε β) : (Except.ok a >>= f) = f a := rfl

@[simp] lemma error_bind (e : ε) (f : α → Except ε β) : (Except.error e >>= f) = .error e := rfl

lemma bind_eq_ok_iff {x : Except ε α} {f : α → Except ε β} {b : β} :
    (x >>= f) = .ok b ↔ ∃ a, x = .ok a ∧ f a = .ok b := by
  cases x with
  | error e => simp
  | ok a => simp

lemma map_eq_ok_iff {x : Except ε α} {f : α → β} {b : β} :
    x.map f = .ok b ↔ ∃ a, x = .ok a ∧ f a = b := by
  cases x with
  | error e => simp [Except.map]
  | ok a => simp [Except.map]

lemma map_eq_error_iff {x : Except ε α} {f : α → β} {e : ε} :
    f <$> x = .error e ↔ x = .error e := by
  cases x with
  | error e' => simp [Functor.map, Except.map]
  | ok a => exact iff_of_false nofun nofun

lemma mapError_eq_ok_iff {ε' : Type} {x : Except ε α} {f : ε → ε'} {a : α} :
    x.mapError f = .ok a ↔ x = .ok a := by
  cases x with
  | error e => exact iff_of_false nofun nofun
  | ok b => constructor <;> (rintro ⟨⟩; rfl)

lemma mapM_some_eq_ok_iff {f : α → Except ε β} {a : α} {b : Option β} :
    Option.mapM f (some a) = .ok b ↔ ∃ c, f a = .ok c ∧ some c = b :=
  map_eq_ok_iff

lemma toOption_eq_some_iff {x : Except ε α} {a : α} : x.toOption = some a ↔ x = .ok a := by
  cases x with
  | error e => simp [Except.toOption]
  | ok b => simp [Except.toOption]

lemma exists_ok_of_isSome {x : Except ε α} (h : x.toOption.isSome = true) : ∃ a, x = .ok a := by
  cases x with
  | error e => cases h
  | ok a => exact ⟨a, rfl⟩

lemma exists_ok_of_any {x : Except ε α} {p : α → Bool} (h : x.toOption.any p = true) :
    ∃ a, x = .ok a ∧ p a = true := by
  cases x with
  | error e => cases h
  | ok a => exact ⟨a, rfl, h⟩

lemma exists_error_of_isNone {x : Except ε α} (h : x.toOption.isNone = true) :
    ∃ e, x = .error e := by
  cases x with
  | error e => exact ⟨e, rfl⟩
  | ok a => cases h

/-- Two steps of which the second one gives `b` when it is run. -/
lemma exists_ok_of_toOption {ε' : Type} {x : Except ε α} {f : α → Except ε' β} {b : β}
    (h : (x.toOption.bind fun a => (f a).toOption) = some b) : ∃ a, x = .ok a ∧ f a = .ok b := by
  cases x with
  | error e => cases h
  | ok a =>
      cases hf : f a with
      | error e =>
          simp only [Except.toOption, Option.bind_some, hf] at h
          cases h
      | ok c =>
          simp only [Except.toOption, Option.bind_some, hf] at h
          exact ⟨a, rfl, hf.trans (congrArg Except.ok (Option.some.inj h))⟩

/-! ## Rewriting failures -/

section MapError

variable {ε' : Type} {g : ε → ε'}

@[simp] lemma mapError_ok (a : α) : (Except.ok a : Except ε α).mapError g = .ok a := rfl

@[simp] lemma mapError_error (e : ε) : (Except.error e : Except ε α).mapError g = .error (g e) :=
  rfl

@[simp] lemma mapError_pure (a : α) : (pure a : Except ε α).mapError g = pure a := rfl

@[simp] lemma mapError_bind (x : Except ε α) (f : α → Except ε β) :
    (x >>= f).mapError g = x.mapError g >>= fun a => (f a).mapError g := by
  cases x <;> rfl

@[simp] lemma mapError_map (x : Except ε α) (f : α → β) :
    (f <$> x).mapError g = f <$> x.mapError g := by
  cases x <;> rfl

@[simp] lemma isOk_mapError (x : Except ε α) : (x.mapError g).isOk = x.isOk := by
  cases x <;> rfl

@[simp] lemma mapError_ite (c : Prop) [Decidable c] (x y : Except ε α) :
    (if c then x else y).mapError g = if c then x.mapError g else y.mapError g :=
  apply_ite (Except.mapError g) c x y

end MapError

/-! ## A step for each member of a list -/

section Members

variable {f : α → Except ε β} {l : List α} {a : α}

lemma exists_ok_of_isOk {x : Except ε α} (h : x.isOk = true) : ∃ a, x = .ok a := by
  cases x with
  | error e => cases h
  | ok a => exact ⟨a, rfl⟩

lemma mapM_eq_ok_iff {results : List β} :
    l.mapM f = .ok results ↔ List.Forall₂ (fun a b => f a = .ok b) l results := by
  induction l generalizing results with
  | nil => rw [List.mapM_nil, pure_eq_ok_iff, List.forall₂_nil_left_iff, eq_comm]
  | cons a rest ih =>
      simp only [List.mapM_cons, bind_eq_ok_iff, pure_eq_ok_iff, ih, List.forall₂_cons_left_iff]
      constructor
      · rintro ⟨b, hb, others, hothers, rfl⟩
        exact ⟨b, others, hb, hothers, rfl⟩
      · rintro ⟨b, others, hb, hothers, rfl⟩
        exact ⟨b, hb, others, hothers, rfl⟩

lemma exists_mapM_eq_ok (h : ∀ a ∈ l, (f a).isOk = true) : ∃ results, l.mapM f = .ok results := by
  induction l with
  | nil => exact ⟨[], rfl⟩
  | cons a rest ih =>
      obtain ⟨ha, hrest⟩ := List.forall_mem_cons.1 h
      obtain ⟨b, hb⟩ := exists_ok_of_isOk ha
      obtain ⟨results, hresults⟩ := ih hrest
      refine ⟨b :: results, ?_⟩
      rw [List.mapM_cons, hb, hresults]
      rfl

/-- The first member without a result has a failure. -/
lemma exists_error_of_find? (h : l.find? (fun a => !(f a).isOk) = some a) :
    ∃ e, f a = .error e := by
  have hfailed := List.find?_some h
  cases ha : f a with
  | error e => exact ⟨e, rfl⟩
  | ok b =>
      rw [ha] at hfailed
      cases hfailed

/-- The first member without a result decides the failure. -/
lemma mapM_eq_error {e : ε} (hfirst : l.find? (fun a => !(f a).isOk) = some a)
    (ha : f a = .error e) : l.mapM f = .error e := by
  induction l with
  | nil => cases hfirst
  | cons b rest ih =>
      rw [List.mapM_cons]
      cases hb : f b with
      | error e' =>
          rw [List.find?_cons_of_pos (by rw [hb]; rfl)] at hfirst
          obtain rfl := Option.some.inj hfirst
          rw [ha] at hb
          rw [error_bind, Except.error.inj hb]
      | ok c =>
          rw [List.find?_cons_of_neg (by rw [hb]; nofun)] at hfirst
          rw [ok_bind, ih hfirst, error_bind]

end Members

/-! ## Results and failures together -/

/-- A result has one property, a failure another. -/
def Outcome (bad : ε → Prop) (good : α → Prop) : Except ε α → Prop
  | .ok a => good a
  | .error e => bad e

namespace Outcome

variable {bad bad' : ε → Prop} {good good' : α → Prop} {goal : β → Prop} {x : Except ε α}

lemma intro (hgood : ∀ a, x = .ok a → good a) (hbad : ∀ e, x = .error e → bad e) :
    Outcome bad good x := by
  cases x with
  | error e => exact hbad e rfl
  | ok a => exact hgood a rfl

lemma anything (x : Except ε α) : Outcome (fun _ => True) (fun _ => True) x :=
  intro (fun _ _ => trivial) fun _ _ => trivial

lemma pure {a : α} (h : good a) : Outcome bad good (Pure.pure a : Except ε α) := h

lemma bind {f : α → Except ε β} (hx : Outcome bad good x)
    (hf : ∀ a, good a → Outcome bad goal (f a)) : Outcome bad goal (x >>= f) := by
  cases x with
  | error e => exact hx
  | ok a => exact hf a hx

/-- Rewriting a failure leaves the result as it is. -/
lemma mapError {ε' : Type} {f : ε → ε'} (hx : Outcome (fun _ => True) good x) :
    Outcome (fun _ => True) good (x.mapError f) := by
  cases x with
  | error e => exact trivial
  | ok a => exact hx

/-- What each step preserves holds after all steps. -/
lemma foldlM {f : β → α → Except ε β} {l : List α} {b : β}
    (hf : ∀ b a, goal b → Outcome bad goal (f b a)) (hb : goal b) :
    Outcome bad goal (l.foldlM f b) := by
  induction l generalizing b with
  | nil => exact hb
  | cons a rest ih =>
      rw [List.foldlM_cons]
      exact (hf b a hb).bind fun b' hb' => ih hb'

lemma imp (hx : Outcome bad good x) (hbad : ∀ e, bad e → bad' e) (hgood : ∀ a, good a → good' a) :
    Outcome bad' good' x := by
  cases x with
  | error e => exact hbad e hx
  | ok a => exact hgood a hx

lemma mono (hx : Outcome bad good x) (h : ∀ a, good a → good' a) : Outcome bad good' x :=
  hx.imp (fun _ he => he) h

/-- What cannot fail has a result. -/
lemma exists_ok (hx : Outcome bad good x) (h : ∀ e, ¬bad e) : ∃ a, x = .ok a ∧ good a := by
  cases x with
  | error e => exact absurd hx (h e)
  | ok a => exact ⟨a, rfl, hx⟩

lemma of_eq_ok {a : α} (hx : Outcome bad good x) (h : x = .ok a) : good a := by
  subst h
  exact hx

lemma of_eq_error {e : ε} (hx : Outcome bad good x) (h : x = .error e) : bad e := by
  subst h
  exact hx

end Outcome

end CronSchedule
