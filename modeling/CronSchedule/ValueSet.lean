import CronSchedule.Field

/-!
# Sets of field values

A field that lists values compiles to a set of integers.  The set is kept as its increasing list of
members, so that two sets are equal exactly when their lists are, and it is never empty; both facts
are part of the type.  A set built by hand may hold values that its field does not have.

* `bisectLeft`, `bisectRight` — the place of a value in an increasing list, found by halving.
* `Progression` — an arithmetic progression, the meaning of one term of a list.
* `ValueSet` — a set of values, with the mark of the wildcard `*`.
* `ValueSet.ofList?`, `ValueSet.ofProgressions`, `ValueSet.full` — ways to build one.
* `ValueSet.ceiling`, `ValueSet.floor` — the nearest members in either direction.
-/

namespace CronSchedule

/-! ## Increasing lists -/

/-- Puts a value into an increasing list, unless it is there already. -/
def insertValue (value : Int) : List Int → List Int
  | [] => [value]
  | head :: rest =>
    if value < head then value :: head :: rest
    else if value = head then head :: rest
    else head :: insertValue value rest

/-- The increasing list of the values in a list. -/
def sortValues (values : List Int) : List Int :=
  values.foldr insertValue []

@[simp]
theorem mem_insertValue {v w : Int} {values : List Int} :
    w ∈ insertValue v values ↔ w = v ∨ w ∈ values := by
  induction values with
  | nil => simp [insertValue]
  | cons head rest ih =>
    rw [insertValue]
    split
    · simp
    · split
      · rename_i h; simp [h]
      · simp [ih, or_left_comm]

theorem pairwise_insertValue {v : Int} {values : List Int} (h : values.Pairwise (· < ·)) :
    (insertValue v values).Pairwise (· < ·) := by
  induction values with
  | nil => simp [insertValue]
  | cons head rest ih =>
    obtain ⟨hlt, hrest⟩ := List.pairwise_cons.1 h
    rw [insertValue]
    split
    · rename_i hv
      refine List.pairwise_cons.2 ⟨fun w hw => ?_, h⟩
      cases hw with
      | head => exact hv
      | tail _ hw => exact Int.lt_trans hv (hlt w hw)
    · split
      · exact h
      · rename_i hle hne
        refine List.pairwise_cons.2 ⟨fun w hw => ?_, ih hrest⟩
        rcases mem_insertValue.1 hw with rfl | hw
        · omega
        · exact hlt w hw

@[simp]
theorem mem_sortValues {w : Int} {values : List Int} : w ∈ sortValues values ↔ w ∈ values := by
  induction values with
  | nil => simp [sortValues]
  | cons head rest ih =>
    have step : sortValues (head :: rest) = insertValue head (sortValues rest) := rfl
    simp [step, ih]

theorem pairwise_sortValues (values : List Int) : (sortValues values).Pairwise (· < ·) := by
  induction values with
  | nil => simp [sortValues]
  | cons head rest ih => exact pairwise_insertValue ih

/-! ## Bisection -/

/-- The place in a list where its values cease to pass a test, which lies between two places.  The
value in the middle tells in which half it lies. -/
def bisect (test : Int → Bool) (values : List Int) (low high : Nat)
    (hhigh : high ≤ values.length) : Nat :=
  if hlow : low < high then
    have hmiddle : (low + high) / 2 < values.length := by omega
    if test values[(low + high) / 2] then bisect test values ((low + high) / 2 + 1) high hhigh
    else bisect test values low ((low + high) / 2) (by omega)
  else low
termination_by high - low

/-- The place of a value in an increasing list, before the value itself. -/
def bisectLeft (values : List Int) (value : Int) : Nat :=
  bisect (· < value) values 0 values.length (Nat.le_refl _)

/-- The place of a value in an increasing list, after the value itself. -/
def bisectRight (values : List Int) (value : Int) : Nat :=
  bisect (· ≤ value) values 0 values.length (Nat.le_refl _)

/-! ## Progressions -/

/-- The values `start`, `start + step`, …, `start + extra * step`. -/
structure Progression where
  start : Int
  step : Nat
  extra : Nat
  deriving DecidableEq, Repr

def Progression.values (p : Progression) : List Int :=
  (List.range (p.extra + 1)).map fun (i : Nat) => p.start + p.step * (i : Int)

/-- The progression that begins at `start` and does not pass `stop`. -/
def Progression.upTo (start stop : Int) (step : Nat) : Progression :=
  ⟨start, step, ((stop - start) / step).toNat⟩

/-! ## Sets -/

/-- A set of values, at least one, in increasing order.  `wildcard` marks a literal `*`; the same
set written out as a range is not marked. -/
structure ValueSet where
  members : List Int
  wildcard : Bool
  increasing : members.Pairwise (· < ·)
  nonempty : members ≠ []
  deriving DecidableEq

namespace ValueSet

/-- The set of the values in a list, if there are any. -/
def ofList? (values : List Int) (wildcard : Bool) : Option ValueSet :=
  if h : values = [] then none
  else some {
    members := sortValues values
    wildcard := wildcard
    increasing := pairwise_sortValues values
    nonempty := fun hnil => by
      obtain ⟨v, hv⟩ := List.exists_mem_of_ne_nil values h
      simpa [hnil] using mem_sortValues.2 hv }

/-- The set of a value and the values in a list. -/
def ofValues (first : Int) (rest : List Int) (wildcard : Bool) : ValueSet where
  members := sortValues (first :: rest)
  wildcard := wildcard
  increasing := pairwise_sortValues _
  nonempty := List.ne_nil_of_mem (mem_sortValues.2 (List.mem_cons_self (a := first)))

def single (value : Int) : ValueSet :=
  ofValues value [] false

/-- The union of progressions, the first of which is given apart. -/
def ofProgressions (first : Progression) (rest : List Progression) : ValueSet :=
  ofValues first.start (first.values ++ rest.flatMap Progression.values) false

/-- All values of a field; the literal `*` if `wildcard` is set. -/
def full (field : Field) (wildcard : Bool) : ValueSet :=
  ofValues field.low (Progression.upTo field.low field.high 1).values wildcard

def contains (set : ValueSet) (value : Int) : Bool :=
  set.members.contains value

/-- The least member that is not below a value. -/
def ceiling (set : ValueSet) (value : Int) : Option Int :=
  set.members[bisectLeft set.members value]?

/-- The greatest member that is not above a value. -/
def floor (set : ValueSet) (value : Int) : Option Int :=
  match bisectRight set.members value with
  | 0 => none
  | place + 1 => set.members[place]?

def first (set : ValueSet) : Int :=
  set.members.head set.nonempty

def last (set : ValueSet) : Int :=
  set.members.getLast set.nonempty

end ValueSet

end CronSchedule
