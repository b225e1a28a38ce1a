import CronSchedule.Value
import Mathlib.Tactic.Lemma

/-!
# Entries of mappings

A mapping is a list of entries, in which a key is the same as another one by the rules for keys of
documents.  For keys that are texts this is equality, so that looking up a text gives what was put
there last.

* `same_text`, `text_same` — a key that is the same as a text.
* `find?_put`, **`find?_putAll`** — what is found after values have been put into a mapping.
* `forall_keys_put`, `forall_keys_putAll` — the keys after values have been put.
* `DistinctKeys` — no key stands twice in a mapping; `put` and `putAll` keep this.
-/

namespace CronSchedule

open Data

variable {ω : Type} [Other ω] {a b k v : Data ω} {key : String}
  {entries new : List (Data ω × Data ω)}

/-! ## Keys that are texts -/

/-- A key is the same as a text only if it is that text. -/
lemma same_text : a.same (.text key) = true ↔ a = .text key := by
  cases a with
  | real x => cases x <;> simp [same, ratio?]
  | _ => simp [same, ratio?]

lemma text_same : (Data.text key).same a = true ↔ a = .text key := by
  cases a with
  | text s => simpa [same, ratio?] using eq_comm
  | real x => cases x <;> simp [same, ratio?]
  | _ => simp [same, ratio?]

/-- Of two keys that are the same, either both are a text or none is. -/
lemma text_iff_of_same (h : a.same b = true) : a = .text key ↔ b = .text key := by
  constructor
  · rintro rfl
    exact text_same.1 h
  · rintro rfl
    exact same_text.1 h

/-! ## Looking up -/

@[simp] lemma find?_nil : find? key ([] : List (Data ω × Data ω)) = none := rfl

lemma find?_cons : find? key ((k, v) :: entries) =
    if k.same (.text key) then some v else find? key entries := by
  simp only [find?, List.find?_cons]
  cases k.same (.text key) <;> rfl

lemma find?_append (first second : List (Data ω × Data ω)) :
    find? key (first ++ second) = (find? key first).or (find? key second) := by
  simp [find?, List.find?_append, Option.map_or]

/-- What is put into a mapping is found under its key, and the rest is found as before. -/
lemma find?_put : find? key (put k v entries) =
    if k.same (.text key) then some v else find? key entries := by
  induction entries with
  | nil => rw [put, find?_cons]
  | cons entry rest ih =>
      obtain ⟨k', v'⟩ := entry
      simp only [put]
      split
      · rename_i hsame
        have htext : k'.same (.text key) = k.same (.text key) := Bool.eq_iff_iff.2 <| by
          rw [same_text, same_text, text_iff_of_same hsame]
        rw [find?_cons, find?_cons, htext]
        split <;> rfl
      · rename_i hother
        rw [find?_cons, find?_cons, ih]
        split
        · rename_i hk'
          -- the two keys are not the same, so `k` is not the text
          rw [if_neg]
          intro hk
          rw [same_text.1 hk, same_text.1 hk'] at hother
          exact hother (same_text.2 rfl)
        · rfl

/-- **The last value that is put under a key is found there**, or what was there before. -/
theorem find?_putAll : find? key (putAll entries new) =
    (find? key new.reverse).or (find? key entries) := by
  induction new generalizing entries with
  | nil => rfl
  | cons entry rest ih =>
      obtain ⟨k, v⟩ := entry
      have hstep : putAll entries ((k, v) :: rest) = putAll (put k v entries) rest := rfl
      rw [hstep, ih, List.reverse_cons, find?_append, find?_put, find?_cons, Option.or_assoc]
      split <;> rfl

lemma find?_eq_none_iff : find? key entries = none ↔ ∀ entry ∈ entries, entry.1 ≠ .text key := by
  simp [find?, same_text]

/-! ## The keys of a mapping -/

lemma key_of_mem_put {entry : Data ω × Data ω} (h : entry ∈ put k v entries) :
    entry.1 = k ∨ ∃ old ∈ entries, old.1 = entry.1 := by
  induction entries with
  | nil => exact Or.inl (congrArg Prod.fst (List.mem_singleton.1 h))
  | cons old rest ih =>
      obtain ⟨k', v'⟩ := old
      simp only [put] at h
      split at h
      · rcases List.mem_cons.1 h with rfl | h
        · exact Or.inr ⟨(k', v'), List.mem_cons_self, rfl⟩
        · exact Or.inr ⟨entry, List.mem_cons_of_mem _ h, rfl⟩
      · rcases List.mem_cons.1 h with rfl | h
        · exact Or.inr ⟨(k', v'), List.mem_cons_self, rfl⟩
        · refine (ih h).imp id ?_
          rintro ⟨old, hold, hkey⟩
          exact ⟨old, List.mem_cons_of_mem _ hold, hkey⟩

section Keys

variable {p : Data ω → Prop}

/-- The keys are those that were there and the one that is put, for a property that does not tell
keys apart that are the same. -/
lemma forall_keys_put (hp : ∀ {a b : Data ω}, a.same b = true → (p a ↔ p b)) :
    (∀ entry ∈ put k v entries, p entry.1) ↔ p k ∧ ∀ entry ∈ entries, p entry.1 := by
  induction entries with
  | nil => simp [put]
  | cons entry rest ih =>
      obtain ⟨k', v'⟩ := entry
      simp only [put]
      split
      · rename_i hsame
        simp [hp hsame]
      · simp only [List.forall_mem_cons, ih]
        exact and_left_comm

lemma forall_keys_putAll (hp : ∀ {a b : Data ω}, a.same b = true → (p a ↔ p b)) :
    (∀ entry ∈ putAll entries new, p entry.1) ↔
      (∀ entry ∈ entries, p entry.1) ∧ ∀ entry ∈ new, p entry.1 := by
  induction new generalizing entries with
  | nil => simp [putAll]
  | cons entry rest ih =>
      obtain ⟨k, v⟩ := entry
      have hstep : putAll entries ((k, v) :: rest) = putAll (put k v entries) rest := rfl
      rw [hstep, ih, forall_keys_put hp, List.forall_mem_cons, and_assoc, and_left_comm]

end Keys

/-! ## Distinct keys -/

/-- No key stands twice. -/
def DistinctKeys (entries : List (Data ω × Data ω)) : Prop :=
  entries.Pairwise fun a b => a.1.same b.1 = false

lemma DistinctKeys.put (h : DistinctKeys entries) : DistinctKeys (put k v entries) := by
  induction entries with
  | nil => exact List.pairwise_singleton _ _
  | cons entry rest ih =>
      obtain ⟨k', v'⟩ := entry
      obtain ⟨hfirst, hrest⟩ := List.pairwise_cons.1 h
      simp only [CronSchedule.put]
      split
      · exact List.pairwise_cons.2 ⟨hfirst, hrest⟩
      · rename_i hother
        refine List.pairwise_cons.2 ⟨fun entry hentry => ?_, ih hrest⟩
        rcases key_of_mem_put hentry with hkey | ⟨old, hold, hkey⟩
        · rw [hkey]
          exact Bool.eq_false_iff.2 hother
        · rw [← hkey]
          exact hfirst old hold

lemma DistinctKeys.putAll (h : DistinctKeys entries) : DistinctKeys (putAll entries new) := by
  induction new generalizing entries with
  | nil => exact h
  | cons entry rest ih => exact ih h.put

/-- The key of the first of several entries with distinct keys does not stand in the others. -/
lemma DistinctKeys.find?_tail (h : DistinctKeys ((.text key, v) :: entries)) :
    find? key entries = none := by
  rw [find?_eq_none_iff]
  intro entry hentry hkey
  have hother := (List.pairwise_cons.1 h).1 entry hentry
  simp [text_same.2 hkey] at hother

/-- With distinct keys, every entry is found. -/
lemma DistinctKeys.find?_of_mem (h : DistinctKeys entries) (hmem : (.text key, v) ∈ entries) :
    find? key entries = some v := by
  induction entries with
  | nil => cases hmem
  | cons entry rest ih =>
      obtain ⟨k', v'⟩ := entry
      rw [find?_cons]
      rcases List.mem_cons.1 hmem with heq | hmem
      · obtain ⟨rfl, rfl⟩ := Prod.mk.inj heq
        rw [if_pos (same_text.2 rfl)]
      · have hother : k'.same (.text key) = false := (List.pairwise_cons.1 h).1 _ hmem
        rw [hother, ih (List.pairwise_cons.1 h).2 hmem]
        rfl

/-- With distinct keys it does not matter from which end a key is looked for. -/
lemma DistinctKeys.find?_reverse (h : DistinctKeys entries) :
    find? key entries.reverse = find? key entries := by
  induction entries with
  | nil => rfl
  | cons entry rest ih =>
      obtain ⟨k', v'⟩ := entry
      rw [List.reverse_cons, find?_append, ih (List.pairwise_cons.1 h).2, find?_cons, find?_cons]
      split
      · rename_i hk'
        obtain rfl := same_text.1 hk'
        rw [h.find?_tail]
        rfl
      · rw [find?_nil, Option.or_none]

lemma put_of_other (h : ∀ entry ∈ entries, entry.1.same k = false) :
    put k v entries = entries ++ [(k, v)] := by
  induction entries with
  | nil => rfl
  | cons entry rest ih =>
      obtain ⟨hfirst, hrest⟩ := List.forall_mem_cons.1 h
      rw [put, hfirst, ih hrest]
      rfl

/-- Values that are put under other keys stand behind the entries. -/
lemma DistinctKeys.putAll_eq_append (h : DistinctKeys (entries ++ new)) :
    CronSchedule.putAll entries new = entries ++ new := by
  induction new generalizing entries with
  | nil => exact (List.append_nil entries).symm
  | cons entry rest ih =>
      obtain ⟨k, v⟩ := entry
      have hother : ∀ entry ∈ entries, entry.1.same k = false := fun entry hentry =>
        (List.pairwise_append.1 h).2.2 entry hentry _ List.mem_cons_self
      have hstep : CronSchedule.putAll entries ((k, v) :: rest) =
        CronSchedule.putAll (CronSchedule.put k v entries) rest := rfl
      rw [List.append_cons] at h ⊢
      rw [hstep, put_of_other hother, ih h]

lemma DistinctKeys.putAll_nil (h : DistinctKeys new) : CronSchedule.putAll [] new = new :=
  DistinctKeys.putAll_eq_append (show DistinctKeys ([] ++ new) from h)

end CronSchedule
