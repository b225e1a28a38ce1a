/-!
# Entries in the order of their last use

A bounded store of entries under keys.  The entry that was used last stands in front; when the
store is full, the entry that was used the longest time ago makes room for a new one.

* `Recent` — the entries of a store, each under a key of its own.
* `Recent.find?` — the entry of a key.
* `Recent.touch` — the store after an entry was used, whether it was there before or not.
-/

namespace CronSchedule

/-- Entries under keys, the one that was used last in front. -/
structure Recent (κ α : Type) where
  entries : List (κ × α)

namespace Recent

variable {κ α : Type} [DecidableEq κ]

def empty : Recent κ α :=
  ⟨[]⟩

def size (store : Recent κ α) : Nat :=
  store.entries.length

def find? (store : Recent κ α) (key : κ) : Option α :=
  (store.entries.find? (·.1 = key)).map (·.2)

/-- The store after the entry of a key was used: the entry stands in front, and of the others as
many are kept as `capacity` allows. -/
def touch (capacity : Nat) (store : Recent κ α) (key : κ) (entry : α) : Recent κ α :=
  ⟨((key, entry) :: store.entries.filter (·.1 ≠ key)).take capacity⟩

end Recent

end CronSchedule
