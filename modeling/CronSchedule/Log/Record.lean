import CronSchedule.Log.Level

/-!
# Log records

What a computation reports is a value beside its result: a list of records in the order in which
they arise.

* `Record` — a level, the name of a logger and a message.
* `Logged` — a result with its records; results are sequenced as a monad.
-/

namespace CronSchedule.Log

/-! ## Records -/

/-- A message from a logger, perhaps with the text of an exception. -/
structure Record where
  level : Level
  logger : String
  message : String
  exception : Option String := none
  deriving DecidableEq, Repr

/-! ## Results with records -/

/-- A result and the records that arose on the way to it. -/
structure Logged (α : Type) where
  value : α
  records : List Record

namespace Logged

instance : Monad Logged where
  pure value := ⟨value, []⟩
  bind x f :=
    let y := f x.value
    ⟨y.value, x.records ++ y.records⟩

def say (records : List Record) : Logged Unit :=
  ⟨(), records⟩

variable {α β : Type}

@[simp] theorem value_pure (a : α) : (pure a : Logged α).value = a := rfl

@[simp] theorem value_bind (x : Logged α) (f : α → Logged β) :
    (x >>= f).value = (f x.value).value := rfl

end Logged

end CronSchedule.Log
