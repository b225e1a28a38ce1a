import CronSchedule.Text.Numeral
import CronSchedule.Text.RawText
import CronSchedule.Value

/-!
# Data from outside

Readers of documents and callers hand over data in which other things may occur: texts with
surrogates, byte strings, and objects of any further kind, such as sets and lists that contain
themselves.

* `ErrorKind` — the classes of errors.
* `Object`, `Foreign` — the things that occur besides; `Datum` — data from outside.
* `Data.text?` — data that is a text; `RawText.datum` — the converse.
* `Data.isEmptyLike` — whether data counts as nothing.
* `Data.obstacle?` — what keeps messages from showing data.
-/

namespace CronSchedule

open Calendar Text

/-! ## Errors -/

/-- The classes of errors. -/
inductive ErrorKind
  | configuration | wrongType | wrongValue | overflow | encoding | system | recursion
  /-- Any class that is none of the others and specialises none of them. -/
  | named (name : String)
  deriving DecidableEq, Repr

/-- Whether an error says that something is of the wrong type or has the wrong value. -/
def ErrorKind.isMismatch : ErrorKind → Bool
  | .wrongType | .wrongValue | .encoding => true
  | _ => false

/-! ## Data -/

/-- An object of a kind that data itself does not have, known by what can be asked of it.  Comparing
it with other data works or is an error of the type. -/
structure Object where
  kind : String
  /-- Whether it counts as nothing. -/
  isEmpty : Bool
  /-- Whether it can be a key. -/
  isKey : Bool
  /-- The integer that can be made of it, or the class of the error where none can. -/
  integer : Except ErrorKind Int
  /-- How messages show it. -/
  shown : String
  /-- The class of the error where it cannot be shown, given how many levels of nesting are left. -/
  failure? : Nat → Option ErrorKind

/-- A thing that may occur in data from outside. -/
inductive Foreign
  /-- A text with surrogates. -/
  | broken (t : BrokenText)
  | bytes (b : List UInt8)
  | object (o : Object)

/-- Data from outside. -/
abbrev Datum := Data Foreign

namespace Foreign

/-- A byte string between quotes, where only bytes that are printable in ASCII stand for
themselves. -/
def quoteBytes (b : List UInt8) : List Char :=
  let mark := quoteChar (b.map fun byte => Char.ofNat byte.toNat)
  let escape := fun (byte : UInt8) =>
    let c := Char.ofNat byte.toNat
    if byte < 128 then escapeChar mark c else escapeByCode c
  'b' :: mark :: b.flatMap escape ++ [mark]

/-- The integer that a byte string spells in ASCII, if it spells one. -/
def readBytes (b : List UInt8) : Option Int :=
  if b.all (· < 128) then readInteger (b.map fun byte => Char.ofNat byte.toNat) else none

end Foreign

instance : Other Foreign where
  kind
    | .broken _ => "str"
    | .bytes _ => "bytes"
    | .object o => o.kind
  display
    | .broken t => String.ofList t.quote
    | .bytes b => String.ofList (Foreign.quoteBytes b)
    | .object o => o.shown
  isKey
    | .object o => o.isKey
    | _ => true
  same
    | .broken s, .broken t => s == t
    | .bytes a, .bytes b => a == b
    | _, _ => false

/-- A text from outside as data. -/
def Text.RawText.datum : RawText → Datum
  | .whole s => .text s
  | .broken t => .other (.broken t)

namespace Data

def text? : Datum → Option RawText
  | .text s => some (.whole s)
  | .other (.broken t) => some (.broken t)
  | _ => none

/-- Whether data counts as nothing: no value, false, zero, or something empty. -/
def isEmptyLike : Datum → Bool
  | .null => true
  | .bool b => !b
  | .integer n => n == 0
  | .real x => x.isZero
  | .text s => s.isEmpty
  | .list items => items.isEmpty
  | .mapping entries => entries.isEmpty
  | .date _ | .moment _ => false
  | .other (.broken _) => false
  | .other (.bytes b) => b.isEmpty
  | .other (.object o) => o.isEmpty

end Data

/-! ## Showing data -/

/-- What keeps messages from showing data. -/
inductive Obstacle
  /-- An integer with too many digits. -/
  | digits
  /-- Data that is nested too deeply. -/
  | depth
  /-- An object that cannot be shown, with the class of its error. -/
  | object (kind : ErrorKind)
  deriving DecidableEq, Repr

/-- The class of the error with which showing data fails. -/
def Obstacle.kind : Obstacle → ErrorKind
  | .digits => .wrongValue
  | .depth => .recursion
  | .object kind => kind

/-- How deeply nested data messages can usually show. -/
def messageDepth : Nat := 990

namespace Data

/-- Whether an integer can be written: it has at most as many digits as are read. -/
def isWritable (n : Int) : Bool :=
  decide (n.natAbs < Nat.pow 10 maxDigits)

/-- How deeply the offset of an instant is nested in it. -/
def offsetDepth (t : Instant) : Nat :=
  match t.offset with
  | none => 0
  | some offset => if offset = 0 then 1 else 2

mutual

/-- What keeps messages from showing data that may be nested up to `depth` levels, if anything
does; of several obstacles the one that is met first. -/
def obstacle? : Nat → Datum → Option Obstacle
  | 0, _ => some .depth
  | depth + 1, .list items => itemsObstacle? depth items
  | depth + 1, .mapping entries => entriesObstacle? depth entries
  | _ + 1, .integer n => if isWritable n then none else some .digits
  | depth + 1, .moment t => if depth < offsetDepth t then some .depth else none
  | depth + 1, .other (.object o) => (o.failure? depth).map .object
  | _ + 1, _ => none

def itemsObstacle? : Nat → List Datum → Option Obstacle
  | _, [] => none
  | depth, item :: rest => (item.obstacle? depth).or (itemsObstacle? depth rest)

def entriesObstacle? : Nat → List (Datum × Datum) → Option Obstacle
  | _, [] => none
  | depth, (key, value) :: rest =>
    ((key.obstacle? depth).or (value.obstacle? depth)).or (entriesObstacle? depth rest)

end

end Data

end CronSchedule
