import CronSchedule.Calendar.Instant
import CronSchedule.Number.Decimal
import CronSchedule.Text.Quoted

/-!
# Data

Data is nothing, a truth value, a number, a text, a list, a mapping, or a date or instant.  Where
data comes from somewhere else, things of other kinds may occur in it; their type is a parameter.  A
mapping keeps its entries in the order of their first occurrence.

* `Data` — data in which other things may occur; `Value` — data in which none do.
* `Other` — what is asked of the other things.
* `Data.display` — data as messages show it.
* `Data.kind` — the name of the kind of data in messages.
* `put`, `find?` — entries of a mapping.
-/

namespace CronSchedule

open Calendar Text

/-- Data, in which other things of a type `ω` may occur. -/
inductive Data (ω : Type)
  | null
  | bool (b : Bool)
  | integer (n : Int)
  | real (x : Binary64)
  | text (s : String)
  | list (items : List (Data ω))
  | mapping (entries : List (Data ω × Data ω))
  | date (date : Date)
  | moment (instant : Instant)
  | other (x : ω)
  deriving Repr

/-- Data in which nothing else occurs. -/
abbrev Value := Data Empty

/-- What is asked of the other things that occur in data. -/
class Other (ω : Type) where
  /-- The name of the kind of a thing. -/
  kind : ω → String
  /-- A thing as messages show it. -/
  display : ω → String
  /-- Whether a thing can be a key. -/
  isKey : ω → Bool
  /-- Whether two things are the same key. -/
  same : ω → ω → Bool

instance : Other Empty where
  kind := nofun
  display := nofun
  isKey := nofun
  same := nofun

namespace Data

variable {ω : Type} [Other ω]

/-! ## Kinds -/

def kind : Data ω → String
  | .null => "NoneType"
  | .bool _ => "bool"
  | .integer _ => "int"
  | .real _ => "float"
  | .text _ => "str"
  | .list _ => "list"
  | .mapping _ => "dict"
  | .date _ => "date"
  | .moment _ => "datetime"
  | .other x => Other.kind x

/-- The name of the kind of data, with the module that it belongs to. -/
def qualifiedKind : Data ω → String
  | .date _ => "datetime.date"
  | .moment _ => "datetime.datetime"
  | d => d.kind

/-! ## Texts of data -/

def displayBool (b : Bool) : String :=
  if b then "True" else "False"

/-- A length of time as messages show it: days, and seconds and microseconds of a day. -/
def displayDuration (micros : Int) : String :=
  let day : Int := 86400000000
  let parts :=
    [("days", micros / day), ("seconds", micros % day / 1000000),
     ("microseconds", micros % 1000000)].filter (·.2 != 0)
  if parts.isEmpty then "datetime.timedelta(0)"
  else
    let texts := parts.map fun (name, n) => s!"{name}={n}"
    s!"datetime.timedelta({listed texts})"

def displayOffset (offset : Int) : String :=
  if offset = 0 then "datetime.timezone.utc"
  else s!"datetime.timezone({displayDuration offset})"

/-- An instant as messages show it.  Seconds and microseconds appear only where they are needed. -/
def displayInstant (t : Instant) : String :=
  let c := t.clock
  let upToMinute := [c.year, c.month, c.day, c.hour, c.minute]
  let parts :=
    if t.micros ≠ 0 then upToMinute ++ [c.second, (t.micros : Int)]
    else if c.second ≠ 0 then upToMinute ++ [c.second]
    else upToMinute
  let zone := match t.offset with
    | none => []
    | some offset => [s!"tzinfo={displayOffset offset}"]
  s!"datetime.datetime({listed (parts.map toString ++ zone)})"

def displayDate (d : Date) : String :=
  s!"datetime.date({d.year}, {d.month}, {d.day})"

mutual

def display : Data ω → String
  | .null => "None"
  | .bool b => displayBool b
  | .integer n => toString n
  | .real x => String.ofList x.display
  | .text s => quotedString s
  | .list items => s!"[{listed (displayItems items)}]"
  | .mapping entries => "\x7b" ++ listed (displayEntries entries) ++ "\x7d"
  | .date d => displayDate d
  | .moment t => displayInstant t
  | .other x => Other.display x

/-- The items of a list as messages show them. -/
def displayItems : List (Data ω) → List String
  | [] => []
  | item :: rest => item.display :: displayItems rest

/-- The entries of a mapping as messages show them. -/
def displayEntries : List (Data ω × Data ω) → List String
  | [] => []
  | (key, value) :: rest => s!"{key.display}: {value.display}" :: displayEntries rest

end

/-- Data as the directive for plain text writes it: a text is not quoted, a date or an instant
stands in ISO form. -/
def plain : Data ω → String
  | .text s => s
  | .date d =>
    String.ofList (zeroPadded 4 d.year.toNat ++ '-' :: zeroPadded 2 d.month.toNat ++ '-' ::
      zeroPadded 2 d.day.toNat)
  | .moment t => String.ofList (t.toIso.map fun c => if c = 'T' then ' ' else c)
  | d => d.display

/-! ## Keys -/

def ratio? : Data ω → Option (Int × Nat)
  | .bool b => some (if b then 1 else 0, 1)
  | .integer n => some (n, 1)
  | .real (.finite negative mantissa exponent) =>
    let (numerator, denominator) := Binary64.ratio mantissa exponent
    some (Binary64.withSign negative numerator, denominator)
  | _ => none

/-- Whether two things are the same key.  Numbers of different kinds are the same if they are equal;
lists and mappings are no keys. -/
def same (a b : Data ω) : Bool :=
  match a.ratio?, b.ratio? with
  | some (m, d), some (n, e) => m * (e : Int) == n * (d : Int)
  | some _, none | none, some _ => false
  | none, none =>
    match a, b with
    | .null, .null => true
    | .real (.infinite s), .real (.infinite t) => s == t
    | .text s, .text t => s == t
    | .date s, .date t => s == t
    | .moment s, .moment t => s == t
    | .other x, .other y => Other.same x y
    | _, _ => false

def isKey : Data ω → Bool
  | .list _ => false
  | .mapping _ => false
  | .other x => Other.isKey x
  | _ => true

end Data

/-! ## Entries of mappings -/

section Entries

variable {ω : Type} [Other ω]

/-- Entries with one more; a later value for a key takes the place of an earlier one. -/
def put (key value : Data ω) : List (Data ω × Data ω) → List (Data ω × Data ω)
  | [] => [(key, value)]
  | (k, v) :: rest => if k.same key then (k, value) :: rest else (k, v) :: put key value rest

/-- Entries in which later values have taken the place of earlier ones. -/
def putAll (entries new : List (Data ω × Data ω)) : List (Data ω × Data ω) :=
  new.foldl (fun entries (key, value) => put key value entries) entries

def find? (key : String) (entries : List (Data ω × Data ω)) : Option (Data ω) :=
  (entries.find? fun (k, _) => k.same (.text key)).map (·.2)

def Data.get? (key : String) : Data ω → Option (Data ω)
  | .mapping entries => CronSchedule.find? key entries
  | _ => none

end Entries

end CronSchedule
