import CronSchedule.Calendar.Instant

/-!
# Reading ISO 8601 texts

A date in extended or basic form (`2024-01-15`, `20240115`) or as a week (`2024-W03-1`, `2024W031`,
`2024-W03`), then, after one character of any kind, a time of day with an optional offset.  The
time may stop after the hours or the minutes, and a fraction may follow whichever part is last.

The two parts are told apart by position alone: `separatorIndex` finds where the date must end,
looking only at the characters that distinguish the date forms.

* `separatorIndex` — where the date ends.
* `readDatePart` — the year, month and day.
* `readTimePart`, `readZonedTime` — the time of day and the offset.
* `Instant.ofIso?` — the whole text.
-/

namespace CronSchedule.Calendar

open CronSchedule.Text

/-! ## Dates -/

/-- The number denoted by the first `count` characters, which must be digits, and what follows. -/
def takeDigits (count : Nat) (text : List Char) : Option (Nat × List Char) :=
  let digits := text.take count
  if digits.length = count && digits.all isDigit then some (ofDigits digits, text.drop count)
  else none

/-- The number of the Monday on which the first week of a year begins: the week that holds the
first Thursday. -/
def firstWeekMonday (year : Int) : Int :=
  let first := dayNumber year 1 1
  let weekday := (first + 6) % 7
  let monday := first - weekday
  if 3 < weekday then monday + 7 else monday

def hasLongYear (year : Int) : Bool :=
  let weekday := (dayNumber year 1 1 + 6) % 7
  weekday == 3 || (weekday == 2 && isLeap year)

/-- The date of a day of a week of a year. -/
def dateOfWeek (year week weekday : Int) : Option (Int × Int × Int) :=
  let weekExists := (1 ≤ week ∧ week < 53) ∨ (week = 53 ∧ hasLongYear year)
  if weekExists ∧ 1 ≤ weekday ∧ weekday ≤ 7 then
    some (dateOfNumber (firstWeekMonday year + (week - 1) * 7 + weekday - 1))
  else none

/-- A date written as a year, a week and perhaps a day, once the year has been read.  `whole` is
false when the date ends after the week. -/
def readWeekDate (year : Nat) (extended whole : Bool) (text : List Char) :
    Option (Int × Int × Int) := do
  let (week, rest) ← takeDigits 2 text
  if !whole then dateOfWeek year week 1
  else
    let rest ← match extended, rest with
      | true, '-' :: rest => some rest
      | true, _ => none
      | false, rest => some rest
    let (weekday, _) ← takeDigits 1 rest
    dateOfWeek year week weekday

/-- The date at the start of a text, given where it must end. -/
def readDatePart (stop : Nat) (text : List Char) : Option (Int × Int × Int) := do
  let (year, rest) ← takeDigits 4 text
  let (extended, rest) := match rest with
    | '-' :: rest => (true, rest)
    | rest => (false, rest)
  match rest with
  | 'W' :: rest => readWeekDate year extended (stop > if extended then 8 else 7) rest
  | rest =>
    let (month, rest) ← takeDigits 2 rest
    let rest ← match extended, rest with
      | true, '-' :: rest => some rest
      | true, _ => none
      | false, rest => some rest
    let (day, _) ← takeDigits 2 rest
    return ((year : Int), (month : Int), (day : Int))

/-- Where the date ends in a text.  A hyphen after `YYYY-Www` may be part of the date or the
separator; it is the separator if a digit follows two places later.  After `YYYYWww` a run of
digits is read to its end, and an even end means that none of them is a day. -/
def separatorIndex (text : List Char) : Option Nat :=
  let at? := fun (i : Nat) => text[i]?
  if text.length = 7 then some 7
  else if at? 4 = some '-' then
    if at? 5 = some 'W' then
      if text.length < 8 then none
      else if 8 < text.length && at? 8 == some '-' then
        if text.length = 9 then none
        else if (at? 10).any isDigit then some 8
        else some 10
      else some 8
    else some 10
  else if at? 4 = some 'W' then
    let stop := 7 + ((text.drop 7).takeWhile isDigit).length
    if stop < 9 then some stop
    else if stop % 2 = 0 then some 7
    else some 8
  else some 8

/-! ## Times and offsets -/

/-- A time of day in parts, and whether its text was used up. -/
structure TimePart where
  hour : Nat := 0
  minute : Nat := 0
  second : Nat := 0
  micros : Nat := 0
  complete : Bool := true
  deriving DecidableEq, Repr

/-- A time part with one of its three fields set. -/
def TimePart.set (t : TimePart) (index value : Nat) : TimePart :=
  match index with
  | 0 => { t with hour := value }
  | 1 => { t with minute := value }
  | _ => { t with second := value }

/-- The fraction at the end of a time: up to six digits count and further digits are passed over. -/
def readFraction (t : TimePart) (text : List Char) : Option TimePart := do
  let count := min 6 text.length
  let (value, rest) ← takeDigits count text
  return { t with
    micros := value * Nat.pow 10 (6 - count), complete := (rest.dropWhile isDigit).isEmpty }

/-- The fields of a time from the one with the given index on, two digits each.  `colons` tells
whether the fields before were separated by colons. -/
def readTimeFields (t : TimePart) (colons : Bool) (text : List Char) :
    (index remaining : Nat) → Option TimePart
  | _, 0 => readFraction t text
  | index, remaining + 1 => do
    let (value, rest) ← takeDigits 2 text
    let t := t.set index value
    match rest with
    | [] => return t
    | mark :: rest =>
      let colons := if index = 0 then mark == ':' else colons
      -- One stray ASCII character at the end is left for the caller to judge.
      if rest.isEmpty && mark.toNat < 128 then return { t with complete := false }
      else if colons && mark == ':' then readTimeFields t colons rest (index + 1) remaining
      else if mark == '.' || mark == ',' then readFraction t rest
      else if !colons then readTimeFields t colons (mark :: rest) (index + 1) remaining
      else none

/-- A time of day, or the size of an offset. -/
def readTimePart (text : List Char) : Option TimePart :=
  readTimeFields {} true text 0 3

def beginsOffset (c : Char) : Bool :=
  c == '+' || c == '-' || c == 'Z'

/-- An offset in microseconds; it is less than a day. -/
def readOffset : List Char → Option Int
  | ['Z'] => some 0
  | 'Z' :: _ => none
  | sign :: text => do
    let t ← readTimePart text
    if !t.complete then none
    let size : Nat := ((t.hour * 60 + t.minute) * 60 + t.second) * 1000000 + t.micros
    if 86400000000 ≤ size then none
    return if sign == '-' then -(size : Int) else (size : Int)
  | [] => none

def readZonedTime (text : List Char) : Option (TimePart × Option Int) := do
  let time ← readTimePart (text.takeWhile (!beginsOffset ·))
  match text.dropWhile (!beginsOffset ·) with
  | [] => if time.complete then return (time, none) else none
  | zone => return (time, some (← readOffset zone))

/-! ## The whole text -/

def Instant.ofIso? (text : List Char) : Option Instant := do
  if text.length < 7 then none
  let stop ← separatorIndex text
  let (year, month, day) ← readDatePart stop text
  let (time, offset) ← match text.drop stop with
    | [] => some ({}, none)
    | _ :: rest => readZonedTime rest
  let clock : WallClock := ⟨year, month, day, time.hour, time.minute, time.second⟩
  match clock.check with
  | .ok clock => return ⟨clock, time.micros, offset⟩
  | .error _ => none

end CronSchedule.Calendar
