import CronSchedule.Calendar.Iso
import CronSchedule.Text.Case

/-!
# Patterns for printing instants

A pattern is a text with directives.  A directive is a percent sign, flags, a least width, a
modifier and a letter; a directive that means nothing stands for itself.

Flags say how a number is filled up (`-` not at all, `_` with spaces, `0` with zeros) and in which
case a name is written (`^` upper case, `#` the other case).  The width is the least number of
characters; the modifiers `E` and `O` change nothing, but not every letter admits them.

* `Directive` — a directive in parts, `Directive.read` — reading one.
* `Directive.render` — what it stands for.
* `Instant.format` — a whole pattern.
* `defaultPattern` — the pattern used where none is given.

The letters `z`, `Z` and `f` stand for the offset, the name of the offset and the microseconds, but
only directly after the percent sign; with flags or a width they know nothing of the offset.
-/

namespace CronSchedule.Calendar

open CronSchedule.Text

/-! ## Names -/

/-- Full names of the days of the week, Sunday first. -/
def weekdayNames : List String :=
  ["Sunday", "Monday", "Tuesday", "Wednesday", "Thursday", "Friday", "Saturday"]

def monthNames : List String :=
  ["January", "February", "March", "April", "May", "June", "July", "August", "September",
   "October", "November", "December"]

/-- The name with a given place in a list of names. -/
def nameAt (names : List String) (place : Nat) : List Char :=
  (names.getD place "?").toList

/-! ## Parts of an instant -/

/-- The weekday of a clock, Sunday being 0. -/
def WallClock.weekday (c : WallClock) : Nat :=
  (weekdayOf c.year c.month c.day - 1).toNat

/-- Days of the year before the date of a clock. -/
def WallClock.pastDays (c : WallClock) : Nat :=
  (daysBeforeMonth c.year c.month + c.day - 1).toNat

/-- The hour on a dial of twelve hours. -/
def WallClock.dialHour (c : WallClock) : Nat :=
  let hour := c.hour.toNat % 12
  if hour = 0 then 12 else hour

/-- The year and the number of the week that holds the date of a clock, weeks beginning on
Monday and belonging to the year of their Thursday. -/
def WallClock.isoWeek (c : WallClock) : Int × Int :=
  let number := dayNumber c.year c.month c.day
  let year :=
    if number < firstWeekMonday c.year then c.year - 1
    else if firstWeekMonday (c.year + 1) ≤ number then c.year + 1
    else c.year
  (year, (number - firstWeekMonday year) / 7 + 1)

/-- Seconds since the first instant of 1970. -/
def WallClock.epochSeconds (c : WallClock) : Int :=
  (dayNumber c.year c.month c.day - dayNumber 1970 1 1) * 86400
    + c.hour * 3600 + c.minute * 60 + c.second

def offsetName : Option Int → List Char
  | none => []
  | some offset =>
    if offset = 0 then "UTC".toList else "UTC".toList ++ offsetText [':'] offset

/-! ## Directives -/

/-- How a number is filled up on the left. -/
inductive Fill
  | standard | nothing | space | digit
  deriving DecidableEq, Repr

/-- A directive in parts.  `source` is its text, percent sign included. -/
structure Directive where
  fill : Fill := .standard
  upper : Bool := false
  swap : Bool := false
  width : Nat := 0
  modifier : Option Char := none
  letter : Option Char := none
  source : List Char := ['%']
  deriving DecidableEq, Repr

namespace Directive

/-- A directive with one more character of its text read. -/
def note (d : Directive) (c : Char) : Directive :=
  { d with source := d.source ++ [c] }

def readLetter (d : Directive) : List Char → Directive × List Char
  | [] => (d, [])
  | c :: rest => ({ d.note c with letter := some c }, rest)

/-- Reads the modifier of a directive, if there is one. -/
def readModifier (d : Directive) : List Char → Directive × List Char
  | [] => (d, [])
  | c :: rest =>
    if c = 'E' || c = 'O' then readLetter { d.note c with modifier := some c } rest
    else readLetter d (c :: rest)

def readWidth (d : Directive) : List Char → Directive × List Char
  | [] => (d, [])
  | c :: rest =>
    if isDigit c then readWidth { d.note c with width := 10 * d.width + digitValue c } rest
    else readModifier d (c :: rest)

def readFlags (d : Directive) : List Char → Directive × List Char
  | [] => (d, [])
  | c :: rest =>
    if c = '_' then readFlags { d.note c with fill := .space } rest
    else if c = '-' then readFlags { d.note c with fill := .nothing } rest
    else if c = '0' then readFlags { d.note c with fill := .digit } rest
    else if c = '^' then readFlags { d.note c with upper := true } rest
    else if c = '#' then readFlags { d.note c with swap := true } rest
    else readWidth d (c :: rest)

/-- Reads a directive from the text after its percent sign, and what follows it. -/
def read (text : List Char) : Directive × List Char :=
  readFlags {} text

/-- The greatest width that is honoured. -/
def maxWidth : Nat := 2000000

/-- Fills a text up to the width of a directive. -/
def widen (d : Directive) (text : List Char) : List Char :=
  padLeft (min d.width maxWidth) (if d.fill = .digit then '0' else ' ') text

/-- A text in the case that the flags ask for, filled up to the width. -/
def text (d : Directive) (text : List Char) : List Char :=
  d.widen (if d.upper then text.map capital else text)

/-- A name: both case flags ask for upper case. -/
def name (d : Directive) (name : List Char) : List Char :=
  { d with upper := d.upper || d.swap }.text name

def number (d : Directive) (digits : Nat) (n : Nat) : List Char :=
  let digits := max digits (min d.width maxWidth)
  match d.fill with
  | .nothing => d.widen (Nat.toDigits 10 n)
  | .space => padLeft digits ' ' (Nat.toDigits 10 n)
  | _ => padLeft digits '0' (Nat.toDigits 10 n)

/-- A number that is filled up with spaces unless a flag says otherwise. -/
def spacedNumber (d : Directive) (digits : Nat) (n : Nat) : List Char :=
  let fill := if d.fill = .standard then .space else d.fill
  { d with fill := fill }.number digits n

/-- The halves of the day; the other case is lower case. -/
def half (d : Directive) (lower : Bool) (c : WallClock) : List Char :=
  let name := if c.hour < 12 then ['A', 'M'] else ['P', 'M']
  if lower || d.swap then d.widen (name.map Char.toLower) else d.text name

/-- Whether a letter admits the modifier of a directive. -/
def admits (d : Directive) (letter : Char) : Bool :=
  match d.modifier with
  | none => true
  | some 'E' => !"aAbBhDFgGUVWwdeHIjklmMS".toList.contains letter
  | _ => !"aADFcxXY".toList.contains letter

def abbreviated : Char → Option String
  | 'c' => some "%a %b %e %H:%M:%S %Y"
  | 'x' | 'D' => some "%m/%d/%y"
  | 'X' | 'T' => some "%H:%M:%S"
  | 'F' => some "%Y-%m-%d"
  | 'R' => some "%H:%M"
  | 'r' => some "%I:%M:%S %p"
  | _ => none

def renderLetter (d : Directive) (letter : Char) (c : WallClock) : Option (List Char) :=
  match letter with
  | 'a' => some (d.name ((nameAt weekdayNames c.weekday).take 3))
  | 'A' => some (d.name (nameAt weekdayNames c.weekday))
  | 'b' | 'h' => some (d.name ((nameAt monthNames (c.month.toNat - 1)).take 3))
  | 'B' => some (d.name (nameAt monthNames (c.month.toNat - 1)))
  | 'C' => some (d.number 1 (c.year.toNat / 100))
  | 'd' => some (d.number 2 c.day.toNat)
  | 'e' => some (d.spacedNumber 2 c.day.toNat)
  | 'g' => some (d.number 2 (c.isoWeek.1.toNat % 100))
  | 'G' => some (d.number 1 c.isoWeek.1.toNat)
  | 'H' => some (d.number 2 c.hour.toNat)
  | 'I' => some (d.number 2 c.dialHour)
  | 'j' => some (d.number 3 (c.pastDays + 1))
  | 'k' => some (d.spacedNumber 2 c.hour.toNat)
  | 'l' => some (d.spacedNumber 2 c.dialHour)
  | 'm' => some (d.number 2 c.month.toNat)
  | 'M' => some (d.number 2 c.minute.toNat)
  | 'n' => some (d.text ['\n'])
  | 'p' => some (d.half false c)
  | 'P' => some (d.half true c)
  | 's' => some (d.text (ofInt c.epochSeconds))
  | 'S' => some (d.number 2 c.second.toNat)
  | 't' => some (d.text ['\t'])
  | 'u' => some (d.number 1 ((c.weekday + 6) % 7 + 1))
  | 'U' => some (d.number 2 ((c.pastDays + 7 - c.weekday) / 7))
  | 'V' => some (d.number 2 c.isoWeek.2.toNat)
  | 'w' => some (d.number 1 c.weekday)
  | 'W' => some (d.number 2 ((c.pastDays + 7 - (c.weekday + 6) % 7) / 7))
  | 'y' => some (d.number 2 (c.year.toNat % 100))
  | 'Y' => some (d.number 1 c.year.toNat)
  | 'z' => some []
  | 'Z' => some (if d.fill = .nothing then [] else d.text [])
  | '%' => some (d.text ['%'])
  | _ => none

/-- What a directive stands for; `expand` renders the pattern that its letter abbreviates.  A
directive without a meaning stands for its own text. -/
def render (expand : List Char → List Char) (d : Directive) (c : WallClock) : List Char :=
  let verbatim := d.text d.source
  match d.letter with
  | none => verbatim
  | some letter =>
    if !d.admits letter then
      -- The letters of month names obey the case flags even where they mean nothing.
      if letter = 'b' || letter = 'B' || letter = 'h' then d.name d.source else verbatim
    else match abbreviated letter with
      | some pattern => d.text (expand pattern.toList)
      | none => (d.renderLetter letter c).getD verbatim

/-- A directive takes at least nothing from what follows its percent sign. -/
theorem length_readLetter (d : Directive) (text : List Char) :
    (d.readLetter text).2.length ≤ text.length := by
  cases text <;> simp [readLetter]

theorem length_readModifier (d : Directive) (text : List Char) :
    (d.readModifier text).2.length ≤ text.length := by
  cases text with
  | nil => simp [readModifier]
  | cons c rest =>
    rw [readModifier]
    split
    · exact Nat.le_succ_of_le (length_readLetter _ _)
    · exact length_readLetter _ _

theorem length_readWidth (d : Directive) (text : List Char) :
    (d.readWidth text).2.length ≤ text.length := by
  induction text generalizing d with
  | nil => simp [readWidth]
  | cons c rest ih =>
    rw [readWidth]
    split
    · exact Nat.le_succ_of_le (ih _)
    · exact length_readModifier _ _

theorem length_readFlags (d : Directive) (text : List Char) :
    (d.readFlags text).2.length ≤ text.length := by
  induction text generalizing d with
  | nil => simp [readFlags]
  | cons c rest ih =>
    unfold readFlags
    repeat' split
    all_goals first
      | exact Nat.le_succ_of_le (ih _)
      | exact length_readWidth _ _

end Directive

/-! ## Patterns -/

/-- A pattern in which no letter abbreviates another pattern. -/
def formatPlain (c : WallClock) (pattern : List Char) : List Char :=
  match pattern with
  | [] => []
  | '%' :: rest =>
    let read := Directive.read rest
    read.1.render id c ++ formatPlain c read.2
  | ch :: rest => ch :: formatPlain c rest
termination_by pattern.length
decreasing_by
  · exact Nat.lt_succ_of_le (Directive.length_readFlags _ _)
  · simp

def formatClock (c : WallClock) (pattern : List Char) : List Char :=
  match pattern with
  | [] => []
  | '%' :: rest =>
    let read := Directive.read rest
    read.1.render (formatPlain c) c ++ formatClock c read.2
  | ch :: rest => ch :: formatClock c rest
termination_by pattern.length
decreasing_by
  · exact Nat.lt_succ_of_le (Directive.length_readFlags _ _)
  · simp

namespace Instant

/-- A pattern in which the offset, its name and the microseconds have been filled in.  A NUL ends
a pattern. -/
def fillIn (t : Instant) : List Char → List Char
  | [] => []
  | '%' :: 'z' :: rest =>
    (match t.offset with
      | none => []
      | some offset => offsetText [] offset) ++ fillIn t rest
  | '%' :: 'Z' :: rest => offsetName t.offset ++ fillIn t rest
  | '%' :: 'f' :: rest => zeroPadded 6 t.micros ++ fillIn t rest
  | '%' :: c :: rest => if c = '\x00' then ['%'] else '%' :: c :: fillIn t rest
  | c :: rest => if c = '\x00' then [] else c :: fillIn t rest

/-- The room that a pattern gets: from 1024 characters on, doubled until it is at least 256 times
as long as the pattern. -/
def roomFor (length : Nat) : Nat :=
  if length ≤ 4 then 1024 else 1024 * Nat.pow 2 (((length + 3) / 4 - 1).log2 + 1)

/-- An instant printed by a pattern; nothing at all if the text does not fit its room. -/
def format (pattern : List Char) (t : Instant) : List Char :=
  let filled := t.fillIn pattern
  let text := formatClock t.clock filled
  if text.length < roomFor filled.length then text else []

/-- An instant printed by a pattern, as a string. -/
def formatString (pattern : String) (t : Instant) : String :=
  String.ofList (t.format pattern.toList)

end Instant

/-- The pattern used where none is given. -/
def defaultPattern : String := "%Y-%m-%d %H:%M:%S"

end CronSchedule.Calendar
