import CronSchedule.Datum

/-!
# Placed text of a YAML document

The structure of a YAML document hangs on lines and columns, so every character is kept together
with its place.

* `Glyph`, `place` — a character with its place, and a text of such characters.
* `isBreak`, `breakText` — the characters that end a line, and what they stand for in a scalar.
* `atSeparator` — whether a line begins with the mark between documents.
* `isAllowed` — the characters that may stand in a document.
* `ReadError` — why a document cannot be read.
-/

namespace CronSchedule.Yaml

open Text

/-! ## Errors -/

/-- Why a document cannot be read.  Only the first cause is a fault of the syntax; with the others a
scalar has the form of a value that does not exist. -/
inductive ReadError
  /-- The document breaks a rule of the syntax, or names something unknown. -/
  | malformed
  /-- An integer with too many digits. -/
  | overlong (o : Overlong)
  /-- An integer without digits in the given base, or with others than it has. -/
  | noInteger (base : Nat) (text : List Char)
  /-- A date or a time of day that does not exist. -/
  | calendar (e : Calendar.CalendarError)
  /-- An offset from universal time of a day or more, in microseconds. -/
  | offset (micros : Int)
  /-- An escape for a code that no character has. -/
  | noCharacter
  deriving DecidableEq, Repr

def ReadError.message : ReadError → String
  | .malformed => "malformed document"
  | .overlong o => o.message
  | .noInteger base text => s!"invalid literal for int() with base {base}: {quoted text}"
  | .calendar e => e.message
  | .offset micros =>
    s!"offset must be a timedelta strictly between -timedelta(hours=24) and "
      ++ s!"timedelta(hours=24), not {Data.displayDuration micros}."
  | .noCharacter => "chr() arg not in range(0x110000)"

/-! ## Characters -/

def isBreak (c : Char) : Bool :=
  c == '\n' || c.toNat == 0x85 || c.toNat == 0x2028 || c.toNat == 0x2029

/-- What the end of a line stands for in a scalar. -/
def breakText (c : Char) : List Char :=
  if c.toNat = 0x85 then ['\n'] else [c]

def isAllowed (c : Char) : Bool :=
  let code := c.toNat
  code == 0x9 || code == 0xA || code == 0xD || (0x20 ≤ code && code ≤ 0x7E) || code == 0x85
    || (0xA0 ≤ code && code ≤ 0xFFFD) || 0x10000 ≤ code

/-- Whether the end of the text, a blank or the end of a line stands at a place. -/
def endsRun : Option Char → Bool
  | none => true
  | some c => c == ' ' || c == '\t' || isBreak c

/-- The same without the tab. -/
def endsLexeme : Option Char → Bool
  | none => true
  | some c => c == ' ' || isBreak c

/-! ## Placed text -/

/-- A character with its index in the text, its line and its column. -/
structure Glyph where
  char : Char
  index : Nat
  line : Nat
  column : Nat
  deriving DecidableEq, Repr

abbrev Source := List Glyph

/-- A text whose first character stands at the given place.  A byte order mark takes no column. -/
def placeFrom (index line column : Nat) : List Char → Source
  | [] => []
  | c :: rest =>
    let later :=
      if isBreak c then placeFrom (index + 1) (line + 1) 0 rest
      else placeFrom (index + 1) line (if c = '\ufeff' then column else column + 1) rest
    ⟨c, index, line, column⟩ :: later

def place (text : List Char) : Source :=
  placeFrom 0 0 0 text

namespace Source

def chars (s : Source) : List Char :=
  s.map (·.char)

def peek (s : Source) : Option Char :=
  s.head?.map (·.char)

/-- The character with a given number, counted from zero. -/
def peekAt (s : Source) (n : Nat) : Option Char :=
  s[n]?.map (·.char)

/-- A text without its first `n` characters. -/
def skip (s : Source) (n : Nat) : Source :=
  s.drop n

def column (s : Source) : Nat :=
  match s with
  | [] => 0
  | g :: _ => g.column

/-- The characters at the start that pass a test, and what follows them. -/
def takeRun (test : Char → Bool) (s : Source) : List Char × Source :=
  (chars (s.takeWhile fun g => test g.char), s.dropWhile fun g => test g.char)

def skipBlanks (s : Source) : Source :=
  s.dropWhile (·.char == ' ')

/-- A text without the rest of its first line, whose end stays. -/
def skipLine (s : Source) : Source :=
  s.dropWhile fun g => !isBreak g.char

/-- Whether a line begins with the mark that starts or ends a document. -/
def atSeparator (s : Source) : Bool :=
  let first := chars (s.take 3)
  (first == ['-', '-', '-'] || first == ['.', '.', '.']) && endsRun (s.peekAt 3)

/-- What follows a line on which only blanks and a comment may stand. -/
def restOfLine (s : Source) : Except ReadError Source :=
  let s := s.skipBlanks
  let s := if s.peek = some '#' then s.skipLine else s
  match s with
  | [] => .ok []
  | g :: rest => if isBreak g.char then .ok rest else .error .malformed

end Source

end CronSchedule.Yaml
