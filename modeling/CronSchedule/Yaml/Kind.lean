import CronSchedule.Json.Reader
import CronSchedule.Yaml.Source

/-!
# Kinds of plain YAML scalars

The text of a plain scalar decides what it is, by the rules of version 1.1 of the format: integers
may be binary, octal, hexadecimal or sexagesimal and may have underscores; a floating-point number
has a point; a date or an instant is recognised as such.

* `Kind` — the kinds of scalars.
* `Kind.ofText` — the kind of a plain scalar.
* `readBase64` — the bytes of a text.
* `Kind.read`, `Kind.readRaw` — the value of a text of a kind.
-/

namespace CronSchedule.Yaml

open Calendar Text

/-- The kinds of scalars. -/
inductive Kind
  | null | bool | integer | real | timestamp | text
  /-- Bytes, which a tag alone can name. -/
  | binary
  /-- The key of entries that are taken over from another mapping. -/
  | merge
  /-- The key `=`, which stands for the value of a mapping. -/
  | default
  deriving DecidableEq, Repr

/-! ## Words -/

/-- Words for truth values in lower case; they may also be capitalised or in upper case. -/
def boolWords : List (String × Bool) :=
  [("yes", true), ("no", false), ("true", true), ("false", false), ("on", true), ("off", false)]

def upperAscii (text : List Char) : List Char :=
  text.map Char.toUpper

/-- Whether a text is a word in lower case, in upper case or capitalised. -/
def isWordForm (word text : List Char) : Bool :=
  text == word || text == upperAscii word
    || text == upperAscii (word.take 1) ++ word.drop 1

def bool? (text : List Char) : Option Bool :=
  (boolWords.find? fun (word, _) => isWordForm word.toList text).map (·.2)

/-- Whether a text spells the absence of a value. -/
def isNull (text : List Char) : Bool :=
  text.isEmpty || text == ['~'] || isWordForm "null".toList text

/-! ## Numbers -/

def dropSign : List Char → List Char
  | '-' :: rest | '+' :: rest => rest
  | text => text

def isNegative (text : List Char) : Bool :=
  text.head? == some '-'

/-- Whether a text is not empty and consists of underscores and characters that pass a test. -/
def isGrouped (test : Char → Bool) (text : List Char) : Bool :=
  !text.isEmpty && text.all fun c => c == '_' || test c

/-- Whether a text is a decimal number that may begin with a digit of its own kind. -/
def isGroupedFrom (first : Char → Bool) (text : List Char) : Bool :=
  text.head?.any first && text.all fun c => c == '_' || isDigit c

def isOctal (c : Char) : Bool :=
  '0' ≤ c && c ≤ '7'

def isBinary (c : Char) : Bool :=
  c == '0' || c == '1'

def isHexadecimal (c : Char) : Bool :=
  isDigit c || ('a' ≤ c && c ≤ 'f') || ('A' ≤ c && c ≤ 'F')

/-- Whether a text is a later place of a sexagesimal number: 0 to 59 in one or two digits. -/
def isSixtieth (text : List Char) : Bool :=
  match text with
  | [a] => isDigit a
  | [a, b] => '0' ≤ a && a ≤ '5' && isDigit b
  | _ => false

/-- Whether a text, without its sign, is an integer of one of the forms. -/
def isInteger (text : List Char) : Bool :=
  let nonzero := fun c => isDigit c && c != '0'
  match text with
  | ['0'] => true
  | '0' :: 'b' :: digits => isGrouped isBinary digits
  | '0' :: 'x' :: digits => isGrouped isHexadecimal digits
  | '0' :: digits => isGrouped isOctal digits
  | _ =>
    match pieces ':' text with
    | [] => false
    | first :: places => isGroupedFrom nonzero first && places.all isSixtieth

/-- Whether a text is empty or an exponent, whose sign must be written. -/
def isExponent : List Char → Bool
  | [] => true
  | mark :: sign :: digits =>
    (mark == 'e' || mark == 'E') && (sign == '+' || sign == '-') && isNumeral digits
  | _ => false

/-- Whether a text, without its sign, is a decimal number with a point; only a number that begins
with the point may have no sign. -/
def isDecimal (signed : Bool) (text : List Char) : Bool :=
  match splitOn '.' text with
  | ([], [rest]) =>
    let digits := rest.takeWhile fun c => c == '_' || isDigit c
    !signed && digits.head?.any isDigit && isExponent (rest.drop digits.length)
  | (whole, [rest]) =>
    let digits := rest.takeWhile fun c => c == '_' || isDigit c
    let after := rest.drop digits.length
    match pieces ':' whole with
    | [_] => isGroupedFrom isDigit whole && isExponent after
    | first :: places => isGroupedFrom isDigit first && places.all isSixtieth && after.isEmpty
    | [] => false
  | _ => false

def isInfinity (text : List Char) : Bool :=
  text.head? == some '.' && isWordForm "inf".toList (text.drop 1)

/-- Whether a text spells the number that is none. -/
def isNan (text : List Char) : Bool :=
  [".nan", ".NaN", ".NAN"].any (·.toList == text)

/-- Whether a text is a floating-point number of one of the forms. -/
def isReal (text : List Char) : Bool :=
  let magnitude := dropSign text
  isDecimal (magnitude.length != text.length) magnitude || isInfinity magnitude || isNan text

/-! ## Dates and instants -/

/-- The parts of a date or an instant as they are written. -/
structure Timestamp where
  year : Nat
  month : Nat
  day : Nat
  /-- Hours, minutes, seconds and microseconds, if there is a time of day. -/
  time : Option (Nat × Nat × Nat × Nat)
  /-- The offset in minutes, if there is one. -/
  offset : Option Int
  deriving DecidableEq, Repr

/-- The number of one or two digits at the start of a text, and what follows it. -/
def takeShort (text : List Char) : Option (Nat × List Char) :=
  match text with
  | a :: b :: rest =>
    if isDigit a && isDigit b then some (ofDigits [a, b], rest)
    else if isDigit a then some (digitValue a, b :: rest)
    else none
  | [a] => if isDigit a then some (digitValue a, []) else none
  | [] => none

/-- The number of exactly `count` digits at the start of a text, and what follows it. -/
def takeExact (count : Nat) (text : List Char) : Option (Nat × List Char) :=
  let digits := text.take count
  if digits.length = count && digits.all isDigit then some (ofDigits digits, text.drop count)
  else none

/-- A text without the given character at its start. -/
def dropMark? (mark : Char) : List Char → Option (List Char)
  | [] => none
  | c :: rest => if c = mark then some rest else none

/-- A text without the blanks and tabs at its start. -/
def dropMargin (text : List Char) : List Char :=
  text.dropWhile fun c => c == ' ' || c == '\t'

/-- The microseconds of a fraction; further digits are passed over. -/
def micros (digits : List Char) : Nat :=
  let digits := digits.take 6
  ofDigits digits * Nat.pow 10 (6 - digits.length)

/-- An offset in minutes: `Z`, or a sign, hours and perhaps minutes. -/
def readOffset (text : List Char) : Option Int :=
  match text with
  | ['Z'] => some 0
  | sign :: rest => do
    if sign ≠ '+' && sign ≠ '-' then none
    let (hours, rest) ← takeShort rest
    let minutes ← match rest with
      | [] => some 0
      | ':' :: rest => do
        let (minutes, rest) ← takeExact 2 rest
        if rest.isEmpty then some minutes else none
      | _ => none
    let total : Int := 60 * hours + minutes
    return if sign = '-' then -total else total
  | [] => none

/-- The time of day and the offset after a date. -/
def readTime (t : Timestamp) (text : List Char) : Option Timestamp := do
  let (hour, rest) ← takeShort text
  let (minute, rest) ← takeExact 2 (← dropMark? ':' rest)
  let (second, rest) ← takeExact 2 (← dropMark? ':' rest)
  let (fraction, rest) := match rest with
    | '.' :: rest => (rest.takeWhile isDigit, rest.dropWhile isDigit)
    | _ => ([], rest)
  let t := { t with time := some (hour, minute, second, micros fraction) }
  if rest.isEmpty then return t
  else return { t with offset := some (← readOffset (dropMargin rest)) }

/-- The parts of a text that is a date, or a date and a time. -/
def timestamp? (text : List Char) : Option Timestamp := do
  let (year, rest) ← takeExact 4 text
  let rest ← dropMark? '-' rest
  let (month, afterMonth) ← takeShort rest
  let rest ← dropMark? '-' afterMonth
  let (day, afterDay) ← takeShort rest
  let t : Timestamp := ⟨year, month, day, none, none⟩
  match afterDay with
  | [] => if text.length = 10 then return t else none
  | c :: rest =>
    if c = 'T' ∨ c = 't' then readTime t rest
    else if c = ' ' ∨ c = '\t' then readTime t (dropMargin rest)
    else none

/-! ## Kinds -/

def Kind.ofText (text : List Char) : Kind :=
  if (bool? text).isSome then .bool
  else if isReal text then .real
  else if isInteger (dropSign text) then .integer
  else if text = ['<', '<'] then .merge
  else if isNull text then .null
  else if (timestamp? text).isSome then .timestamp
  else if text = ['='] then .default
  else .text

/-! ## Values -/

/-- The number of digits in a base, or why there is none. -/
def readBase (base : Nat) (digits : List Char) : Except ReadError Nat :=
  let value := fun c => (Json.hexValue? c).filter (· < base)
  match digits.mapM value with
  | some (first :: rest) => .ok ((first :: rest).foldl (fun n d => base * n + d) 0)
  | _ => .error (.noInteger base digits)

def readDecimal (digits : List Char) : Except ReadError Nat :=
  if isNumeral digits then (readDigits digits).mapError .overlong
  else .error (.noInteger 10 digits)

/-- The magnitude of an integer of any form, without underscores. -/
def readMagnitude (text : List Char) : Except ReadError Nat :=
  match text with
  | ['0'] => .ok 0
  | '0' :: 'b' :: digits => readBase 2 digits
  | '0' :: 'x' :: digits => readBase 16 digits
  | '0' :: digits => readBase 8 ('0' :: digits)
  | _ => do
    let places ← (pieces ':' text).mapM readDecimal
    return places.foldl (fun n place => 60 * n + place) 0

def dropGrouping (text : List Char) : List Char :=
  text.filter (· != '_')

def readInteger (text : List Char) : Except ReadError Int := do
  let text := dropGrouping text
  let magnitude ← readMagnitude (dropSign text)
  return Binary64.withSign (isNegative text) magnitude

/-- The number nearest to a decimal with a point, perhaps with an exponent. -/
def decimal (text : List Char) : Binary64 :=
  let mantissa := text.takeWhile fun c => c != 'e' && c != 'E'
  let exponent := text.drop (mantissa.length + 1)
  let (whole, rest) := splitOn '.' mantissa
  let fraction := rest.headD []
  let magnitude : Int := ofDigits (dropSign exponent)
  let power := if isNegative exponent then -magnitude else magnitude
  Binary64.ofDecimal false (ofDigits (whole ++ fraction)) (power - fraction.length)

/-- The number with the given places of a sexagesimal number, the last of which is added up
first. -/
def sexagesimal (places : List (List Char)) : Binary64 :=
  let step := fun (sum, base) place =>
    (Binary64.add sum (Binary64.mul (decimal place) (Binary64.ofInt base)), base * 60)
  (places.reverse.foldl step (Binary64.ofInt 0, (1 : Int))).1

def readReal (text : List Char) : Binary64 :=
  let text := dropGrouping text
  let magnitude := dropSign text
  let x :=
    if isInfinity magnitude then .infinite false
    else if isNan text then .nan
    else
      match pieces ':' magnitude with
      | [_] => decimal magnitude
      | places => sexagesimal places
  if isNegative text then x.neg else x

/-- The date or the instant of the parts of a timestamp.  An offset must be shorter than a day. -/
def Timestamp.read (t : Timestamp) : Except ReadError Datum := do
  match t.time with
  | none =>
    match checkDate t.year t.month t.day with
    | .ok () => return .date ⟨t.year, t.month, t.day⟩
    | .error e => throw (.calendar e)
  | some (hour, minute, second, micros) =>
    let offset := t.offset.map (· * 60000000)
    match offset with
    | some offset => if 86400000000 ≤ offset.natAbs then throw (.offset offset)
    | none => pure ()
    let clock : WallClock := ⟨t.year, t.month, t.day, hour, minute, second⟩
    match clock.check with
    | .ok clock => return .moment ⟨clock, micros, offset⟩
    | .error e => throw (.calendar e)

/-- The six bits that a character stands for. -/
def sixBits? (c : Char) : Option Nat :=
  if 'A' ≤ c ∧ c ≤ 'Z' then some (c.toNat - 'A'.toNat)
  else if 'a' ≤ c ∧ c ≤ 'z' then some (c.toNat - 'a'.toNat + 26)
  else if isDigit c then some (digitValue c + 52)
  else if c = '+' then some 62
  else if c = '/' then some 63
  else none

/-- The bytes that characters of six bits stand for.  `place` is the place in a group of four
characters, `left` the bits that are left over from the character before, and `padding` the number
of equals signs since.  Other characters are passed over; the equals sign that completes a group
ends the text. -/
def readBase64 (place left padding : Nat) : List Char → Option (List UInt8)
  | [] => if place = 0 then some [] else none
  | c :: rest =>
    if c = '=' then
      if place < 2 then readBase64 place left padding rest
      else if 4 ≤ place + padding + 1 then some []
      else readBase64 place left (padding + 1) rest
    else
      match sixBits? c with
      | none => readBase64 place left padding rest
      | some bits =>
        if place = 0 then readBase64 1 bits 0 rest
        else do
          let unit := Nat.pow 2 (6 - 2 * place)
          let all := left * 64 + bits
          let bytes ← readBase64 ((place + 1) % 4) (all % unit) 0 rest
          return (all / unit).toUInt8 :: bytes

/-- The value of a text of a kind; a text that is not of the kind is refused. -/
def Kind.read (kind : Kind) (text : List Char) : Except ReadError Datum :=
  match kind with
  | .null => .ok .null
  | .bool =>
    match bool? text with
    | some b => .ok (.bool b)
    | none => .error .malformed
  | .integer => (readInteger text).map .integer
  | .real =>
    if isReal text || isInteger (dropSign text) then .ok (.real (readReal text))
    else .error .malformed
  | .timestamp =>
    match timestamp? text with
    | some t => t.read
    | none => .error .malformed
  | .text => .ok (.text (String.ofList text))
  | .binary =>
    match if text.all (·.toNat < 128) then readBase64 0 0 0 text else none with
    | some bytes => .ok (.other (.bytes bytes))
    | none => .error .malformed
  | .merge | .default => .error .malformed

/-- The value of a text, which only as a text may be broken. -/
def Kind.readRaw (kind : Kind) (text : RawText) : Except ReadError Datum :=
  match kind, text with
  | kind, .whole s => kind.read s.toList
  | .text, .broken t => .ok (.other (.broken t))
  | _, .broken _ => .error .malformed

end CronSchedule.Yaml
