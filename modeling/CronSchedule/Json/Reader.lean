import CronSchedule.Datum

/-!
# Reading JSON

JSON as the standard defines it, with the numbers `NaN`, `Infinity` and `-Infinity` besides.  A
number without fraction and exponent is an integer of any size, up to the length limit of numerals;
any other number is the floating-point number nearest to it.  An escape may stand for a surrogate,
so a text may be broken.  Of several entries with one key the last value counts, in the place of the
first.

* `Json.ReadError` — the text is no JSON, or holds a numeral that is too long.
* `Json.readText`, `Json.readNumber` — the two kinds of lexemes with an inner form.
* `Json.read` — a whole document.
-/

namespace CronSchedule.Json

open Text

/-- Why a text cannot be read. -/
inductive ReadError
  | malformed
  | overlong (o : Overlong)
  deriving DecidableEq, Repr

/-! ## Lexemes -/

def isSpace (c : Char) : Bool :=
  c == ' ' || c == '\t' || c == '\n' || c == '\r'

def skipSpace (text : List Char) : List Char :=
  text.dropWhile isSpace

def hexValue? (c : Char) : Option Nat :=
  if isDigit c then some (digitValue c)
  else if 'a' ≤ c && c ≤ 'f' then some (c.toNat - 'a'.toNat + 10)
  else if 'A' ≤ c && c ≤ 'F' then some (c.toNat - 'A'.toNat + 10)
  else none

def hexNumber? (digits : List Char) : Option Nat :=
  digits.foldl (fun n c => do return 16 * (← n) + (← hexValue? c)) (some 0)

def simpleEscape? : Char → Option Char
  | '"' => some '"'
  | '\\' => some '\\'
  | '/' => some '/'
  | 'b' => some '\x08'
  | 'f' => some '\x0c'
  | 'n' => some '\n'
  | 'r' => some '\r'
  | 't' => some '\t'
  | _ => none

/-- The codes of a text up to its closing quote, and what follows it.  Two escapes that form a
surrogate pair stand for one character; any other escape stands for its own code. -/
def readText : List Char → Option (List Nat × List Char)
  | [] => none
  | '"' :: rest => some ([], rest)
  | '\\' :: 'u' :: a :: b :: c :: d :: '\\' :: 'u' :: e :: f :: g :: h :: rest => do
    let high ← hexNumber? [a, b, c, d]
    match hexNumber? [e, f, g, h] with
    | some low =>
      if 0xD800 ≤ high ∧ high < 0xDC00 ∧ 0xDC00 ≤ low ∧ low < 0xE000 then
        let (codes, after) ← readText rest
        let code := 0x10000 + (high - 0xD800) * 0x400 + (low - 0xDC00)
        return (code :: codes, after)
      else
        let (codes, after) ← readText ('\\' :: 'u' :: e :: f :: g :: h :: rest)
        return (high :: codes, after)
    | none => none
  | '\\' :: 'u' :: a :: b :: c :: d :: rest => do
    let unit ← hexNumber? [a, b, c, d]
    let (codes, after) ← readText rest
    return (unit :: codes, after)
  | '\\' :: c :: rest => do
    let c ← simpleEscape? c
    let (codes, after) ← readText rest
    return (c.toNat :: codes, after)
  | c :: rest => do
    if c.toNat < 32 then none
    let (codes, after) ← readText rest
    return (c.toNat :: codes, after)
termination_by text => text.length

/-- The digits at the start of a text and what follows them. -/
def takeDigits (text : List Char) : List Char × List Char :=
  (text.takeWhile isDigit, text.dropWhile isDigit)

/-- The fraction at the start of a text: a point and at least one digit. -/
def takeFraction (text : List Char) : List Char × List Char :=
  match text with
  | '.' :: rest => if (takeDigits rest).1.isEmpty then ([], text) else takeDigits rest
  | _ => ([], text)

def takeExponent (text : List Char) : Option Int × List Char :=
  let read := fun (negative : Bool) (rest : List Char) =>
    let (digits, after) := takeDigits rest
    if digits.isEmpty then (none, text)
    else
      let n : Int := ofDigits digits
      (some (if negative then -n else n), after)
  match text with
  | 'e' :: '-' :: rest | 'E' :: '-' :: rest => read true rest
  | 'e' :: '+' :: rest | 'E' :: '+' :: rest => read false rest
  | 'e' :: rest | 'E' :: rest => read false rest
  | _ => (none, text)

/-- The number at the start of a text, after its sign. -/
def readNumber (negative : Bool) (text : List Char) : Except ReadError (Datum × List Char) := do
  let (whole, rest) := match text with
    | '0' :: rest => (['0'], rest)
    | _ => takeDigits text
  if whole.isEmpty then throw .malformed
  let (fraction, rest) := takeFraction rest
  let (exponent, rest) := takeExponent rest
  if fraction.isEmpty && exponent.isNone then
    let n ← (readDigits whole).mapError .overlong
    return (.integer (Binary64.withSign negative n), rest)
  else
    let power := exponent.getD 0 - fraction.length
    return (.real (.ofDecimal negative (ofDigits (whole ++ fraction)) power), rest)

/-- What follows a word at the start of a text. -/
def afterWord? (word : String) (text : List Char) : Option (List Char) :=
  if word.toList.isPrefixOf text then some (text.drop word.length) else none

/-- A word or number at the start of a text. -/
def readScalar (text : List Char) : Except ReadError (Datum × List Char) :=
  let words : List (String × Datum) :=
    [("null", .null), ("true", .bool true), ("false", .bool false), ("NaN", .real .nan),
     ("Infinity", .real (.infinite false)), ("-Infinity", .real (.infinite true))]
  match words.findSome? fun (word, value) => (afterWord? word text).map (value, ·) with
  | some found => .ok found
  | none =>
    match text with
    | '-' :: rest => readNumber true rest
    | _ => readNumber false text

/-! ## Values -/

mutual

/-- The value at the start of a text.  The first argument bounds the nesting of the calls; the
length of the text is enough. -/
def readValue : Nat → List Char → Except ReadError (Datum × List Char)
  | 0, _ => .error .malformed
  | fuel + 1, text =>
    match text with
    | '"' :: rest =>
      match readText rest with
      | some (codes, after) => .ok ((RawText.ofCodes codes).datum, after)
      | none => .error .malformed
    | '[' :: rest =>
      match skipSpace rest with
      | ']' :: after => .ok (.list [], after)
      | inner => do
        let (items, after) ← readItems fuel inner
        return (.list items, after)
    | '{' :: rest =>
      match skipSpace rest with
      | '}' :: after => .ok (.mapping [], after)
      | inner => do
        let (entries, after) ← readEntries fuel [] inner
        return (.mapping entries, after)
    | _ => readScalar text

/-- The items of a list up to its closing bracket. -/
def readItems : Nat → List Char → Except ReadError (List Datum × List Char)
  | 0, _ => .error .malformed
  | fuel + 1, text => do
    let (item, rest) ← readValue fuel text
    match skipSpace rest with
    | ',' :: rest =>
      let (items, after) ← readItems fuel (skipSpace rest)
      return (item :: items, after)
    | ']' :: after => return ([item], after)
    | _ => throw .malformed

/-- The entries of a mapping up to its closing brace, put into the entries before them. -/
def readEntries : Nat → List (Datum × Datum) → List Char →
    Except ReadError (List (Datum × Datum) × List Char)
  | 0, _, _ => .error .malformed
  | fuel + 1, before, text => do
    match text with
    | '"' :: rest =>
      match readText rest with
      | none => throw .malformed
      | some (key, rest) =>
        match skipSpace rest with
        | ':' :: rest =>
          let (value, rest) ← readValue fuel (skipSpace rest)
          let entries := put (RawText.ofCodes key).datum value before
          match skipSpace rest with
          | ',' :: rest => readEntries fuel entries (skipSpace rest)
          | '}' :: after => return (entries, after)
          | _ => throw .malformed
        | _ => throw .malformed
    | _ => throw .malformed

end

def read (text : List Char) : Except ReadError Datum := do
  let (value, rest) ← readValue (text.length + 1) (skipSpace text)
  if (skipSpace rest).isEmpty then return value else throw .malformed

end CronSchedule.Json
