import CronSchedule.Text.Case
import CronSchedule.Text.Quoted

/-!
# Texts with surrogates

A text that comes from outside is a sequence of codes.  Where a surrogate occurs among them it
cannot be written: it can be compared and shown in a message, but there are no characters for it.

* `BrokenText` — a text in which surrogates occur.
* `RawText` — a text from outside, broken or not; `RawText.ofCodes` — the text of codes.
* `RawText.ofBytes` — the text that bytes encode.
* `RawText.lower` — lower case.
* `BrokenText.quote` — a broken text as messages show it.
-/

namespace CronSchedule.Text

/-- Whether a code is that of a surrogate, which no character has. -/
def isSurrogate (code : Nat) : Bool :=
  0xD800 ≤ code && code < 0xE000

/-- A text, given by its codes, in which surrogates occur. -/
structure BrokenText where
  codes : List Nat
  broken : codes.any isSurrogate = true
  deriving DecidableEq, Repr

/-- A text from outside. -/
inductive RawText
  | whole (s : String)
  | broken (t : BrokenText)
  deriving DecidableEq, Repr

instance : Coe String RawText :=
  ⟨.whole⟩

namespace RawText

/-- The text of codes up to 0x10FFFF. -/
def ofCodes (codes : List Nat) : RawText :=
  if h : codes.any isSurrogate = true then .broken ⟨codes, h⟩
  else .whole (String.ofList (codes.map Char.ofNat))

def codes : RawText → List Nat
  | .whole s => s.toList.map Char.toNat
  | .broken t => t.codes

/-- The first character that bytes encode in UTF-8, and the number of its bytes but one. -/
def firstChar? (bytes : List UInt8) : Option (Char × Nat) :=
  [0, 1, 2, 3].findSome? fun more =>
    match String.fromUTF8? ⟨(bytes.take (more + 1)).toArray⟩ with
    | some s => s.toList.head?.map (·, more)
    | none => none

/-- The codes that bytes encode in UTF-8.  A byte that belongs to no character stands for a
surrogate of its own. -/
def codesOfBytes : List UInt8 → List Nat
  | [] => []
  | byte :: rest =>
    match firstChar? (byte :: rest) with
    | some (c, more) => c.toNat :: codesOfBytes (rest.drop more)
    | none => (0xDC00 + byte.toNat) :: codesOfBytes rest
termination_by bytes => bytes.length
decreasing_by
  · simp only [List.length_drop, List.length_cons]
    omega
  · simp

def ofBytes (bytes : List UInt8) : RawText :=
  .ofCodes (codesOfBytes bytes)

/-- Whether a text does not come after another one in the order of their codes. -/
def notAfter (a b : RawText) : Bool :=
  !List.lex b.codes a.codes fun m n => decide (m < n)

/-- Lower case of a text.  A surrogate has none, and for what stands beside it, it is like an end of
the text. -/
def lower (text : RawText) : RawText :=
  let runs := text.codes.splitBy fun a b => isSurrogate a == isSurrogate b
  .ofCodes (runs.flatMap fun run =>
    if run.any isSurrogate then run else (Text.lower (run.map Char.ofNat)).map Char.toNat)

/-- The text, if it is not broken. -/
def whole? : RawText → Option String
  | .whole s => some s
  | .broken _ => none

end RawText

/-! ## Broken texts in messages -/

namespace BrokenText

/-- A code in which a surrogate is written by its escape. -/
def writeCode (write : Char → List Char) (code : Nat) : List Char :=
  if isSurrogate code then '\\' :: 'u' :: hexadecimal 4 code else write (Char.ofNat code)

/-- A broken text between quotes. -/
def quote (t : BrokenText) : List Char :=
  let mark := quoteChar (t.codes.map Char.ofNat)
  mark :: t.codes.flatMap (writeCode (escapeChar mark)) ++ [mark]

/-- A broken text without quotes, its surrogates written by their escapes. -/
def plain (t : BrokenText) : List Char :=
  t.codes.flatMap (writeCode ([·]))

end BrokenText

/-- A text as a terminal shows it. -/
def RawText.plain : RawText → String
  | .whole s => s
  | .broken t => String.ofList t.plain

end CronSchedule.Text
