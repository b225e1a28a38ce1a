import CronSchedule.Text.PrintableTable

/-!
# Quoted text

A text between quotes, as messages show it.  The quote is an apostrophe, unless the text holds
apostrophes and no double quote.  The quote itself and the backslash are escaped by a backslash;
tab, line feed and carriage return have escapes of their own; every other character that is not
printable is written by its code in hexadecimal, with two, four or eight digits.

* `quoteChar` — the quote that a text gets.
* `escapeChar` — one character between quotes.
* `quote` — a whole text.
-/

namespace CronSchedule.Text

def isPrintable (c : Char) : Bool :=
  let code := c.toNat
  if code < 128 then 32 ≤ code && code < 127
  else !unprintableRanges.any fun (low, high) => low ≤ code && code ≤ high

/-- A number in lower-case hexadecimal, filled up with zeros to at least `width` digits. -/
def hexadecimal (width n : Nat) : List Char :=
  let digits := Nat.toDigits 16 n
  List.replicate (width - digits.length) '0' ++ digits

def quoteChar (text : List Char) : Char :=
  if text.contains '\'' && !text.contains '"' then '"' else '\''

/-- A character that is not printable, by its code. -/
def escapeByCode (c : Char) : List Char :=
  let code := c.toNat
  if code < 0x100 then '\\' :: 'x' :: hexadecimal 2 code
  else if code < 0x10000 then '\\' :: 'u' :: hexadecimal 4 code
  else '\\' :: 'U' :: hexadecimal 8 code

/-- One character of a text that stands between the given quotes. -/
def escapeChar (mark c : Char) : List Char :=
  if c = mark || c = '\\' then ['\\', c]
  else if c = '\t' then ['\\', 't']
  else if c = '\n' then ['\\', 'n']
  else if c = '\r' then ['\\', 'r']
  else if isPrintable c then [c]
  else escapeByCode c

def quote (text : List Char) : List Char :=
  let mark := quoteChar text
  mark :: text.flatMap (escapeChar mark) ++ [mark]

def quoted (text : List Char) : String :=
  String.ofList (quote text)

def quotedString (s : String) : String :=
  quoted s.toList

/-- A text in which every character beyond ASCII is written by its code. -/
def escapeBeyondAscii (text : List Char) : List Char :=
  text.flatMap fun c => if c.toNat < 128 then [c] else escapeByCode c

end CronSchedule.Text
