import CronSchedule.Value

/-!
# Writing JSON

One line, a blank after every comma and colon, and every character beyond ASCII as an escape of its
UTF-16 units.

* `Json.escapeChar`, `Json.writeText` — texts.
* `Json.write` — values.
-/

namespace CronSchedule.Json

open Text

def escapeUnit (unit : Nat) : List Char :=
  '\\' :: 'u' :: hexadecimal 4 unit

def escapeChar (c : Char) : List Char :=
  let code := c.toNat
  if c = '"' then ['\\', '"']
  else if c = '\\' then ['\\', '\\']
  else if c = '\n' then ['\\', 'n']
  else if c = '\r' then ['\\', 'r']
  else if c = '\t' then ['\\', 't']
  else if code = 8 then ['\\', 'b']
  else if code = 12 then ['\\', 'f']
  else if 32 ≤ code ∧ code < 127 then [c]
  else if code < 0x10000 then escapeUnit code
  else
    let above := code - 0x10000
    escapeUnit (0xD800 + above / 0x400) ++ escapeUnit (0xDC00 + above % 0x400)

def writeText (text : List Char) : List Char :=
  '"' :: text.flatMap escapeChar ++ ['"']

def writeReal : Binary64 → List Char
  | .nan => ['N', 'a', 'N']
  | .infinite negative => (if negative then ['-'] else []) ++ "Infinity".toList
  | x => x.display

mutual

/-- A value as JSON.  Dates are written as texts, and so are keys of any kind. -/
def write : Value → List Char
  | .null => ['n', 'u', 'l', 'l']
  | .bool true => ['t', 'r', 'u', 'e']
  | .bool false => ['f', 'a', 'l', 's', 'e']
  | .integer n => ofInt n
  | .real x => writeReal x
  | .text s => writeText s.toList
  | .list items => '[' :: joinWith [',', ' '] (writeItems items) ++ [']']
  | .mapping entries => '{' :: joinWith [',', ' '] (writeEntries entries) ++ ['}']
  | value => writeText value.plain.toList

def writeItems : List Value → List (List Char)
  | [] => []
  | item :: rest => write item :: writeItems rest

def writeEntries : List (Value × Value) → List (List Char)
  | [] => []
  | (key, value) :: rest =>
    (writeText key.plain.toList ++ ':' :: ' ' :: write value) :: writeEntries rest

end

def writeString (value : Value) : String :=
  String.ofList (write value)

end CronSchedule.Json
