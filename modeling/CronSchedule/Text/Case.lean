import CronSchedule.Text.CaseTable

/-!
# Full case mapping

Upper and lower case of a text by the rules of Unicode: a character may become several characters
(`ß` is `SS` in upper case), and a capital sigma that ends a word becomes a final sigma in lower
case.

* `upperChar`, `upper` — upper case of a character and of a text.
* `capital` — upper case of a character by one character, where there is one.
* `lowerChar`, `lower` — lower case of a character and of a text.
* `endsWord` — the context in which a capital sigma is final.
-/

namespace CronSchedule.Text

/-- The code that a list of runs gives for a code: moved by its run, or unchanged. -/
def mapByRuns (runs : List CaseRun) (code : Nat) : Nat :=
  match runs.find? (·.covers code) with
  | some run => (code + run.shift).toNat
  | none => code

/-- The mapping of one character beyond ASCII: an expansion if it has one, else its run. -/
def mapBeyondAscii (expansions : List (Nat × List Nat)) (runs : List CaseRun) (c : Char) :
    List Char :=
  match expansions.lookup c.toNat with
  | some codes => codes.map Char.ofNat
  | none => [Char.ofNat (mapByRuns runs c.toNat)]

def upperChar (c : Char) : List Char :=
  if c.toNat < 128 then [c.toUpper] else mapBeyondAscii upperExpansions upperRuns c

def upper (text : List Char) : List Char :=
  text.flatMap upperChar

/-- The one upper-case character of a character; one whose upper case is longer has none and is left
as it is. -/
def capital (c : Char) : Char :=
  if c.toNat < 128 then c.toUpper else Char.ofNat (mapByRuns (iotaRuns ++ upperRuns) c.toNat)

/-- Lower case of one character that no context changes. -/
def lowerChar (c : Char) : List Char :=
  if c.toNat < 128 then [c.toLower] else mapBeyondAscii lowerExpansions lowerRuns c

/-- Whether a code lies in one of the ranges. -/
def inRanges (ranges : List (Nat × Nat)) (code : Nat) : Bool :=
  ranges.any fun (low, high) => low ≤ code && code ≤ high

/-- Whether the first character that the case of a word does not pass over has case. -/
def startsCased : List Char → Bool
  | [] => false
  | c :: rest =>
    if inRanges caseIgnorableRanges c.toNat then startsCased rest
    else inRanges casedRanges c.toNat

/-- Whether a capital sigma ends a word: letters with case stand before it and none after it.
The text before it is given from its end. -/
def endsWord (before after : List Char) : Bool :=
  startsCased before && !startsCased after

/-- Lower case of a text, given the text before it from its end. -/
def lowerAfter (before : List Char) : List Char → List Char
  | [] => []
  | c :: rest =>
    let mapped :=
      if c = 'Σ' then (if endsWord before rest then ['ς'] else ['σ']) else lowerChar c
    mapped ++ lowerAfter (c :: before) rest

def lower (text : List Char) : List Char :=
  lowerAfter [] text

def upperString (s : String) : String :=
  String.ofList (upper s.toList)

def lowerString (s : String) : String :=
  String.ofList (lower s.toList)

end CronSchedule.Text
