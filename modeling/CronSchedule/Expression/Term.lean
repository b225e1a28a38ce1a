import CronSchedule.Constraint
import CronSchedule.Expression.Token

/-!
# Compiling one field

The text of a field is a single marker or a list of terms:

* `*`, `?` — every value, and no requirement (day fields only);
* `L`, `L-n`, `LW`, `nW` — rules for the day of the month;
* `L`, `vL`, `v#n` — Saturday, and rules for the day of the week;
* `v`, `a-b`, `*/s`, `v/s`, `a-b/s` — values, where `v` is a numeral or a name.

A marker stands alone in its field.  The checks are made in a fixed order, which decides the error
that a text with several defects gets: first the characters, then the terms from left to right.

* `Token.value` — a numeral or a name.
* `Token.range`, `Token.progression` — a term that denotes values.
* `Token.marker?` — a term that denotes a rule.
* `Token.compileValues`, `Token.compileDay` — a field that lists values, and a day field.
* `compileField` — a field of either sort.
-/

namespace CronSchedule.Expression

open Text

/-- The error for a defect, as a reason why compiling fails. -/
def Token.fail (token : Token) (defect : Defect) (offset : Nat) : Except Failure α :=
  .error (.malformed (token.malformed defect offset))

/-- The number of a run of digits, as a step of compiling. -/
def readNumeral (digits : List Char) : Except Failure Nat :=
  (readDigits digits).mapError .overlong

/-! ## Characters -/

/-- Refuses the first character that the field does not permit. -/
def Token.checkCharactersFrom (token : Token) (offset : Nat) : List Char → Except Failure Unit
  | [] => .ok ()
  | c :: rest =>
    if token.field.permits c then token.checkCharactersFrom (offset + 1) rest
    else token.fail (.forbidden c) offset

/-- Refuses a token with a character that its field does not permit. -/
def Token.checkCharacters (token : Token) : Except Failure Unit :=
  token.checkCharactersFrom 0 token.text

/-! ## Values -/

/-- The value of a numeral or a name in the range of the field. -/
def Token.value (token : Token) (text : List Char) (offset : Nat) : Except Failure Int := do
  match token.field.names.lookup text with
  | some value => return value
  | none =>
    if !isNumeral text then
      let defect : Defect :=
        if token.field.names.isEmpty then .invalidValue text else .unknownName text
      token.fail defect offset
    else
      let value : Int ← readNumeral text
      if token.field.contains value then return value
      else token.fail (.outOfRange value token.field.low token.field.high) offset

/-- The ends of a range `a-b`. -/
def Token.range (token : Token) (term : List Char) (offset : Nat) :
    Except Failure (Int × Int) := do
  match splitOn '-' term with
  | (first, [last]) =>
    if first.isEmpty || last.isEmpty then token.fail (.invalidRange term) offset
    else
      let low ← token.value first offset
      let high ← token.value last (offset + first.length + 1)
      if high < low then token.fail (.reversedRange low high) offset
      else return (low, high)
  | _ => token.fail (.invalidRange term) offset

/-- The step of a term, given the text after the `/`. -/
def Token.step (token : Token) (text : List Char) (offset : Nat) : Except Failure Nat := do
  if !isNumeral text then token.fail (.stepNotNumeral text) offset
  else
    let step ← readNumeral text
    if step = 0 then token.fail (.stepNotPositive step) offset
    else return step

/-- The first and last value of what stands before a step. -/
def Token.stepBase (token : Token) (term base : List Char) (offset : Nat) :
    Except Failure (Int × Int) := do
  if base = ['*'] then return (token.field.low, token.field.high)
  else if base.contains '-' then token.range base offset
  else if base.isEmpty then token.fail (.missingStart term) offset
  else return (← token.value base offset, token.field.high)

/-- The values that a term denotes. -/
def Token.progression (token : Token) (term : List Char) (offset : Nat) :
    Except Failure Progression := do
  match splitOn '/' term with
  | (base, [stepText]) =>
    let step ← token.step stepText (offset + base.length + 1)
    let (first, last) ← token.stepBase term base offset
    return Progression.upTo first last step
  | (_, _ :: _ :: _) => token.fail (.repeatedStep term) offset
  | (_, []) =>
    if term = ['*'] then return Progression.upTo token.field.low token.field.high 1
    else if term.contains '-' then
      let (first, last) ← token.range term offset
      return Progression.upTo first last 1
    else
      let value ← token.value term offset
      return ⟨value, 1, 0⟩

/-! ## Markers -/

/-- A term of the day of month that is a marker. -/
def Token.dayOfMonthMarker? (token : Token) (term : List Char) (offset : Nat) :
    Except Failure (Option Constraint) := do
  if term = ['L'] then return some (.rule (.lastDay 0))
  if term = ['L', 'W'] then return some (.rule .lastWorkday)
  match term with
  | 'L' :: '-' :: digits =>
    if isNumeral digits then
      let before ← readNumeral digits
      if maxLastOffset < before then token.fail (.lastOffset before) offset
      return some (.rule (.lastDay before))
  | _ => pure ()
  if term.getLast? = some 'W' && isNumeral term.dropLast then
    let day ← token.value term.dropLast offset
    return some (.rule (.nearestWorkday day))
  if term.contains 'L' || term.contains 'W' then token.fail (.misplacedLetter term) offset
  return none

/-- Whether a text may name a weekday before `#` or `L`: it has characters, all of them digits or
capital letters. -/
def isWord (text : List Char) : Bool :=
  !text.isEmpty && text.all fun c => isDigit c || ('A' ≤ c && c ≤ 'Z')

/-- A term of the day of week that is a marker. -/
def Token.dayOfWeekMarker? (token : Token) (term : List Char) (offset : Nat) :
    Except Failure (Option Constraint) := do
  if term = ['L'] then return some (.values (.single token.field.high))
  match splitOn '#' term with
  | (_, []) => pure ()
  | (day, [digits]) =>
    if isWord day && isNumeral digits then
      let weekday ← token.value day offset
      let occurrence ← readNumeral digits
      if occurrence < 1 || maxOccurrence < occurrence then
        token.fail (.occurrence occurrence) (offset + day.length + 1)
      return some (.rule (.nthWeekday weekday occurrence))
    else token.fail (.misplacedNth term) offset
  | _ => token.fail (.misplacedNth term) offset
  if term.getLast? = some 'L' && isWord term.dropLast then
    let weekday ← token.value term.dropLast offset
    return some (.rule (.lastWeekday weekday))
  return none

/-- A term that is a marker. -/
def Token.marker? (token : Token) (term : List Char) (offset : Nat) :
    Except Failure (Option Constraint) :=
  match token.field with
  | .dayOfMonth => token.dayOfMonthMarker? term offset
  | .dayOfWeek => token.dayOfWeekMarker? term offset
  | _ => .ok none

/-! ## Fields -/

/-- The terms of a list from an offset on, each read by `read`. -/
def readTerms (read : List Char → Nat → Except Failure Progression) (offset : Nat) :
    List (List Char) → Except Failure (List Progression)
  | [] => .ok []
  | term :: rest => do
    let values ← read term offset
    return values :: (← readTerms read (offset + term.length + 1) rest)

/-- The set of values of a field that has no markers. -/
def Token.compileValues (token : Token) : Except Failure ValueSet := do
  token.checkCharacters
  if token.text = ['*'] then return .full token.field true
  else
    let (first, rest) := token.elements
    let values ← token.progression first 0
    let more ← readTerms token.progression (first.length + 1) rest
    return .ofProgressions values more

/-- A term in a list of several, which must not be a marker. -/
def Token.element (token : Token) (term : List Char) (offset : Nat) :
    Except Failure Progression := do
  match ← token.marker? term offset with
  | some _ => token.fail (.markerCombined term) offset
  | none => token.progression term offset

/-- The constraint of a term that stands alone in a day field. -/
def Token.compileSingle (token : Token) (term : List Char) : Except Failure Constraint := do
  match ← token.marker? term 0 with
  | some marker => return marker
  | none => return .values (.ofProgressions (← token.progression term 0) [])

/-- The constraint of a list of several terms in a day field, the first of which is given apart. -/
def Token.compileList (token : Token) (first : List Char) (rest : List (List Char)) :
    Except Failure Constraint := do
  let values ← token.element first 0
  let more ← readTerms token.element (first.length + 1) rest
  return .values (.ofProgressions values more)

/-- The constraint of a day field. -/
def Token.compileDay (token : Token) : Except Failure Constraint := do
  token.checkCharacters
  if token.text = ['*'] then return .values (.full token.field true)
  else if token.text = ['?'] then return .unspecified
  else if token.text.contains '?' then token.fail .unspecifiedCombined 0
  else match token.elements with
    | (term, []) => token.compileSingle term
    | (first, rest) => token.compileList first rest

/-- The constraint of a field. -/
def compileField (token : Token) : Except Failure Constraint :=
  if token.field.isDay then token.compileDay else .values <$> token.compileValues

end CronSchedule.Expression
