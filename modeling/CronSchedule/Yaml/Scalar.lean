import CronSchedule.Json.Reader
import CronSchedule.Yaml.Source

/-!
# Scalars as they are written

A scalar is written plainly, between quotes or as a block of lines.  In the first two forms the end
of a line inside the scalar is folded: it becomes a blank, or as many line ends as empty lines
follow it.

* `readPlain` — a plain scalar, which ends where an indicator or an outer line begins.
* `readQuoted` — a scalar between quotes; between double quotes there are escapes.
* `readBlock` — a block, kept line by line or folded, with its last line ends kept, clipped or
  stripped.
-/

namespace CronSchedule.Yaml

open Text

/-! ## Plain scalars -/

/-- Whether a character, given the next one, ends a run of a plain scalar.  Inside a flow collection
the indicators of such collections end it too. -/
def endsPlain (flow : Bool) (c : Char) (next : Option Char) : Bool :=
  endsRun (some c)
    || (c == ':' && (endsRun next || (flow && next.any [',', '[', ']', '{', '}'].contains)))
    || (flow && [',', '?', '[', ']', '{', '}'].contains c)

/-- A run of a plain scalar without blanks, and what follows it. -/
def plainRun (flow : Bool) : Source → List Char × Source
  | [] => ([], [])
  | g :: rest =>
    if endsPlain flow g.char (Source.peek rest) then ([], g :: rest)
    else
      let (run, after) := plainRun flow rest
      (g.char :: run, after)

/-- What stands between two runs of a plain scalar: the text that it becomes, what follows it, and
whether a line ended. -/
structure Gap where
  text : List Char
  rest : Source
  broken : Bool

/-- The ends of empty lines and what follows them; `true` if that is a mark between documents. -/
def emptyLines : Source → List Char × Source × Bool
  | [] => ([], [], false)
  | g :: rest =>
    if g.char = ' ' then emptyLines rest
    else if isBreak g.char then
      if Source.atSeparator rest then ([], rest, true)
      else
        let (breaks, after, separated) := emptyLines rest
        (breakText g.char ++ breaks, after, separated)
    else ([], g :: rest, false)

/-- What the end of a line and the ends of the empty lines after it become. -/
def fold (first breaks : List Char) : List Char :=
  if first ≠ ['\n'] then first ++ breaks
  else if breaks.isEmpty then [' ']
  else breaks

/-- The gap at the start of a text; it has no text if nothing or another document follows. -/
def plainGap (s : Source) : Gap :=
  let (blanks, s) := s.takeRun (· == ' ')
  match s with
  | [] => ⟨blanks, [], false⟩
  | g :: rest =>
    if !isBreak g.char then ⟨blanks, g :: rest, false⟩
    else if Source.atSeparator rest then ⟨[], rest, true⟩
    else
      let (breaks, after, separated) := emptyLines rest
      ⟨if separated then [] else fold (breakText g.char) breaks, after, true⟩

/-- The text of a plain scalar, what follows it, and whether it reached the end of a line.  The
first argument bounds the number of runs. -/
def plainRuns (flow : Bool) (indent : Int) : Nat → Source → List Char × Source × Bool
  | 0, s => ([], s, false)
  | fuel + 1, s =>
    if s.peek = some '#' then ([], s, false)
    else
      let (run, s) := plainRun flow s
      if run.isEmpty then ([], s, false)
      else
        let gap := plainGap s
        let outside := !flow && decide ((Source.column gap.rest : Int) < indent)
        if gap.text.isEmpty || outside then (run, gap.rest, gap.broken)
        else
          let (more, after, broken) := plainRuns flow indent fuel gap.rest
          if more.isEmpty then (run, after, gap.broken)
          else (run ++ gap.text ++ more, after, broken)

/-- A plain scalar whose later lines must be indented by at least `indent`. -/
def readPlain (flow : Bool) (indent : Int) (s : Source) : List Char × Source × Bool :=
  plainRuns flow indent (s.length + 1) s

/-! ## Quoted scalars -/

/-- The ends of lines inside a quoted scalar and what follows them; `start` tells whether a line
begins here, which must not be a mark between documents. -/
def quotedLines (start : Bool) : Source → Except ReadError (List Char × Source)
  | [] => .ok ([], [])
  | g :: rest =>
    if start && Source.atSeparator (g :: rest) then .error .malformed
    else if g.char = ' ' || g.char = '\t' then quotedLines false rest
    else if isBreak g.char then do
      let (breaks, after) ← quotedLines true rest
      return (breakText g.char ++ breaks, after)
    else .ok ([], g :: rest)

def simpleEscape? : Char → Option Char
  | '0' => some '\x00'
  | 'a' => some '\x07'
  | 'b' => some '\x08'
  | 't' => some '\t'
  | '\t' => some '\t'
  | 'n' => some '\n'
  | 'v' => some '\x0b'
  | 'f' => some '\x0c'
  | 'r' => some '\r'
  | 'e' => some '\x1b'
  | ' ' => some ' '
  | '"' => some '"'
  | '\\' => some '\\'
  | '/' => some '/'
  | 'N' => some '\u0085'
  | '_' => some '\u00a0'
  | 'L' => some '\u2028'
  | 'P' => some '\u2029'
  | _ => none

/-- The number of digits of an escape by code. -/
def codeLength? : Char → Option Nat
  | 'x' => some 2
  | 'u' => some 4
  | 'U' => some 8
  | _ => none

/-- The codes that an escape stands for, given the text after its backslash, and what follows
it. -/
def readEscape : Source → Except ReadError (List Nat × Source)
  | [] => .error .malformed
  | g :: rest =>
    match simpleEscape? g.char, codeLength? g.char with
    | some c, _ => .ok ([c.toNat], rest)
    | none, some count =>
      let digits := Source.chars (rest.take count)
      match Json.hexNumber? digits with
      | some code =>
        if digits.length < count then .error .malformed
        else if 0x10FFFF < code then .error .noCharacter
        else .ok ([code], rest.drop count)
      | none => .error .malformed
    | none, none =>
      if isBreak g.char then
        (quotedLines true rest).map fun (breaks, after) => (breaks.map Char.toNat, after)
      else .error .malformed

/-- The codes up to the closing quote and what follows it.  The first argument bounds the number of
steps. -/
def quotedCodes (mark : Char) : Nat → Source → Except ReadError (List Nat × Source)
  | 0, _ | _ + 1, [] => .error .malformed
  | fuel + 1, g :: rest =>
    let c := g.char
    if c = mark then
      if mark = '\'' ∧ Source.peek rest = some '\'' then do
        let (codes, after) ← quotedCodes mark fuel (rest.drop 1)
        return (c.toNat :: codes, after)
      else .ok ([], rest)
    else if c = '\\' ∧ mark = '"' then do
      let (escaped, rest) ← readEscape rest
      let (codes, after) ← quotedCodes mark fuel rest
      return (escaped ++ codes, after)
    else if c = ' ' ∨ c = '\t' then
      let (blanks, s) := Source.takeRun (fun c => c == ' ' || c == '\t') (g :: rest)
      -- Blanks before the end of a line do not count.
      let kept := if s.peek.any isBreak then [] else blanks
      do
        let (codes, after) ← quotedCodes mark fuel s
        return (kept.map Char.toNat ++ codes, after)
    else if isBreak c then do
      let (breaks, rest) ← quotedLines true rest
      let (codes, after) ← quotedCodes mark fuel rest
      return ((fold (breakText c) breaks).map Char.toNat ++ codes, after)
    else do
      let (codes, after) ← quotedCodes mark fuel rest
      return (c.toNat :: codes, after)

/-- A scalar between quotes, given the text after the first one. -/
def readQuoted (mark : Char) (s : Source) : Except ReadError (RawText × Source) := do
  let (codes, after) ← quotedCodes mark (s.length + 1) s
  return (RawText.ofCodes codes, after)

/-! ## Blocks -/

/-- What becomes of the line ends at the end of a block: one is kept, all, or none. -/
inductive Chomping
  | clip | keep | strip
  deriving DecidableEq, Repr

/-- How a block ends, and by how much it is indented if that is stated. -/
structure BlockHeader where
  chomping : Chomping
  increment : Option Nat
  deriving DecidableEq, Repr

/-- The chomping indicator at the start of a text. -/
def takeChomping (s : Source) : Option Chomping × Source :=
  match s.peek with
  | some '+' => (some .keep, s.drop 1)
  | some '-' => (some .strip, s.drop 1)
  | _ => (none, s)

/-- The indentation indicator at the start of a text, which must not be zero. -/
def takeIncrement (s : Source) : Except ReadError (Option Nat × Source) :=
  match s.peek with
  | some c =>
    if c = '0' then .error .malformed
    else if isDigit c then .ok (some (digitValue c), s.drop 1)
    else .ok (none, s)
  | none => .ok (none, s)

/-- The header of a block: two indicators in either order, and nothing else on the line. -/
def readBlockHeader (s : Source) : Except ReadError (BlockHeader × Source) := do
  let (before, s) := takeChomping s
  let (increment, s) ← takeIncrement s
  let (behind, s) := if before.isNone && increment.isSome then takeChomping s else (none, s)
  if !endsLexeme s.peek then throw .malformed
  let rest ← s.restOfLine
  return (⟨(before.or behind).getD .clip, increment⟩, rest)

/-- The empty lines at the start of a block, the greatest indentation among them and of the first
other line, and what follows. -/
def blockIndentation : Source → List Char × Nat × Source
  | [] => ([], 0, [])
  | g :: rest =>
    if g.char = ' ' then
      let (breaks, indent, after) := blockIndentation rest
      (breaks, max (g.column + 1) indent, after)
    else if isBreak g.char then
      let (breaks, indent, after) := blockIndentation rest
      (breakText g.char ++ breaks, indent, after)
    else ([], 0, g :: rest)

/-- The empty lines of a block with a known indentation, and what follows them. -/
def blockBreaks (indent : Nat) : Source → List Char × Source
  | [] => ([], [])
  | g :: rest =>
    if g.char = ' ' ∧ g.column < indent then blockBreaks indent rest
    else if isBreak g.char then
      let (breaks, after) := blockBreaks indent rest
      (breakText g.char ++ breaks, after)
    else ([], g :: rest)

/-- What remains at the end of a block: of the last line end and of those of the empty lines after
it. -/
def Chomping.tail (chomping : Chomping) (lineEnd breaks : List Char) : List Char :=
  match chomping with
  | .clip => lineEnd
  | .keep => lineEnd ++ breaks
  | .strip => []

/-- Whether a blank begins a line, which is then not folded. -/
def beginsBlank (s : Source) : Bool :=
  s.peek == some ' ' || s.peek == some '\t'

/-- The lines of a block.  `lineEnd` is the end of the line before and `breaks` those of the empty
lines since; the first argument bounds the number of lines. -/
def blockLines (folded : Bool) (chomping : Chomping) (indent : Nat) :
    Nat → (lineEnd breaks : List Char) → Source → List Char × Source
  | 0, _, _, s => ([], s)
  | fuel + 1, lineEnd, breaks, s =>
    if s.isEmpty || s.column ≠ indent then (chomping.tail lineEnd breaks, s)
    else
      let (line, s') := s.takeRun fun c => !isBreak c
      let ending := match s' with
        | [] => []
        | g :: _ => breakText g.char
      let (breaks', after) := blockBreaks indent (s'.drop 1)
      let continues := !after.isEmpty && after.column == indent
      let joint :=
        if !continues then []
        else if folded && ending == ['\n'] && !beginsBlank s && !beginsBlank after then
          (if breaks'.isEmpty then [' '] else [])
        else ending
      let lineEnd' := if continues then [] else ending
      let (more, rest) := blockLines folded chomping indent fuel lineEnd' breaks' after
      (breaks ++ line ++ joint ++ more, rest)

/-- A block, given the text after its indicator; `outer` is the indentation around it. -/
def readBlock (folded : Bool) (outer : Int) (s : Source) :
    Except ReadError (List Char × Source) := do
  let (header, s) ← readBlockHeader s
  let least : Nat := max (outer + 1).toNat 1
  let (indent, breaks, s) := match header.increment with
    | none =>
      let (breaks, indent, s) := blockIndentation s
      (max least indent, breaks, s)
    | some increment =>
      let indent := least + increment - 1
      let (breaks, s) := blockBreaks indent s
      (indent, breaks, s)
  return blockLines folded header.chomping indent (s.length + 1) [] breaks s

end CronSchedule.Yaml
