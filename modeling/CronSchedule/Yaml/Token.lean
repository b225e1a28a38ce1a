import CronSchedule.Yaml.Scalar

/-!
# Tokens of a YAML document

Indentation becomes tokens that open and close collections.  A scalar or a flow collection turns out
to be the key of a mapping only when the colon behind it is met; therefore a slot is left in front
of everything that could be such a key, and the slots that were chosen are filled in at the end.

* `Token` — the tokens.
* `Scanner` — the text that is left, the indentation, and the slots that are still open.
* `Scanner.step` — the next token.
* `tokenize` — the tokens of a text.
-/

namespace CronSchedule.Yaml

open Text

/-! ## Tokens -/

/-- A token.  The end of the list of tokens is the end of the text. -/
inductive Token
  /-- A directive: that of a version by its major number, that of a tag handle, or another. -/
  | version (major : Nat)
  | handle (handle tagStart : List Char)
  | otherDirective
  | documentStart
  | documentEnd
  | blockSequenceStart
  | blockMappingStart
  | blockEnd
  | flowSequenceStart
  | flowSequenceEnd
  | flowMappingStart
  | flowMappingEnd
  | blockEntry
  | flowEntry
  | key
  | value
  | alias (name : List Char)
  | anchor (name : List Char)
  /-- A tag: a handle, unless the tag is given in full, and the rest. -/
  | tag (handle : Option (List Char)) (suffix : List Char)
  | scalar (text : RawText) (plain : Bool)
  deriving DecidableEq, Repr

/-- A token, or the slot for the tokens in front of a possible key. -/
inductive Lexeme
  | token (t : Token)
  | slot (number : Nat)
  deriving DecidableEq, Repr

/-- A slot that was chosen, and whether a block mapping begins there. -/
structure Choice where
  slot : Nat
  opens : Bool
  deriving DecidableEq, Repr

/-- The tokens of lexemes, in which the chosen slots are filled in. -/
def fillSlots (choices : List Choice) (lexemes : List Lexeme) : List Token :=
  lexemes.flatMap fun
    | .token t => [t]
    | .slot number =>
      match choices.find? (·.slot == number) with
      | none => []
      | some choice => if choice.opens then [.blockMappingStart, .key] else [.key]

/-! ## Words -/

/-- Whether a character may stand in the name of a directive, an anchor or a handle. -/
def isWordChar (c : Char) : Bool :=
  isDigit c || ('A' ≤ c && c ≤ 'Z') || ('a' ≤ c && c ≤ 'z') || c == '-' || c == '_'

def readWord (s : Source) : Except ReadError (List Char × Source) :=
  let (word, rest) := s.takeRun isWordChar
  if word.isEmpty then .error .malformed else .ok (word, rest)

/-- Refuses a text that goes on with something else than a blank or the end of a line. -/
def expectEnd (s : Source) : Except ReadError Unit :=
  if endsLexeme s.peek then .ok () else .error .malformed

def readAnchor (s : Source) : Except ReadError (List Char × Source) := do
  let (name, rest) ← readWord s
  if endsRun rest.peek || rest.peek.any ['?', ':', ',', ']', '}', '%', '@', '`'].contains then
    return (name, rest)
  else throw .malformed

def isTagChar (c : Char) : Bool :=
  isWordChar c || [';', '/', '?', ':', '@', '&', '=', '+', '$', ',', '.', '!', '~', '*', '\'', '(',
    ')', '[', ']'].contains c

/-- The bytes that escapes of the form `%41` stand for, and what follows them. -/
def readByteEscapes : Nat → Source → Except ReadError (List UInt8 × Source)
  | 0, s => .ok ([], s)
  | fuel + 1, s =>
    if s.peek ≠ some '%' then .ok ([], s)
    else
      match Json.hexNumber? (Source.chars ((s.skip 1).take 2)) with
      | none => .error .malformed
      | some byte =>
        if s.length < 3 then .error .malformed
        else do
          let (bytes, rest) ← readByteEscapes fuel (s.skip 3)
          return (byte.toUInt8 :: bytes, rest)

/-- The characters of a tag and what follows them.  The first argument bounds the number of runs. -/
def readTagChars : Nat → Source → Except ReadError (List Char × Source)
  | 0, s => .ok ([], s)
  | fuel + 1, s => do
    let (run, s) := s.takeRun isTagChar
    let (bytes, s) ← readByteEscapes s.length s
    match String.fromUTF8? (ByteArray.mk bytes.toArray) with
    | none => throw .malformed
    | some escaped =>
      if bytes.isEmpty then return (run, s)
      else
        let (more, rest) ← readTagChars fuel s
        return (run ++ escaped.toList ++ more, rest)

/-- The characters of a tag, of which there must be some. -/
def readTagText (s : Source) : Except ReadError (List Char × Source) := do
  let (text, rest) ← readTagChars (s.length + 1) s
  if text.isEmpty then throw .malformed else return (text, rest)

/-- A handle: an exclamation mark, or a word between two. -/
def readHandle (s : Source) : Except ReadError (List Char × Source) :=
  if s.peek ≠ some '!' then .error .malformed
  else
    let (word, rest) := (s.skip 1).takeRun isWordChar
    if rest.peek = some '!' then .ok ('!' :: word ++ ['!'], rest.skip 1)
    else if word.isEmpty && (rest.peek == some ' ') then .ok (['!'], rest)
    else .error .malformed

/-- Whether the tag at the start of a text has a handle with two exclamation marks. -/
def hasHandle (s : Source) : Bool :=
  let (_, rest) := (s.skip 1).takeRun fun c => c != '!' && !endsLexeme (some c)
  rest.peek == some '!'

def readTag (s : Source) : Except ReadError (Token × Source) := do
  let (tag, rest) ←
    if s.peekAt 1 = some '<' then do
      let (text, rest) ← readTagText (s.skip 2)
      if rest.peek ≠ some '>' then throw .malformed
      pure (Token.tag none text, rest.skip 1)
    else if endsRun (s.peekAt 1) then pure (Token.tag none ['!'], s.skip 1)
    else if hasHandle s then do
      let (handle, rest) ← readHandle s
      let (suffix, rest) ← readTagText rest
      pure (Token.tag (some handle) suffix, rest)
    else do
      let (suffix, rest) ← readTagText (s.skip 1)
      pure (Token.tag (some ['!']) suffix, rest)
  expectEnd rest
  return (tag, rest)

/-! ## Directives -/

def readDirectiveNumber (s : Source) : Except ReadError (Nat × Source) :=
  let (digits, rest) := s.takeRun isDigit
  if digits.isEmpty then .error .malformed
  else
    match readDigits digits with
    | .ok n => .ok (n, rest)
    | .error o => .error (.overlong o)

def readVersion (s : Source) : Except ReadError (Token × Source) := do
  let (major, rest) ← readDirectiveNumber s.skipBlanks
  if rest.peek ≠ some '.' then throw .malformed
  let (_, rest) ← readDirectiveNumber (rest.skip 1)
  expectEnd rest
  return (.version major, rest)

/-- The handle and the start of its tags after their directive. -/
def readTagDirective (s : Source) : Except ReadError (Token × Source) := do
  let (handle, rest) ← readHandle s.skipBlanks
  if rest.peek ≠ some ' ' then throw .malformed
  let (start, rest) ← readTagText rest.skipBlanks
  expectEnd rest
  return (.handle handle start, rest)

/-- The directive at the start of a text, after its percent sign. -/
def readDirective (s : Source) : Except ReadError (Token × Source) := do
  let (name, rest) ← readWord s
  expectEnd rest
  let (token, rest) ←
    if name = "YAML".toList then readVersion rest
    else if name = "TAG".toList then readTagDirective rest
    else pure (.otherDirective, rest.skipLine)
  return (token, ← rest.restOfLine)

/-! ## The scanner -/

/-- The start of something that may turn out to be a key.  It has to be one if it stands where the
next key of a block mapping is due. -/
structure Candidate where
  slot : Nat
  required : Bool
  index : Nat
  line : Nat
  column : Nat
  deriving DecidableEq, Repr

/-- What the scanner knows: the text that is left; the indentation, innermost first, and the current
one; whether a key may begin here; the candidates for keys, one for each flow collection that is
open and one for the block around them; and the lexemes so far, last first. -/
structure Scanner where
  rest : Source
  indent : Int
  outer : List Int
  allowKey : Bool
  candidate : Option Candidate
  flows : List (Option Candidate)
  lexemes : List Lexeme
  choices : List Choice
  slots : Nat

namespace Scanner

def start (s : Source) : Scanner :=
  { rest := s, indent := -1, outer := [], allowKey := true, candidate := none, flows := [],
    lexemes := [], choices := [], slots := 0 }

def inFlow (s : Scanner) : Bool :=
  !s.flows.isEmpty

def push (s : Scanner) (t : Token) : Scanner :=
  { s with lexemes := .token t :: s.lexemes }

/-- One more token of `count` characters. -/
def pushOver (s : Scanner) (count : Nat) (t : Token) : Scanner :=
  { s.push t with rest := s.rest.skip count }

/-! ### Candidates -/

/-- How far a key may reach. -/
def maxKeyLength : Nat := 1024

/-- Whether a candidate can no longer become a key: it stands on an earlier line or too far back. -/
def isStale (here : Option Glyph) (c : Candidate) : Bool :=
  match here with
  | none => true
  | some g => g.line != c.line || decide (maxKeyLength < g.index - c.index)

/-- A candidate that is given up, which must not be one that has to be a key. -/
def giveUp : Option Candidate → Except ReadError Unit
  | some c => if c.required then .error .malformed else .ok ()
  | none => .ok ()

/-- A candidate, unless it has become stale. -/
def refresh (here : Option Glyph) (c : Option Candidate) :
    Except ReadError (Option Candidate) :=
  if c.any (isStale here) then do
    giveUp c
    return none
  else .ok c

def dropStale (s : Scanner) : Except ReadError Scanner := do
  let here := s.rest.head?
  let candidate ← refresh here s.candidate
  let flows ← s.flows.mapM (refresh here)
  return { s with candidate := candidate, flows := flows }

def dropCandidate (s : Scanner) : Except ReadError Scanner := do
  giveUp s.candidate
  return { s with candidate := none }

/-- The scanner after it has noted that a key may begin here. -/
def noteCandidate (s : Scanner) : Except ReadError Scanner := do
  match s.allowKey, s.rest with
  | true, g :: _ =>
    giveUp s.candidate
    let required := !s.inFlow && decide (s.indent = (g.column : Int))
    return { s with
      candidate := some ⟨s.slots, required, g.index, g.line, g.column⟩
      lexemes := .slot s.slots :: s.lexemes
      slots := s.slots + 1 }
  | _, _ => return s

/-! ### Indentation -/

/-- The tokens and the indentation after all blocks are closed that are indented further than
`column`. -/
def unwind (column : Int) : (indent : Int) → List Int → List Lexeme → Int × List Int × List Lexeme
  | indent, [], lexemes => (indent, [], lexemes)
  | indent, next :: outer, lexemes =>
    if column < indent then unwind column next outer (.token .blockEnd :: lexemes)
    else (indent, next :: outer, lexemes)

/-- The scanner after all blocks are closed that are indented further than `column`; inside a flow
collection indentation has no meaning. -/
def closeBlocks (s : Scanner) (column : Int) : Scanner :=
  if s.inFlow then s
  else
    let (indent, outer, lexemes) := unwind column s.indent s.outer s.lexemes
    { s with indent := indent, outer := outer, lexemes := lexemes }

/-- The scanner after a block at `column` is opened, if it is indented further than the current
one. -/
def openBlock (s : Scanner) (column : Int) (t : Token) : Scanner :=
  if s.indent < column then
    { s.push t with indent := column, outer := s.indent :: s.outer }
  else s

/-! ### Single tokens -/

/-- The text at the next token; ends of lines outside flow collections allow a key again. -/
def skipToToken (allowed flow : Bool) : Nat → Source → Source × Bool
  | 0, s => (s, allowed)
  | fuel + 1, s =>
    let s := s.skipBlanks
    let s := if s.peek = some '#' then s.skipLine else s
    match s with
    | [] => ([], allowed)
    | g :: rest =>
      if isBreak g.char then skipToToken (allowed || !flow) flow fuel rest else (g :: rest, allowed)

/-- The scanner at its next token.  A byte order mark at the very start is passed over. -/
def toToken (s : Scanner) : Scanner :=
  let text := match s.rest with
    | g :: rest => if g.index = 0 ∧ g.char = '\ufeff' then rest else g :: rest
    | [] => []
  let (rest, allowed) := skipToToken s.allowKey s.inFlow (text.length + 1) text
  { s with rest := rest, allowKey := allowed }

/-- A directive or a mark between documents closes all blocks. -/
def atMargin (s : Scanner) : Except ReadError Scanner := do
  let s ← (s.closeBlocks (-1)).dropCandidate
  return { s with allowKey := false }

/-- A scalar, an alias, an anchor or a tag: something that may begin a key. -/
def nodeToken (s : Scanner) (read : Source → Except ReadError (Token × Source)) :
    Except ReadError Scanner := do
  let s ← s.noteCandidate
  let (t, rest) ← read s.rest
  return { s.push t with rest := rest, allowKey := false }

/-- A plain scalar; a key may follow it if it ends with its line. -/
def plainToken (s : Scanner) : Except ReadError Scanner := do
  let s ← s.noteCandidate
  let (text, rest, broken) := readPlain s.inFlow (s.indent + 1) s.rest
  let t := Token.scalar (.whole (String.ofList text)) true
  return { s.push t with rest := rest, allowKey := broken }

def blockToken (s : Scanner) (folded : Bool) : Except ReadError Scanner := do
  let s ← s.dropCandidate
  let (text, rest) ← readBlock folded s.indent (s.rest.skip 1)
  let t := Token.scalar (.whole (String.ofList text)) false
  return { s.push t with rest := rest, allowKey := true }

def flowStart (s : Scanner) (t : Token) : Except ReadError Scanner := do
  let s ← s.noteCandidate
  return { s.pushOver 1 t with
    allowKey := true, candidate := none, flows := s.candidate :: s.flows }

/-- The end of a flow collection, of which one must be open. -/
def flowEnd (s : Scanner) (t : Token) : Except ReadError Scanner :=
  match s.flows with
  | [] => .error .malformed
  | candidate :: flows =>
    .ok { s.pushOver 1 t with allowKey := false, candidate := candidate, flows := flows }

def flowEntry (s : Scanner) : Except ReadError Scanner := do
  let s ← s.dropCandidate
  return { s.pushOver 1 .flowEntry with allowKey := true }

/-- The hyphen of a block sequence, which opens the sequence if it is indented further. -/
def blockEntry (s : Scanner) : Except ReadError Scanner := do
  if !s.inFlow && !s.allowKey then throw .malformed
  let s := if s.inFlow then s else s.openBlock s.rest.column .blockSequenceStart
  let s ← s.dropCandidate
  return { s.pushOver 1 .blockEntry with allowKey := true }

def keyToken (s : Scanner) : Except ReadError Scanner := do
  if !s.inFlow && !s.allowKey then throw .malformed
  let s := if s.inFlow then s else s.openBlock s.rest.column .blockMappingStart
  let s ← s.dropCandidate
  return { s.pushOver 1 .key with allowKey := !s.inFlow }

/-- The colon of a value.  It makes a key of the candidate, if there is one. -/
def valueToken (s : Scanner) : Except ReadError Scanner :=
  match s.candidate with
  | some c =>
    let opens := !s.inFlow && decide (s.indent < (c.column : Int))
    let s := if opens then { s with indent := c.column, outer := s.indent :: s.outer } else s
    .ok { s.pushOver 1 .value with
      allowKey := false, candidate := none, choices := ⟨c.slot, opens⟩ :: s.choices }
  | none =>
    if s.inFlow then .ok { s.pushOver 1 .value with allowKey := false }
    else if !s.allowKey then .error .malformed
    else
      let s := s.openBlock s.rest.column .blockMappingStart
      .ok { s.pushOver 1 .value with allowKey := true }

/-! ### Steps -/

/-- Whether a plain scalar can begin with a character, given the next one. -/
def beginsPlain (flow : Bool) (c : Char) (next : Option Char) : Bool :=
  !(endsRun (some c) || ['-', '?', ':', ',', '[', ']', '{', '}', '#', '&', '*', '!', '|', '>', '\'',
      '"', '%', '@', '`'].contains c)
    || (!endsRun next && (c == '-' || (!flow && (c == '?' || c == ':'))))

/-- The scanner after the token that begins with a character. -/
def readToken (s : Scanner) (c : Char) : Except ReadError Scanner :=
  let next := s.rest.peekAt 1
  let margin := s.rest.column == 0
  if margin && c == '%' then do
    let s ← s.atMargin
    let (t, rest) ← readDirective (s.rest.skip 1)
    return { s.push t with rest := rest }
  else if margin && s.rest.atSeparator then do
    let s ← s.atMargin
    return s.pushOver 3 (if c = '-' then .documentStart else .documentEnd)
  else if c = '[' then s.flowStart .flowSequenceStart
  else if c = '{' then s.flowStart .flowMappingStart
  else if c = ']' then s.flowEnd .flowSequenceEnd
  else if c = '}' then s.flowEnd .flowMappingEnd
  else if c = ',' then s.flowEntry
  else if c = '-' ∧ endsRun next then s.blockEntry
  else if c = '?' ∧ (s.inFlow ∨ endsRun next) then s.keyToken
  else if c = ':' ∧ (s.inFlow ∨ endsRun next) then s.valueToken
  else if c = '*' then s.nodeToken fun text => do
    let (name, rest) ← readAnchor (text.skip 1)
    return (.alias name, rest)
  else if c = '&' then s.nodeToken fun text => do
    let (name, rest) ← readAnchor (text.skip 1)
    return (.anchor name, rest)
  else if c = '!' then s.nodeToken readTag
  else if (c = '|' ∨ c = '>') ∧ !s.inFlow then s.blockToken (c == '>')
  else if c = '\'' ∨ c = '"' then s.nodeToken fun text => do
    let (content, rest) ← readQuoted c (text.skip 1)
    return (.scalar content false, rest)
  else if beginsPlain s.inFlow c next then s.plainToken
  else .error .malformed

/-- The scanner after its next token, or nothing if there is none. -/
def step (s : Scanner) : Except ReadError (Option Scanner) := do
  let s ← s.toToken.dropStale
  match s.rest with
  | [] => return none
  | g :: _ => return some (← (s.closeBlocks g.column).readToken g.char)

/-- The lexemes up to the end of the text, where all blocks are closed.  The first argument bounds
the number of tokens. -/
def run : Nat → Scanner → Except ReadError (List Token)
  | 0, _ => .error .malformed
  | fuel + 1, s => do
    match ← s.step with
    | some next => run fuel next
    | none =>
      let s ← (s.closeBlocks (-1)).dropCandidate
      return fillSlots s.choices s.lexemes.reverse

end Scanner

/-- The tokens of a text. -/
def tokenize (text : List Char) : Except ReadError (List Token) :=
  let s := place text
  Scanner.run (s.length + 1) (Scanner.start s)

end CronSchedule.Yaml
