import CronSchedule.Expression.Malformed
import CronSchedule.Text.Case

/-!
# From text to field tokens

An expression is an alias such as `@daily` or a text of six or seven words.  Each word becomes a
token for the field at its place, in upper case and with its position in the text.

* `expandAlias` — the text that an alias stands for.
* `Token` — the text of one field and where it comes from.
* `Token.malformed` — an error that points into a token.
* `tokenize` — the tokens of an expression.
-/

namespace CronSchedule.Expression

open Text

/-! ## Aliases -/

def aliases : List (String × String) :=
  [("@yearly", "0 0 0 1 1 ?"), ("@annually", "0 0 0 1 1 ?"), ("@monthly", "0 0 0 1 * ?"),
   ("@weekly", "0 0 0 ? * 1"), ("@daily", "0 0 0 * * ?"), ("@midnight", "0 0 0 * * ?"),
   ("@hourly", "0 0 * * * ?")]

/-- The expression that an alias stands for, in either case and with blanks around it; any other
text stands for itself. -/
def expandAlias (text : List Char) : List Char :=
  match aliases.lookup (String.ofList (lower (trim text))) with
  | some expansion => expansion.toList
  | none => text

/-! ## Tokens -/

/-- The text of a field, the position of its first character and the expression around it. -/
structure Token where
  field : Field
  text : List Char
  position : Int
  expression : List Char
  deriving DecidableEq, Repr

namespace Token

/-- The elements of the comma-separated list that a token is: the first one and the others. -/
def elements (token : Token) : List Char × List (List Char) :=
  splitOn ',' token.text

def terms (token : Token) : List (List Char) :=
  pieces ',' token.text

/-- The error for a defect at an offset into a token. -/
def malformed (token : Token) (defect : Defect) (offset : Nat) : Malformed where
  problem := .inField token.field token.text (token.position + offset) defect
  expression := token.expression
  position := token.position + offset
  field := some token.field

end Token

/-- The offset of the first empty text in a list of texts that are separated by one character. -/
def emptyElementOffset? (offset : Nat) : List (List Char) → Option Nat
  | [] => none
  | term :: rest =>
    if term.isEmpty then some offset else emptyElementOffset? (offset + term.length + 1) rest

def Token.checkElements (token : Token) : Except Malformed Token :=
  match emptyElementOffset? 0 token.terms with
  | some offset => .error (token.malformed .emptyElement offset)
  | none => .ok token

/-- The token of a word, which must not have an empty element. -/
def Token.ofWord (expression : List Char) (field : Field) (word : Nat × List Char) :
    Except Malformed Token :=
  Token.checkElements ⟨field, upper word.2, word.1, expression⟩

/-- The tokens of the fields; the year may be left out. -/
structure Tokens where
  second : Token
  minute : Token
  hour : Token
  dayOfMonth : Token
  month : Token
  dayOfWeek : Token
  year : Option Token
  deriving DecidableEq, Repr

def Tokens.toList (t : Tokens) : List Token :=
  [t.second, t.minute, t.hour, t.dayOfMonth, t.month, t.dayOfWeek] ++ t.year.toList

/-- The tokens of the words of the first six fields, and of the year if it has a word. -/
def Tokens.ofWords (expression : List Char)
    (second minute hour dayOfMonth month dayOfWeek : Nat × List Char)
    (year : Option (Nat × List Char)) : Except Malformed Tokens := do
  let second ← Token.ofWord expression .second second
  let minute ← Token.ofWord expression .minute minute
  let hour ← Token.ofWord expression .hour hour
  let dayOfMonth ← Token.ofWord expression .dayOfMonth dayOfMonth
  let month ← Token.ofWord expression .month month
  let dayOfWeek ← Token.ofWord expression .dayOfWeek dayOfWeek
  let year ← year.mapM (Token.ofWord expression .year)
  return ⟨second, minute, hour, dayOfMonth, month, dayOfWeek, year⟩

/-- The tokens of an expression. -/
def tokenize (expression : List Char) : Except Malformed Tokens :=
  let text := expandAlias expression
  match words text with
  | [second, minute, hour, dayOfMonth, month, dayOfWeek] =>
    Tokens.ofWords text second minute hour dayOfMonth month dayOfWeek none
  | [second, minute, hour, dayOfMonth, month, dayOfWeek, year] =>
    Tokens.ofWords text second minute hour dayOfMonth month dayOfWeek (some year)
  | found => .error (.whole (.wordCount found.length) expression)

end CronSchedule.Expression
