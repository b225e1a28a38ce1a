import CronSchedule.Number.Notation
import CronSchedule.Value

/-!
# Message templates

A message may be a template: a directive such as `%s` or `%-8.3f` stands for the next argument, or
with a key, `%(name)s`, for an entry of the one mapping that is the argument.

* `Directive` — a key, flags, a width, a precision and a conversion.
* `Piece.readAll` — the pieces of a template: plain characters and directives.
* `TemplateError` — why a template cannot be filled in.
* `Piece.render` — a piece filled in, and the arguments that are left.
* `fillTemplate` — a template with its arguments.

The parts of a directive are looked at in the order in which they are written, so a directive with
two faults is refused for the first one.
-/

namespace CronSchedule.Log

open Text

/-! ## Directives -/

/-- The key of a directive. -/
inductive Key
  | absent
  | named (key : List Char)
  | unclosed
  deriving DecidableEq, Repr

/-- A width or a precision. -/
inductive Amount
  | unset
  | fixed (n : Nat)
  | argument
  deriving DecidableEq, Repr

/-- A directive; it has no conversion if the template ends before it. -/
structure Directive where
  key : Key
  flags : List Char
  width : Amount
  precision : Amount
  conversion : Option Char
  deriving DecidableEq, Repr

/-- A piece of a template: a character that stands for itself, or a directive with the position of
its conversion. -/
inductive Piece
  | plain (c : Char)
  | directive (d : Directive) (position : Nat)
  deriving DecidableEq, Repr

namespace Directive

def isFlag (c : Char) : Bool :=
  c == '-' || c == '+' || c == ' ' || c == '#' || c == '0'

/-- The characters up to the parenthesis that closes the given number of open ones, and what follows
it; nothing if it is missing. -/
def readKeyBody : Nat → List Char → Option (List Char × List Char)
  | _, [] => none
  | 0, ')' :: rest => some ([], rest)
  | depth, c :: rest => do
    let depth := if c = ')' then depth - 1 else if c = '(' then depth + 1 else depth
    let (body, after) ← readKeyBody depth rest
    return (c :: body, after)

def readKey (text : List Char) : Key × List Char :=
  match text with
  | '(' :: rest =>
    match readKeyBody 0 rest with
    | some (key, after) => (.named key, after)
    | none => (.unclosed, [])
  | _ => (.absent, text)

def readAmount (text : List Char) : Amount × List Char :=
  match text with
  | '*' :: rest => (.argument, rest)
  | _ =>
    let digits := text.takeWhile isDigit
    (if digits.isEmpty then .unset else .fixed (ofDigits digits), text.dropWhile isDigit)

/-- The precision at the start of a text; a point alone is the precision zero. -/
def readPrecision (text : List Char) : Amount × List Char :=
  match text with
  | '.' :: rest =>
    let (amount, after) := readAmount rest
    (if amount = .unset then .fixed 0 else amount, after)
  | _ => (.unset, text)

/-- A text without a length modifier at its start, which has no meaning. -/
def dropLength : List Char → List Char
  | 'h' :: rest | 'l' :: rest | 'L' :: rest => rest
  | text => text

/-- The directive at the start of a text, after its percent sign, and what follows it. -/
def read (text : List Char) : Directive × List Char :=
  let (key, text) := readKey text
  let flags := text.takeWhile isFlag
  let (width, text) := readAmount (text.dropWhile isFlag)
  let (precision, text) := readPrecision text
  let text := dropLength text
  (⟨key, flags, width, precision, text.head?⟩, text.tail)

theorem length_readKeyBody {depth : Nat} {text key after : List Char}
    (h : readKeyBody depth text = some (key, after)) : after.length ≤ text.length := by
  induction text generalizing depth key with
  | nil => simp [readKeyBody] at h
  | cons c rest ih =>
    unfold readKeyBody at h
    split at h
    · simp_all
    · simp_all
    · rename_i heq
      obtain ⟨rfl, rfl⟩ := List.cons.inj heq
      simp only [bind, Option.bind] at h
      split at h
      · simp at h
      · rename_i found hfound
        obtain ⟨body, rest'⟩ := found
        simp only [pure, Option.some.injEq, Prod.mk.injEq] at h
        obtain ⟨-, rfl⟩ := h
        have := ih hfound
        simp only [List.length_cons]
        omega

theorem length_readKey (text : List Char) : (readKey text).2.length ≤ text.length := by
  unfold readKey
  split
  · split
    · rename_i h
      have := length_readKeyBody h
      simp only [List.length_cons]
      omega
    · simp
  · simp

theorem length_dropWhile_le (p : Char → Bool) (text : List Char) :
    (text.dropWhile p).length ≤ text.length :=
  (List.dropWhile_suffix p).length_le

theorem length_readAmount (text : List Char) : (readAmount text).2.length ≤ text.length := by
  unfold readAmount
  split
  · simp
  · exact length_dropWhile_le _ _

theorem length_readPrecision (text : List Char) :
    (readPrecision text).2.length ≤ text.length := by
  unfold readPrecision
  split
  · rename_i rest
    have := length_readAmount rest
    simp only [List.length_cons]
    omega
  · simp

theorem length_dropLength (text : List Char) : (dropLength text).length ≤ text.length := by
  unfold dropLength
  split <;> simp

theorem length_read (text : List Char) : (read text).2.length ≤ text.length := by
  have h₁ := length_readKey text
  have h₂ := length_dropWhile_le isFlag (readKey text).2
  have h₃ := length_readAmount ((readKey text).2.dropWhile isFlag)
  have h₄ := length_readPrecision (readAmount ((readKey text).2.dropWhile isFlag)).2
  have h₅ := length_dropLength (readPrecision (readAmount ((readKey text).2.dropWhile isFlag)).2).2
  simp only [read, List.length_tail]
  omega

end Directive

/-- The pieces of a text; `length` is the length of the template whose end the text is. -/
def Piece.readFrom (length : Nat) (text : List Char) : List Piece :=
  match text with
  | [] => []
  | '%' :: '%' :: rest => .plain '%' :: readFrom length rest
  | '%' :: rest =>
    .directive (Directive.read rest).1 (length - (Directive.read rest).2.length - 1)
      :: readFrom length (Directive.read rest).2
  | c :: rest => .plain c :: readFrom length rest
termination_by text.length
decreasing_by
  · simp only [List.length_cons]; omega
  · have := Directive.length_read rest
    simp only [List.length_cons]; omega
  · simp

def Piece.readAll (template : List Char) : List Piece :=
  Piece.readFrom template.length template

/-! ## Errors -/

/-- Why a template cannot be filled in. -/
inductive TemplateError
  /-- There are fewer arguments than directives. -/
  | tooFewArguments
  /-- There are more arguments than directives. -/
  | tooManyArguments
  /-- A key, but the arguments are no mapping. -/
  | mappingNeeded
  /-- A key without its closing parenthesis. -/
  | unclosedKey
  /-- A key that the mapping does not have. -/
  | missingKey (key : List Char)
  /-- An argument for a width or a precision that is no integer. -/
  | amountNotInteger
  /-- An argument for a width or a precision that does not fit a machine word. -/
  | amountOverflow
  /-- A width with too many digits. -/
  | widthTooBig
  /-- A precision with too many digits. -/
  | precisionTooBig
  /-- A directive without a conversion. -/
  | incomplete
  /-- A conversion that does not exist. -/
  | unknownConversion (c : Char) (position : Nat)
  /-- An argument of a decimal conversion that is no number. -/
  | numberNeeded (conversion : Char) (kind : String)
  /-- An argument of a conversion to octal or hexadecimal that is no integer. -/
  | integerNeeded (conversion : Char) (kind : String)
  /-- An argument of a floating-point conversion that is no number. -/
  | realNeeded (kind : String)
  /-- An argument of a character conversion that is neither a character nor a code. -/
  | characterNeeded
  /-- A code that no character has. -/
  | noCharacter
  /-- The number that is none, as an integer. -/
  | integerOfNan
  /-- An infinite number as an integer. -/
  | integerOfInfinity
  /-- An integer that is too large for a floating-point number. -/
  | realOverflow
  deriving DecidableEq, Repr

/-- The classes of template errors. -/
inductive TemplateError.Kind
  | wrongType | wrongValue | missingKey | overflow
  deriving DecidableEq, Repr

def TemplateError.kindOf : TemplateError → TemplateError.Kind
  | .unclosedKey | .widthTooBig | .precisionTooBig | .incomplete | .unknownConversion _ _
  | .integerOfNan => .wrongValue
  | .missingKey _ => .missingKey
  | .amountOverflow | .noCharacter | .integerOfInfinity | .realOverflow => .overflow
  | _ => .wrongType

/-- A conversion that does not exist, as it is shown. -/
def shownConversion (c : Char) : Char :=
  if 31 ≤ c.toNat ∧ c.toNat < 127 then c else '?'

def TemplateError.message : TemplateError → String
  | .tooFewArguments => "not enough arguments for format string"
  | .tooManyArguments => "not all arguments converted during string formatting"
  | .mappingNeeded => "format requires a mapping"
  | .unclosedKey => "incomplete format key"
  | .missingKey key => quoted key
  | .amountNotInteger => "* wants int"
  | .amountOverflow => "integer does not fit a width"
  | .widthTooBig => "width too big"
  | .precisionTooBig => "precision too big"
  | .incomplete => "incomplete format"
  | .unknownConversion c position =>
    let code := String.ofList (Nat.toDigits 16 c.toNat)
    s!"unsupported format character '{shownConversion c}' (0x{code}) at index {position}"
  | .numberNeeded c kind => s!"%{c} format: a real number is required, not {kind}"
  | .integerNeeded c kind => s!"%{c} format: an integer is required, not {kind}"
  | .realNeeded kind => s!"must be real number, not {kind}"
  | .characterNeeded => "%c requires int or char"
  | .noCharacter => "%c arg not in range(0x110000)"
  | .integerOfNan => "cannot convert float NaN to integer"
  | .integerOfInfinity => "cannot convert float infinity to integer"
  | .realOverflow => "int too large to convert to float"

/-! ## Arguments -/

/-- The arguments that are left: those of a list, or a mapping and the one value that the next
directive may take. -/
inductive Arguments
  | listed (rest : List Value)
  | keyed (mapping : Value) (next : Option Value)

namespace Arguments

/-- The arguments of a message.  A single argument that is a mapping with entries gives its entries
to keys. -/
def ofList : List Value → Arguments
  | [.mapping (entry :: rest)] =>
    .keyed (.mapping (entry :: rest)) (some (.mapping (entry :: rest)))
  | values => .listed values

def take : Arguments → Except TemplateError (Value × Arguments)
  | .listed [] => .error .tooFewArguments
  | .listed (value :: rest) => .ok (value, .listed rest)
  | .keyed _ none => .error .tooFewArguments
  | .keyed mapping (some value) => .ok (value, .keyed mapping none)

/-- The arguments once the key of a directive has been looked up. -/
def select (arguments : Arguments) : Key → Except TemplateError Arguments
  | .absent => .ok arguments
  | key =>
    match arguments with
    | .listed _ => .error .mappingNeeded
    | .keyed mapping _ =>
      match key with
      | .named key =>
        match mapping.get? (String.ofList key) with
        | some value => .ok (.keyed mapping (some value))
        | none => .error (.missingKey key)
      | _ => .error .unclosedKey

/-- Refuses arguments of a list that no directive took. -/
def finish : Arguments → Except TemplateError Unit
  | .listed (_ :: _) => .error .tooManyArguments
  | _ => .ok ()

end Arguments

/-! ## Conversions -/

/-- The greatest width, the greatest integer of a signed word of 64 bits. -/
def maxWidth : Nat := Nat.pow 2 63 - 1

/-- The greatest precision, the greatest integer of a signed word of 32 bits. -/
def maxPrecision : Nat := Nat.pow 2 31 - 1

def integer? : Value → Option Int
  | .integer n => some n
  | .bool b => some (if b then 1 else 0)
  | _ => none

/-- The integer that a decimal conversion writes for an argument: a number loses its fraction. -/
def wholeNumber (conversion : Char) (value : Value) : Except TemplateError Int :=
  match value with
  | .real .nan => .error .integerOfNan
  | .real (.infinite _) => .error .integerOfInfinity
  | .real (.finite negative mantissa exponent) =>
    .ok (Binary64.truncate negative mantissa exponent)
  | value =>
    match integer? value with
    | some n => .ok n
    | none => .error (.numberNeeded conversion value.kind)

/-- The integer that a conversion to octal or hexadecimal writes for an argument. -/
def exactInteger (conversion : Char) (value : Value) : Except TemplateError Int :=
  match integer? value with
  | some n => .ok n
  | none => .error (.integerNeeded conversion value.kind)

/-- The number that a floating-point conversion writes for an argument. -/
def realNumber (value : Value) : Except TemplateError Binary64 :=
  match value with
  | .real x => .ok x
  | value =>
    match integer? value with
    | none => .error (.realNeeded value.kind)
    | some n =>
      match Binary64.ofInt n with
      | .infinite _ => .error .realOverflow
      | x => .ok x

/-- The character that a character conversion writes for an argument. -/
def character (value : Value) : Except TemplateError Char :=
  match value with
  | .text s =>
    match s.toList with
    | [c] => .ok c
    | _ => .error .characterNeeded
  | value =>
    match integer? value with
    | none => .error .characterNeeded
    | some n =>
      if n < 0 ∨ 0x10FFFF < n then .error .noCharacter else .ok (Char.ofNat n.toNat)

/-- A converted argument before it is filled up to its width: a text as it is, or the parts of a
number. -/
inductive Converted
  | text (text : List Char)
  | number (negative : Bool) (mark digits : List Char)

/-- The digits of an integer, filled up with zeros to the precision. -/
def integerDigits (base : Nat) (precision : Option Nat) (n : Int) : List Char :=
  padLeft (precision.getD 0) '0' (Nat.toDigits base n.natAbs)

def capital (text : List Char) : List Char :=
  text.map Char.toUpper

/-- A floating-point number in the notation of its conversion, six places by default. -/
def realDigits (conversion : Char) (full : Bool) (precision : Option Nat) :
    Binary64 → Bool × List Char
  | .nan => (false, ['n', 'a', 'n'])
  | .infinite negative => (negative, ['i', 'n', 'f'])
  | .finite negative mantissa exponent =>
    let places := precision.getD 6
    let digits := match conversion with
      | 'e' => scientificText full places mantissa exponent
      | 'f' => fixedText full places mantissa exponent
      | _ => generalText full places mantissa exponent
    (negative, digits)

/-- A text cut off after as many characters as the precision says. -/
def cut (precision : Option Nat) (text : List Char) : Converted :=
  match precision with
  | some n => .text (text.take n)
  | none => .text text

/-- The mark in front of the digits of another base. -/
def baseMark (full : Bool) (letter : Char) : List Char :=
  if full then ['0', letter] else []

def convert (conversion : Char) (position : Nat) (full : Bool) (precision : Option Nat)
    (value : Value) : Except TemplateError Converted :=
  match conversion with
  | 's' => .ok (cut precision value.plain.toList)
  | 'r' => .ok (cut precision value.display.toList)
  | 'a' => .ok (cut precision (escapeBeyondAscii value.display.toList))
  | 'd' | 'i' | 'u' => do
    let n ← wholeNumber conversion value
    return .number (n < 0) [] (integerDigits 10 precision n)
  | 'o' => do
    let n ← exactInteger conversion value
    return .number (n < 0) (baseMark full 'o') (integerDigits 8 precision n)
  | 'x' => do
    let n ← exactInteger conversion value
    return .number (n < 0) (baseMark full 'x') (integerDigits 16 precision n)
  | 'X' => do
    let n ← exactInteger conversion value
    return .number (n < 0) (baseMark full 'X') (capital (integerDigits 16 precision n))
  | 'e' | 'f' | 'g' => do
    let (negative, digits) := realDigits conversion full precision (← realNumber value)
    return .number negative [] digits
  | 'E' | 'F' | 'G' => do
    let (negative, digits) := realDigits conversion.toLower full precision (← realNumber value)
    return .number negative [] (capital digits)
  | 'c' => return .text [← character value]
  | c => .error (.unknownConversion c position)

/-- The sign of a number: a minus sign, or what the flags ask for. -/
def signText (flags : List Char) (negative : Bool) : List Char :=
  if negative then ['-'] else if flags.contains '+' then ['+']
  else if flags.contains ' ' then [' '] else []

/-- A converted argument filled up to its width: on the right if the flags say so, with zeros before
the digits of a number if they say that, else with blanks on the left. -/
def fill (flags : List Char) (width : Nat) (converted : Converted) : List Char :=
  match converted with
  | .text text =>
    if flags.contains '-' then padRight width ' ' text else padLeft width ' ' text
  | .number negative mark digits =>
    let head := signText flags negative ++ mark
    if flags.contains '-' then padRight width ' ' (head ++ digits)
    else if flags.contains '0' then head ++ padLeft (width - head.length) '0' digits
    else padLeft width ' ' (head ++ digits)

/-! ## Filling in -/

/-- A width or precision from the arguments; `limit` is the greatest that fits. -/
def Arguments.takeAmount (arguments : Arguments) (limit : Nat) :
    Except TemplateError (Int × Arguments) := do
  let (value, after) ← arguments.take
  match integer? value with
  | none => throw .amountNotInteger
  | some n => if (limit : Int) < n ∨ n < -(limit : Int) - 1 then throw .amountOverflow else
    return (n, after)

/-- The width of a directive, the flags with it and the arguments after it.  A negative width puts
the blanks on the right. -/
def Directive.resolveWidth (d : Directive) (arguments : Arguments) :
    Except TemplateError (Nat × List Char × Arguments) := do
  match d.width with
  | .unset => return (0, d.flags, arguments)
  | .fixed n => if maxWidth < n then throw .widthTooBig else return (n, d.flags, arguments)
  | .argument =>
    let (n, after) ← arguments.takeAmount maxWidth
    return (n.natAbs, if n < 0 then '-' :: d.flags else d.flags, after)

/-- The precision of a directive and the arguments after it.  A negative precision is zero. -/
def Directive.resolvePrecision (d : Directive) (arguments : Arguments) :
    Except TemplateError (Option Nat × Arguments) := do
  match d.precision with
  | .unset => return (none, arguments)
  | .fixed n =>
    if maxPrecision < n then throw .precisionTooBig else return (some n, arguments)
  | .argument =>
    let (n, after) ← arguments.takeAmount maxPrecision
    return (some n.toNat, after)

/-- A directive filled in, and the arguments that are left. -/
def Directive.render (d : Directive) (position : Nat) (arguments : Arguments) :
    Except TemplateError (List Char × Arguments) := do
  let arguments ← arguments.select d.key
  let (width, flags, arguments) ← d.resolveWidth arguments
  let (precision, arguments) ← d.resolvePrecision arguments
  match d.conversion with
  | none => throw .incomplete
  | some conversion =>
    let (value, arguments) ← arguments.take
    let converted ← convert conversion position (flags.contains '#') precision value
    return (fill flags width converted, arguments)

/-- A piece filled in, and the arguments that are left. -/
def Piece.render (arguments : Arguments) :
    Piece → Except TemplateError (List Char × Arguments)
  | .plain c => .ok ([c], arguments)
  | .directive d position => d.render position arguments

def Piece.renderAll (arguments : Arguments) : List Piece → Except TemplateError (List Char)
  | [] => do
    arguments.finish
    return []
  | piece :: rest => do
    let (text, arguments) ← piece.render arguments
    return text ++ (← Piece.renderAll arguments rest)

/-- A template with its arguments; without arguments it stands for itself. -/
def fillTemplate (template : List Char) (arguments : List Value) :
    Except TemplateError (List Char) :=
  if arguments.isEmpty then .ok template
  else Piece.renderAll (.ofList arguments) (Piece.readAll template)

end CronSchedule.Log
