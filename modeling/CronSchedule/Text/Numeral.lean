import CronSchedule.Text.Blank

/-!
# Decimal numerals

* `isDigit`, `digitValue`, `ofDigits` — ASCII digits and the number that a run of them denotes.
* `maxDigits` — the longest run of digits that is read as a number.
* `Overlong` — the outcome for a longer run.
* `readDigits` — the number of a run of ASCII digits, refusing an overlong one.
* `readInteger` — an integer as a setting may spell it: blanks around it, a sign, digits of any
  script, and single underscores between digits.
* `ofInt` — the decimal text of an integer.
-/

namespace CronSchedule.Text

/-! ## Digits -/

/-- Whether a character is one of the digits `0` to `9`. -/
def isDigit (c : Char) : Bool :=
  '0' ≤ c && c ≤ '9'

def digitValue (c : Char) : Nat :=
  c.toNat - '0'.toNat

/-- Whether a text is a numeral: at least one digit and nothing else. -/
def isNumeral (text : List Char) : Bool :=
  !text.isEmpty && text.all isDigit

def ofDigits (digits : List Char) : Nat :=
  digits.foldl (fun n c => 10 * n + digitValue c) 0

/-- The most digits that are read as a number. -/
def maxDigits : Nat := 4300

/-- A numeral with more than `maxDigits` digits. -/
structure Overlong where
  digits : Nat
  deriving DecidableEq, Repr

def Overlong.message (o : Overlong) : String :=
  s!"Exceeds the limit ({maxDigits} digits) for integer string conversion: value has "
    ++ s!"{o.digits} digits; use sys.set_int_max_str_digits() to increase the limit"

/-- The number of a run of digits, if it is not overlong. -/
def readDigits (digits : List Char) : Except Overlong Nat :=
  if maxDigits < digits.length then .error ⟨digits.length⟩ else .ok (ofDigits digits)

def ofInt (n : Int) : List Char :=
  if n < 0 then '-' :: Nat.toDigits 10 n.natAbs else Nat.toDigits 10 n.natAbs

/-! ## Integers in settings -/

/-- The zeros of the decimal digits of Unicode 14; each is followed by the other nine digits of
its script. -/
def digitZeros : List Nat :=
  [48, 0x660, 0x6f0, 0x7c0, 0x966, 0x9e6, 0xa66, 0xae6, 0xb66, 0xbe6, 0xc66, 0xce6, 0xd66, 0xde6,
   0xe50, 0xed0, 0xf20, 0x1040, 0x1090, 0x17e0, 0x1810, 0x1946, 0x19d0, 0x1a80, 0x1a90, 0x1b50,
   0x1bb0, 0x1c40, 0x1c50, 0xa620, 0xa8d0, 0xa900, 0xa9d0, 0xa9f0, 0xaa50, 0xabf0, 0xff10,
   0x104a0, 0x10d30, 0x11066, 0x110f0, 0x11136, 0x111d0, 0x112f0, 0x11450, 0x114d0, 0x11650,
   0x116c0, 0x11730, 0x118e0, 0x11950, 0x11c50, 0x11d50, 0x11da0, 0x16a60, 0x16ac0, 0x16b50,
   0x1d7ce, 0x1d7d8, 0x1d7e2, 0x1d7ec, 0x1d7f6, 0x1e140, 0x1e2f0, 0x1e950, 0x1fbf0]

/-- The value of a decimal digit of any script. -/
def anyDigitValue? (c : Char) : Option Nat :=
  (digitZeros.find? fun first => first ≤ c.toNat && c.toNat < first + 10).map (c.toNat - ·)

/-- The values of digits of any script with single underscores between them. -/
def digitGroup? : List Char → Option (List Nat)
  | [] => none
  | [c] => (anyDigitValue? c).map ([·])
  | c :: '_' :: rest => do return (← anyDigitValue? c) :: (← digitGroup? rest)
  | c :: rest => do return (← anyDigitValue? c) :: (← digitGroup? rest)

/-- Whether a blank may stand around the integer of a setting: all but the four information
separators. -/
def isMargin (c : Char) : Bool :=
  isBlank c && !(0x1C ≤ c.toNat && c.toNat ≤ 0x1F)

/-- The integer that a text spells, or `none` if it spells none or has more than `maxDigits`
digits. -/
def readInteger (text : List Char) : Option Int := do
  let inner := ((text.dropWhile isMargin).reverse.dropWhile isMargin).reverse
  let (negative, body) : Bool × List Char := match inner with
    | '-' :: rest => (true, rest)
    | '+' :: rest => (false, rest)
    | rest => (false, rest)
  let digits ← digitGroup? body
  if maxDigits < digits.length then none
  else
    let n : Nat := digits.foldl (fun n d => 10 * n + d) 0
    return if negative then -(n : Int) else (n : Int)

end CronSchedule.Text
