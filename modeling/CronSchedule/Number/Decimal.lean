import CronSchedule.Number.Binary64
import CronSchedule.Text.Numeral

/-!
# Decimal text of floating-point numbers

* `shortestDigits` — the fewest digits that read back as the same number, and of those the nearest
  to it.
* `Binary64.display` — a number by its shortest digits: positional from `0.0001` up to below
  `10 ^ 16`, with an exponent of at least two digits elsewhere.
* `fixedDigits`, `scientificDigits` — a number rounded to given places, a tie going to the even
  digit.

Digits are returned as a natural number together with the power of ten of the first digit.
-/

namespace CronSchedule

open Text

/-! ## Digits -/

/-- The greatest `k` with `10 ^ (k - 1) ≤ numerator / denominator`, by search from an upper bound:
the number of digits before the decimal point of a positive quotient. -/
def decimalOrder (numerator denominator : Nat) : Int :=
  let guess : Int :=
    (Nat.toDigits 10 numerator).length - (Nat.toDigits 10 denominator).length
  -- The guess is exact or one too small.
  let reached :=
    if guess < 0 then denominator ≤ numerator * Nat.pow 10 guess.natAbs
    else denominator * Nat.pow 10 guess.natAbs ≤ numerator
  if reached then guess + 1 else guess

/-- A quotient times a power of ten, as a quotient again. -/
def scaleTen (numerator denominator : Nat) (power : Int) : Nat × Nat :=
  if power < 0 then (numerator, denominator * Nat.pow 10 power.natAbs)
  else (numerator * Nat.pow 10 power.natAbs, denominator)

/-- The decimal with `count` digits that reads back as the given number and is nearest to it, if
one of the two neighbours of the number on that grid reads back at all. -/
def readsBack? (mantissa : Nat) (exponent : Int) (order : Int) (count : Nat) : Option Nat :=
  let (numerator, denominator) := Binary64.ratio mantissa exponent
  let (n, d) := scaleTen numerator denominator (count - order)
  let low := n / d
  let same := fun candidate =>
    Binary64.ofDecimal false candidate (order - count) == .finite false mantissa exponent
  match same low, same (low + 1) with
  | true, true => some (roundDiv n d)
  | true, false => some low
  | false, true => some (low + 1)
  | false, false => none

/-- The fewest digits that read back as a positive number, with the order of the first one.
Seventeen digits always suffice. -/
def shortestDigits (mantissa : Nat) (exponent : Int) : Nat × Int :=
  let (numerator, denominator) := Binary64.ratio mantissa exponent
  let order := decimalOrder numerator denominator
  match (List.range 17).findSome? fun count => (readsBack? mantissa exponent order (count + 1)).map
      fun digits => (digits, count + 1) with
  | some (digits, count) =>
    -- The upper neighbour may be the next power of ten.
    if digits = Nat.pow 10 count then (1, order + 1) else (digits, order)
  | none => (0, order)

/-- A positive number rounded to `places` digits after the point, as a multiple of the last
place. -/
def fixedDigits (mantissa : Nat) (exponent : Int) (places : Nat) : Nat :=
  let (numerator, denominator) := Binary64.ratio mantissa exponent
  roundDiv (numerator * Nat.pow 10 places) denominator

/-- A positive number rounded to `count` significant digits, with the order of the first one. -/
def scientificDigits (mantissa : Nat) (exponent : Int) (count : Nat) : Nat × Int :=
  let (numerator, denominator) := Binary64.ratio mantissa exponent
  let order := decimalOrder numerator denominator
  let (n, d) := scaleTen numerator denominator (count - order)
  let digits := roundDiv n d
  if digits = Nat.pow 10 count then (Nat.pow 10 (count - 1), order + 1) else (digits, order)

/-! ## Text -/

/-- Digits with a decimal point after the first `order` of them, filled up with zeros. -/
def positional (digits : List Char) (order : Int) : List Char :=
  if order ≤ 0 then '0' :: '.' :: List.replicate order.natAbs '0' ++ digits
  else
    let whole := padRight order.toNat '0' (digits.take order.toNat)
    let fraction := digits.drop order.toNat
    whole ++ '.' :: (if fraction.isEmpty then ['0'] else fraction)

/-- An exponent with its sign and at least two digits. -/
def exponentText (mark : Char) (power : Int) : List Char :=
  mark :: (if power < 0 then '-' else '+') :: padLeft 2 '0' (Nat.toDigits 10 power.natAbs)

/-- Digits with a point after the first one, and the power of ten of that one. -/
def scientific (mark : Char) (digits : List Char) (order : Int) : List Char :=
  let fraction := digits.drop 1
  digits.take 1 ++ (if fraction.isEmpty then [] else '.' :: fraction)
    ++ exponentText mark (order - 1)

namespace Binary64

def display : Binary64 → List Char
  | .nan => ['n', 'a', 'n']
  | .infinite negative => (if negative then ['-'] else []) ++ ['i', 'n', 'f']
  | .finite negative mantissa exponent =>
    let magnitude :=
      if mantissa = 0 then ['0', '.', '0']
      else
        let (digits, order) := shortestDigits mantissa exponent
        let digits := Nat.toDigits 10 digits
        if -4 < order ∧ order ≤ 16 then positional digits order
        else scientific 'e' digits order
    (if negative then ['-'] else []) ++ magnitude

end Binary64

end CronSchedule
