/-!
# Binary floating-point numbers of 64 bits

Numbers as the interchange format of 64 bits can hold them, kept as exact values: a mantissa below
`2 ^ 53` times a power of two.  Everything is done in natural numbers, so a result can be computed
inside a proof.

* `Binary64` — the numbers, with the infinities and the number that is none.
* `roundDiv` — a quotient rounded to the nearest integer, a tie to the even one.
* `Binary64.ofRatio` — the number nearest to a quotient.
* `Binary64.ofDecimal` — the number nearest to a decimal.
* `Binary64.truncate` — the integer part.
* `Binary64.add`, `Binary64.mul` — the number nearest to a sum and to a product.
-/

namespace CronSchedule

/-- A floating-point number.  A finite one is `mantissa * 2 ^ exponent`, with its sign. -/
inductive Binary64
  | nan
  | infinite (negative : Bool)
  | finite (negative : Bool) (mantissa : Nat) (exponent : Int)
  deriving DecidableEq, Repr

/-- The quotient of two numbers, rounded to the nearest integer; a tie goes to the even one. -/
def roundDiv (numerator denominator : Nat) : Nat :=
  let quotient := numerator / denominator
  let remainder := numerator % denominator
  if denominator < 2 * remainder ∨ (denominator = 2 * remainder ∧ quotient % 2 = 1) then
    quotient + 1
  else quotient

namespace Binary64

/-- The least exponent of a finite number. -/
def minExponent : Int := -1074

/-- The greatest exponent of a finite number. -/
def maxExponent : Int := 971

/-- A quotient times a power of two, as a quotient again. -/
def scale (numerator denominator : Nat) (power : Int) : Nat × Nat :=
  if power < 0 then (numerator, denominator * Nat.pow 2 power.natAbs)
  else (numerator * Nat.pow 2 power.natAbs, denominator)

/-- The greatest power of two that does not exceed a positive quotient. -/
def logRatio (numerator denominator : Nat) : Int :=
  let guess : Int := (numerator.log2 : Int) - denominator.log2
  let (n, d) := scale numerator denominator (-guess)
  if d ≤ n then guess else guess - 1

/-- The number nearest to a quotient; a tie goes to the even mantissa, and what is too large becomes
infinite. -/
def ofRatio (negative : Bool) (numerator denominator : Nat) : Binary64 :=
  if numerator = 0 then .finite negative 0 minExponent
  else
    let exponent := max (logRatio numerator denominator - 52) minExponent
    let (n, d) := scale numerator denominator (-exponent)
    let mantissa := roundDiv n d
    let (mantissa, exponent) :=
      if mantissa = Nat.pow 2 53 then (Nat.pow 2 52, exponent + 1) else (mantissa, exponent)
    if maxExponent < exponent then .infinite negative else .finite negative mantissa exponent

/-- The number nearest to `digits * 10 ^ power`.  A decimal that is certainly too large or too small
is not worked out. -/
def ofDecimal (negative : Bool) (digits : Nat) (power : Int) : Binary64 :=
  let order : Int := (Nat.toDigits 10 digits).length + power
  if digits = 0 ∨ order < -330 then .finite negative 0 minExponent
  else if 310 < order then .infinite negative
  else if power < 0 then ofRatio negative digits (Nat.pow 10 power.natAbs)
  else ofRatio negative (digits * Nat.pow 10 power.natAbs) 1

def ratio (mantissa : Nat) (exponent : Int) : Nat × Nat :=
  scale mantissa 1 exponent

def withSign (negative : Bool) (magnitude : Nat) : Int :=
  if negative then -(magnitude : Int) else (magnitude : Int)

def truncate (negative : Bool) (mantissa : Nat) (exponent : Int) : Int :=
  let (n, d) := ratio mantissa exponent
  withSign negative (n / d)

def neg : Binary64 → Binary64
  | .nan => .nan
  | .infinite negative => .infinite !negative
  | .finite negative mantissa exponent => .finite (!negative) mantissa exponent

def isZero : Binary64 → Bool
  | .finite _ 0 _ => true
  | _ => false

def isNegative : Binary64 → Bool
  | .nan => false
  | .infinite negative => negative
  | .finite negative _ _ => negative

def mul (x y : Binary64) : Binary64 :=
  match x, y with
  | .finite a m e, .finite b n f =>
    let (numerator, denominator) := scale (m * n) 1 (e + f)
    ofRatio (a != b) numerator denominator
  | x, y =>
    if x = .nan || y = .nan || x.isZero || y.isZero then .nan
    else .infinite (x.isNegative != y.isNegative)

/-- The number nearest to a sum.  A sum of zero is positive unless both numbers are negative. -/
def add (x y : Binary64) : Binary64 :=
  match x, y with
  | .finite a m e, .finite b n f =>
    let least := min e f
    let left := withSign a (m * Nat.pow 2 (e - least).toNat)
    let right := withSign b (n * Nat.pow 2 (f - least).toNat)
    let sum := left + right
    let (numerator, denominator) := scale sum.natAbs 1 least
    ofRatio (if sum = 0 then a && b else decide (sum < 0)) numerator denominator
  | .nan, _ | _, .nan => .nan
  | .infinite a, .infinite b => if a = b then .infinite a else .nan
  | .infinite a, _ | _, .infinite a => .infinite a

def ofInt (n : Int) : Binary64 :=
  ofRatio (n < 0) n.natAbs 1

end Binary64

end CronSchedule
