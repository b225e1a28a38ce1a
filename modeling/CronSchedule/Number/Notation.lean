import CronSchedule.Number.Decimal

/-!
# Floating-point numbers in a chosen notation

A finite magnitude can be written with a fixed number of places, with one digit before the point and
an exponent, or in whichever of the two suits its size.

* `fixedText` — with a fixed number of places.
* `scientificText` — with an exponent.
* `generalText` — with a number of significant digits, in positional notation unless the number is
  below `0.0001` or has more digits before the point than are wanted.

With `full` the point is written even if nothing follows it, and the general notation keeps the
zeros at its end.
-/

namespace CronSchedule

open Text

def withPoint (full : Bool) (whole fraction : List Char) : List Char :=
  if fraction.isEmpty && !full then whole else whole ++ '.' :: fraction

def dropLastZeros (digits : List Char) : List Char :=
  (digits.reverse.dropWhile (· == '0')).reverse

def fixedText (full : Bool) (places mantissa : Nat) (exponent : Int) : List Char :=
  let digits := padLeft (places + 1) '0' (Nat.toDigits 10 (fixedDigits mantissa exponent places))
  let split := digits.length - places
  withPoint full (digits.take split) (digits.drop split)

/-- The significant digits of a magnitude and the order of the first one; zero has order one. -/
def significantDigits (count mantissa : Nat) (exponent : Int) : List Char × Int :=
  if mantissa = 0 then (List.replicate count '0', 1)
  else
    let (digits, order) := scientificDigits mantissa exponent count
    (Nat.toDigits 10 digits, order)

/-- Digits with a point after the first one, and its power of ten. -/
def digitsWithExponent (full : Bool) (digits : List Char) (order : Int) : List Char :=
  withPoint full (digits.take 1) (digits.drop 1) ++ exponentText 'e' (order - 1)

/-- A magnitude with one digit before the point and an exponent. -/
def scientificText (full : Bool) (places mantissa : Nat) (exponent : Int) : List Char :=
  let (digits, order) := significantDigits (places + 1) mantissa exponent
  digitsWithExponent full digits order

def generalText (full : Bool) (places mantissa : Nat) (exponent : Int) : List Char :=
  let count := max places 1
  let (digits, order) := significantDigits count mantissa exponent
  let kept := fun digits => if full then digits else dropLastZeros digits
  if -4 < order ∧ order ≤ count then
    let shifted := List.replicate (1 - order).toNat '0' ++ digits
    let split := (max order 1).toNat
    withPoint full (shifted.take split) (kept (shifted.drop split))
  else
    let digits := digits.take 1 ++ kept (digits.drop 1)
    digitsWithExponent full digits order

end CronSchedule
