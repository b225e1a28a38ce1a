import CronSchedule.Expression.Term
import CronSchedule.Proofs.Text.Digits
import CronSchedule.Proofs.Text.Split
import CronSchedule.Proofs.ValueSet

/-!
# The language of a field

What a text says in a field, stated by rules and without a reading order.  A field is a wildcard, a
marker on its own, or a list of terms; a list means the union of what its terms mean.

* `IsValue` — a numeral in the range of the field, or one of its names.
* `TermValues` — the values of a term: `*`, `v`, `a-b`, `*/s`, `v/s` or `a-b/s`.
* `MarkerDenotes` — the constraint of a marker: `?`, `L`, `LW`, `L-n`, `nW`, `vL` or `v#n`.
* `FieldDenotes` — the constraint of the text of a field.
-/

namespace CronSchedule.Expression

open Text

/-! ## Values and terms -/

/-- The text of a value of a field. -/
inductive IsValue (field : Field) : List Char → Int → Prop
  /-- A decimal numeral in the range of the field; leading zeros do not count. -/
  | numeral {digits : List Char} (hdigits : isNumeral digits = true)
      (hrange : field.contains (ofDigits digits) = true) : IsValue field digits (ofDigits digits)
  /-- A name of the field. -/
  | name {text : List Char} {value : Int} (hname : (text, value) ∈ field.names) :
      IsValue field text value

/-- The text of a step: a numeral that denotes at least one. -/
structure IsStep (text : List Char) (step : Nat) : Prop where
  numeral : isNumeral text = true
  value : ofDigits text = step
  pos : 1 ≤ step

/-- The text of a range with its first and its last value. -/
inductive IsRange (field : Field) : List Char → Int → Int → Prop
  | mk {a b : List Char} {first last : Int} (hfirst : IsValue field a first)
      (hlast : IsValue field b last) (hle : first ≤ last) :
      IsRange field (a ++ '-' :: b) first last

/-- The values that a term of a list denotes. -/
inductive TermValues (field : Field) : List Char → Set Int → Prop
  | every : TermValues field ['*'] (Set.Icc field.low field.high)
  | value {text : List Char} {value : Int} (h : IsValue field text value) :
      TermValues field text {value}
  | range {text : List Char} {first last : Int} (h : IsRange field text first last) :
      TermValues field text (Set.Icc first last)
  | everyStep {text : List Char} {step : Nat} (h : IsStep text step) :
      TermValues field ('*' :: '/' :: text) (stepsUpTo field.low step field.high)
  | valueStep {base text : List Char} {value : Int} {step : Nat} (hbase : IsValue field base value)
      (h : IsStep text step) :
      TermValues field (base ++ '/' :: text) (stepsUpTo value step field.high)
  | rangeStep {base text : List Char} {first last : Int} {step : Nat}
      (hbase : IsRange field base first last) (h : IsStep text step) :
      TermValues field (base ++ '/' :: text) (stepsUpTo first step last)

/-! ## Markers and fields -/

/-- The constraint that a marker denotes.  A marker belongs to one of the day fields or to both. -/
inductive MarkerDenotes : Field → List Char → Constraint → Prop
  | unspecified {field : Field} (h : field.isDay = true) :
      MarkerDenotes field ['?'] .unspecified
  | lastDay : MarkerDenotes .dayOfMonth ['L'] (.rule (.lastDay 0))
  | lastWorkday : MarkerDenotes .dayOfMonth ['L', 'W'] (.rule .lastWorkday)
  | beforeLastDay {digits : List Char} (hdigits : isNumeral digits = true)
      (hle : ofDigits digits ≤ 30) :
      MarkerDenotes .dayOfMonth ('L' :: '-' :: digits) (.rule (.lastDay (ofDigits digits)))
  | nearestWorkday {text : List Char} {day : Int} (h : IsValue .dayOfMonth text day) :
      MarkerDenotes .dayOfMonth (text ++ ['W']) (.rule (.nearestWorkday day))
  | saturday : MarkerDenotes .dayOfWeek ['L'] (.values (.single 7))
  | lastWeekday {text : List Char} {weekday : Int} (h : IsValue .dayOfWeek text weekday) :
      MarkerDenotes .dayOfWeek (text ++ ['L']) (.rule (.lastWeekday weekday))
  | nthWeekday {text digits : List Char} {weekday : Int} (h : IsValue .dayOfWeek text weekday)
      (hdigits : isNumeral digits = true) (hpos : 1 ≤ ofDigits digits) (hle : ofDigits digits ≤ 5) :
      MarkerDenotes .dayOfWeek (text ++ '#' :: digits)
        (.rule (.nthWeekday weekday (ofDigits digits)))

/-- The constraint that the text of a field denotes. -/
inductive FieldDenotes (field : Field) : List Char → Constraint → Prop
  /-- A single `*`: all values, with the mark of the wildcard. -/
  | wildcard {set : ValueSet} (hmark : set.wildcard = true)
      (hset : set.toSet = Set.Icc field.low field.high) : FieldDenotes field ['*'] (.values set)
  /-- A single marker. -/
  | marker {text : List Char} {constraint : Constraint}
      (h : MarkerDenotes field text constraint) : FieldDenotes field text constraint
  /-- Terms with commas between them, other than a single `*`: the union of their values. -/
  | list {terms : List (List Char)} {sets : List (Set Int)} {set : ValueSet} (hne : terms ≠ [])
      (hstar : terms ≠ [['*']]) (hterms : List.Forall₂ (TermValues field) terms sets)
      (hmark : set.wildcard = false) (hset : set.toSet = {v | ∃ s ∈ sets, v ∈ s}) :
      FieldDenotes field (joinWith [','] terms) (.values set)

end CronSchedule.Expression
