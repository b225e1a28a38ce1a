import CronSchedule.Calendar.Instant
import CronSchedule.Number.Binary64

/-!
# Instants by their seconds since 1970

A number of seconds since the first instant of 1970 in universal time, with a fraction rounded to
the microsecond, a tie going to the even one.

* `splitSeconds` — the whole seconds and the microseconds of a floating-point number.
* `EpochError` — why a number of seconds is no instant.
* `Instant.ofEpoch?` — the instant, in universal time.
-/

namespace CronSchedule.Calendar

/-! ## Seconds -/

/-- Why a number of seconds is no instant. -/
inductive EpochError
  /-- It is no number. -/
  | notANumber
  /-- It does not fit a signed word of 64 bits. -/
  | beyondClock
  /-- Its year, counted from 1900, does not fit a signed word of 32 bits. -/
  | beyondCalendar
  /-- Its year is none of 1 to 9999. -/
  | calendar (e : CalendarError)
  deriving DecidableEq, Repr

def EpochError.message : EpochError → String
  | .notANumber => "Invalid value NaN (not a number)"
  | .beyondClock => "number of seconds does not fit a clock"
  | .beyondCalendar => "number of seconds does not fit a calendar"
  | .calendar e => e.message

/-- The microseconds of the fraction of a finite magnitude: the fraction times a million as a
floating-point number, rounded. -/
def fractionMicros (mantissa : Nat) (exponent : Int) : Nat :=
  let (n, d) := Binary64.ratio mantissa exponent
  match Binary64.ofRatio false (n % d * 1000000) d with
  | .finite _ m e =>
    let (n, d) := Binary64.ratio m e
    roundDiv n d
  | _ => 0

/-- The whole seconds and the microseconds from 0 to 999999 of a finite number. -/
def splitSeconds (negative : Bool) (mantissa : Nat) (exponent : Int) : Int × Nat :=
  let whole := Binary64.truncate negative mantissa exponent
  let micros := fractionMicros mantissa exponent
  if micros = 0 then (whole, 0)
  else if negative then
    (if 1000000 ≤ micros then (whole - 1, micros - 1000000) else (whole - 1, 1000000 - micros))
  else if 1000000 ≤ micros then (whole + 1, micros - 1000000)
  else (whole, micros)

/-! ## Instants -/

/-- The instant of a number of whole seconds and microseconds. -/
def Instant.ofSeconds? (seconds : Int) (micros : Nat) : Except EpochError Instant := do
  if seconds < -Int.pow 2 63 ∨ Int.pow 2 63 ≤ seconds then throw .beyondClock
  let (year, month, day) := dateOfNumber (dayNumber 1970 1 1 + seconds / 86400)
  if !fitsWord (year - 1900) then throw .beyondCalendar
  let ofDay := seconds % 86400
  let clock : WallClock := ⟨Int.bmod year (Nat.pow 2 32), month, day, ofDay / 3600, ofDay / 60 % 60,
    ofDay % 60⟩
  match clock.check with
  | .ok clock => return ⟨clock, micros, some 0⟩
  | .error e => throw (.calendar e)

def Instant.ofEpoch? : Binary64 → Except EpochError Instant
  | .nan => .error .notANumber
  | .infinite _ => .error .beyondClock
  | .finite negative mantissa exponent =>
    let (seconds, micros) := splitSeconds negative mantissa exponent
    Instant.ofSeconds? seconds micros

end CronSchedule.Calendar
