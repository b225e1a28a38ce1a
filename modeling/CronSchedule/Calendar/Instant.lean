import CronSchedule.Calendar.WallClock
import CronSchedule.Text.Numeral

/-!
# Instants

An instant is a wall clock with microseconds and, if its text gave one, an offset from universal
time.  Nothing here converts between offsets: a search works on the wall clock and carries the
offset along.

* `Instant` — the clock, its microseconds and its offset.
* `Instant.toIso` — the text `YYYY-MM-DDTHH:MM:SS[.ffffff][offset]`.
* `offsetText` — an offset as hours and minutes, with seconds and microseconds only if they differ
  from zero.
-/

namespace CronSchedule.Calendar

open CronSchedule.Text

/-- A wall clock with microseconds, and the microseconds by which it is ahead of universal time
(`none` if its offset is not known). -/
structure Instant where
  clock : WallClock
  micros : Nat
  offset : Option Int
  deriving DecidableEq, Repr

/-- A natural number with at least `width` digits. -/
def zeroPadded (width : Nat) (n : Nat) : List Char :=
  padLeft width '0' (Nat.toDigits 10 n)

/-- The time text `HH<separator>MM`, followed by the seconds and the microseconds where they are
needed. -/
def offsetDigits (separator : List Char) (micros : Nat) : List Char :=
  let seconds := micros / 1000000
  let hoursMinutes :=
    zeroPadded 2 (seconds / 3600) ++ separator ++ zeroPadded 2 (seconds / 60 % 60)
  if micros % 60000000 = 0 then hoursMinutes
  else
    let toSeconds := hoursMinutes ++ separator ++ zeroPadded 2 (seconds % 60)
    if micros % 1000000 = 0 then toSeconds
    else toSeconds ++ '.' :: zeroPadded 6 (micros % 1000000)

def offsetText (separator : List Char) (offset : Int) : List Char :=
  (if offset < 0 then '-' else '+') :: offsetDigits separator offset.natAbs

namespace Instant

/-- The text of an instant; microseconds appear only if they differ from zero. -/
def toIso (t : Instant) : List Char :=
  let c := t.clock
  let date :=
    zeroPadded 4 c.year.toNat ++ '-' :: zeroPadded 2 c.month.toNat ++ '-' ::
      zeroPadded 2 c.day.toNat
  let time :=
    zeroPadded 2 c.hour.toNat ++ ':' :: zeroPadded 2 c.minute.toNat ++ ':' ::
      zeroPadded 2 c.second.toNat
  let fraction := if t.micros = 0 then [] else '.' :: zeroPadded 6 t.micros
  let zone := match t.offset with
    | none => []
    | some offset => offsetText [':'] offset
  date ++ 'T' :: time ++ fraction ++ zone

def toIsoString (t : Instant) : String :=
  String.ofList t.toIso

/-- The instant with the given clock, on the whole second and with the same offset. -/
def withClock (t : Instant) (c : WallClock) : Instant :=
  ⟨c, 0, t.offset⟩

end Instant

end CronSchedule.Calendar
