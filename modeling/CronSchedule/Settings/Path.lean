import CronSchedule.Text.RawText

/-!
# Paths of files

* `normalPath` — a path without empty parts and without `.` as a part; an empty path is `.`.
* `lowerSuffix` — what follows the last point of the name, with the point and in lower case.
-/

namespace CronSchedule

open Text

/-! ## Parts -/

/-- The code of a slash. -/
def slash : Nat := 0x2F

/-- The code of a point. -/
def point : Nat := 0x2E

/-- What stands in front of the first part of a path: nothing, a slash, or exactly two slashes. -/
def pathRoot (path : List Nat) : List Nat :=
  match (path.takeWhile (· == slash)).length with
  | 0 => []
  | 2 => [slash, slash]
  | _ => [slash]

def pathParts (path : List Nat) : List (List Nat) :=
  (path.splitOn slash).filter fun part => !part.isEmpty && part != [point]

/-! ## Paths -/

def normalPath (path : RawText) : RawText :=
  let simple := pathRoot path.codes ++ List.intercalate [slash] (pathParts path.codes)
  .ofCodes (if simple.isEmpty then [point] else simple)

/-- The suffix of a path: from the last point of its last part on, unless that point is the first or
the last character of the part. -/
def suffix (path : RawText) : RawText :=
  let name := (pathParts path.codes).getLastD []
  let ending := (name.reverse.takeWhile (· != point)).reverse
  let stem := name.length - ending.length
  .ofCodes (if ending.isEmpty || stem < 2 then [] else point :: ending)

def lowerSuffix (path : RawText) : RawText :=
  (suffix path).lower

end CronSchedule
