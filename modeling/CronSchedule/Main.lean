import CronSchedule.Calendar.Epoch
import CronSchedule.CommandLine.Call
import CronSchedule.CommandLine.Standard
import Std.Time

/-!
# The program

Collects the surroundings of a run, prints what the run leaves behind, and exits with its code.
-/

namespace CronSchedule.CommandLine

open Calendar Text

/-- Bytes up to each zero byte. -/
def cutAtZeros (bytes : List UInt8) : List (List UInt8) :=
  (bytes.splitOn 0).filter (!·.isEmpty)

/-- A variable and its value, if its name is text. -/
def readVariable? (entry : List UInt8) : Option (String × RawText) :=
  match entry.dropWhile (· ≠ '='.toUInt8) with
  | [] => none
  | _ :: value => do
    let name ← String.fromUTF8? ⟨(entry.takeWhile (· ≠ '='.toUInt8)).toArray⟩
    return (name, .ofBytes value)

/-- The environment variables that the run was started with, in their order. -/
def readEnvironment : IO (List (String × RawText)) := do
  let bytes ← IO.FS.readBinFile "/proc/self/environ"
  return (cutAtZeros bytes.toList).filterMap readVariable?

/-- Whether it can be found out what is at a path, and there is something. -/
def leadsSomewhere (path : String) : IO Bool := do
  try
    discard (IO.FS.realPath path)
    return true
  catch _ => return false

/-- What is found at a path.  Following the path tells what may not be read from what cannot even be
looked at. -/
def readEntry (path : String) : IO FileEntry := do
  try
    return .file (← IO.FS.readBinFile path)
  catch
    | .noFileOrDirectory _ _ _ => return .absent
    | .invalidArgument _ _ _ => return .inaccessible
    | .permissionDenied _ _ _ =>
      return if ← leadsSomewhere path then .denied else .inaccessible
    | _ => return if ← leadsSomewhere path then .directory else .absent

def readNow : IO Instant := do
  let t ← Std.Time.PlainDateTime.now
  let clock : WallClock :=
    ⟨t.date.year.toInt, t.date.month.val, t.date.day.val, t.time.hour.val, t.time.minute.val,
      t.time.second.val⟩
  return ⟨clock, (t.time.nanosecond.val / 1000).toNat, none⟩

/-- The present moment in universal time, as text in ISO form. -/
def readUniversalTime : IO String := do
  let t ← Std.Time.Timestamp.now
  match Instant.ofSeconds? t.val.second.val (t.val.nano.val / 1000).toNat with
  | .ok t => return t.toIsoString
  | .error e => return e.message

/-- The path of the file that a run looks at, if there is one. -/
def chosenFile? (platform : Platform) (call : Call) : Option RawText :=
  match platform.front.read call.lookup call.arguments with
  | .ok (options, _) => chosenPath? options.config call.environment
  | .error _ => none

/-- The run for the given arguments in its surroundings. -/
def readCall (platform : Platform) (arguments : List String) : IO Call := do
  let now ← readNow
  let bare : Call := {
    arguments
    environment := ← readEnvironment
    lookup := fun _ => .absent
    now
    stamp := ⟨now.formatString defaultPattern, ← readUniversalTime⟩ }
  match chosenFile? platform bare with
  | none => return bare
  | some path =>
    let entry ← match path with
      | .whole s => readEntry s
      | .broken _ => pure .absent
    return { bare with lookup := fun other => if other = path then entry else .absent }

def printOutcome (platform : Platform) (outcome : Outcome) : IO Unit := do
  IO.eprint (outcome.complaints platform.front)
  IO.print (outcome.output platform.front)
  match outcome.ending with
  | .failed e => IO.eprintln e.message
  | _ => return

end CronSchedule.CommandLine

def main (arguments : List String) : IO UInt32 := do
  let platform := CronSchedule.CommandLine.Platform.standard 80
  let outcome := (← CronSchedule.CommandLine.readCall platform arguments).run platform
  CronSchedule.CommandLine.printOutcome platform outcome
  return outcome.exitCode.toUInt32
