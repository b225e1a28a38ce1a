import CronSchedule.Json.Writer
import CronSchedule.Log.Record

/-!
# Written forms of log records

A record is written as a line for a console or as a JSON object; a plain line holds the message
alone.  The time at which a record is written is given as text, once for each form.

* `Stamp` — a moment as the two forms write it.
* `Style`, `Style.ofName?` — the forms and their names.
* `Entry` — what is written of a record.
* `Entry.jsonLine`, `Entry.consoleLine`, `Style.write` — the written forms.
* `exceptionText` — the text of an exception.
-/

namespace CronSchedule.Log

open Text

/-! ## Styles -/

/-- A moment as text: for a console, and in ISO form. -/
structure Stamp where
  console : String
  iso : String
  deriving DecidableEq, Repr

/-- How the records of the package are written. -/
inductive Style
  | console | json
  deriving DecidableEq, Repr

namespace Style

def all : List Style :=
  [.console, .json]

def name : Style → String
  | .console => "console"
  | .json => "json"

def ofName? (name : String) : Option Style :=
  all.find? (·.name == name)

end Style

/-! ## Entries -/

/-- What is written of a record: its level by name, its logger, its message, and the text of its
exception if it has one. -/
structure Entry where
  levelName : String
  logger : String
  message : String
  exception : Option String
  deriving DecidableEq, Repr

def Record.entry (r : Record) : Entry :=
  ⟨r.level.name, r.logger, r.message, r.exception⟩

/-- The text of an exception: its kind, and its message unless that is empty. -/
def exceptionText (kind message : String) : String :=
  if message.isEmpty then kind else s!"{kind}: {message}"

namespace Entry

/-- A text followed by the exception on a line of its own. -/
def withException (e : Entry) (line : String) : String :=
  match e.exception with
  | none => line
  | some exception => if line.endsWith "\n" then line ++ exception else line ++ "\n" ++ exception

/-- The line for a console: the time, the level filled up to seven characters, the logger in
brackets and the message. -/
def consoleLine (time : String) (e : Entry) : String :=
  let level := String.ofList (padRight 7 ' ' e.levelName.toList)
  e.withException s!"{time} {level} [{e.logger}] {e.message}"

/-- The names and the values of the JSON object, in the order in which they are written. -/
def jsonEntries (time : String) (e : Entry) : List (String × String) :=
  [("timestamp", time), ("level", lowerString e.levelName), ("logger", e.logger),
   ("message", e.message)] ++ (e.exception.map ("exception", ·)).toList

/-- The JSON object of an entry, its names in alphabetical order if `sorted` is set. -/
def jsonLine (sorted : Bool) (time : String) (e : Entry) : String :=
  let entries := e.jsonEntries time
  let entries := if sorted then entries.mergeSort fun a b => a.1 ≤ b.1 else entries
  Json.writeString (.mapping (entries.map fun (name, text) => (.text name, .text text)))

end Entry

def Entry.plainLine (e : Entry) : String :=
  e.withException e.message

def Style.write (style : Style) (stamp : Stamp) (e : Entry) : String :=
  match style with
  | .console => e.consoleLine stamp.console
  | .json => e.jsonLine false stamp.iso

end CronSchedule.Log
