import CronSchedule.Log.Style
import CronSchedule.Log.Template
import CronSchedule.Text.Quoted

/-!
# Dispatching log records

All records of the package pass one point, the hub.  It has a level and handlers; a record that
reaches the level is written once by every handler.  The package owns at most one handler, which
configuring replaces; handlers that others have added stay.

* `Hub` — the level and the handlers.
* `Hub.configuring`, `Hub.configure` — a new level and a new handler of the package, or why there is
  none.
* `Hub.addForeign` — one more handler of someone else.
* `Hub.accepts` — which records are written.
* `Hub.emit` — what a record makes the handlers write.
-/

namespace CronSchedule.Log

open Text

/-! ## The hub -/

/-- Who a handler belongs to: the package, which writes in a style, or someone else, who writes
plain lines. -/
inductive Owner
  | package (style : Style)
  | foreign
  deriving DecidableEq, Repr

/-- Writes records to a stream. -/
structure Handler where
  owner : Owner
  stream : Nat
  deriving DecidableEq, Repr

def Handler.owned (h : Handler) : Bool :=
  match h.owner with
  | .package _ => true
  | .foreign => false

def Handler.line (h : Handler) (stamp : Stamp) (e : Entry) : String :=
  match h.owner with
  | .package style => style.write stamp e
  | .foreign => e.plainLine

/-- The level that records must reach and the handlers that write them. -/
structure Hub where
  level : Level
  handlers : List Handler
  deriving DecidableEq, Repr

/-- The name of the logger of the package; other loggers of the package stand below it. -/
def packageLogger : String := "cronexpr"

/-- Whether a logger is that of the package or stands below it. -/
def ofPackage (logger : String) : Bool :=
  logger == packageLogger || (packageLogger.toList ++ ['.']).isPrefixOf logger.toList

/-- A level by number or by name. -/
inductive LevelChoice
  | numbered (level : Level)
  | named (name : String)
  deriving DecidableEq, Repr

/-- Why a hub cannot be configured. -/
inductive ConfigureError
  | unknownLevel (name : String)
  | unknownStyle (name : String)
  deriving DecidableEq, Repr

def ConfigureError.message : ConfigureError → String
  | .unknownLevel name => s!"Unknown log level: {name}"
  | .unknownStyle name => s!"Unknown log format: {quotedString name}"

def LevelChoice.resolve : LevelChoice → Except ConfigureError Level
  | .numbered level => .ok level
  | .named text =>
    match Level.ofName? text with
    | some level => .ok level
    | none => .error (.unknownLevel text)

def resolveStyle (name : String) : Except ConfigureError Style :=
  match Style.ofName? name with
  | some style => .ok style
  | none => .error (.unknownStyle name)

namespace Hub

/-- The hub before anything is configured. -/
def initial : Hub :=
  ⟨.unset, []⟩

/-- The hub without the handlers of the package. -/
def removeOwned (hub : Hub) : Hub :=
  { hub with handlers := hub.handlers.filter (!·.owned) }

def addHandler (hub : Hub) (handler : Handler) : Hub :=
  { hub with handlers := hub.handlers ++ [handler] }

/-- The hub with one more handler of someone else, which writes plain lines. -/
def addForeign (hub : Hub) (stream : Nat) : Hub :=
  hub.addHandler ⟨.foreign, stream⟩

/-- The hub with the given level and one handler of the package behind the handlers of others. -/
def install (hub : Hub) (level : Level) (style : Style) (stream : Nat) : Hub :=
  { hub.removeOwned.addHandler ⟨.package style, stream⟩ with level }

@[simp]
theorem addHandler_handlers (hub : Hub) (handler : Handler) :
    (hub.addHandler handler).handlers = hub.handlers ++ [handler] := rfl

@[simp]
theorem install_handlers (hub : Hub) (level : Level) (style : Style) (stream : Nat) :
    (hub.install level style stream).handlers =
      hub.handlers.filter (!·.owned) ++ [⟨.package style, stream⟩] := rfl

/-- Gives the hub a chosen level and a handler in the style of a name.  Both are looked at before
anything is changed, and the level is set last. -/
def configuring (choice : LevelChoice) (style : String) (stream : Nat) :
    ExceptT ConfigureError (StateM Hub) Unit := do
  let level ← MonadExcept.ofExcept choice.resolve
  let style ← MonadExcept.ofExcept (resolveStyle style)
  modify removeOwned
  modify fun hub => hub.addHandler ⟨.package style, stream⟩
  modify fun hub => { hub with level }

/-- What a call that configures the hub gives, and the hub after it, whether it fails or not. -/
def configure (hub : Hub) (choice : LevelChoice) (style : String) (stream : Nat) :
    Except ConfigureError Unit × Hub :=
  (configuring choice style stream).run.run hub

/-! ## Dispatch -/

/-- The level that counts: without one, warnings are the least that is written. -/
def effectiveLevel (hub : Hub) : Level :=
  if hub.level = .unset then .warning else hub.level

/-- Whether a record of a logger is written.  Levels that are not positive never are. -/
def accepts (hub : Hub) (logger : String) (level : Level) : Bool :=
  ofPackage logger && decide (0 < level) && decide (hub.effectiveLevel ≤ level)

/-- What the handlers write for an entry: streams with texts. -/
def write (hub : Hub) (stamp : Stamp) (e : Entry) : List (Nat × String) :=
  hub.handlers.map fun h => (h.stream, h.line stamp e ++ "\n")

/-- What the handlers write for a record. -/
def emit (hub : Hub) (stamp : Stamp) (r : Record) : List (Nat × String) :=
  if hub.accepts r.logger r.level then hub.write stamp r.entry else []

def emitAll (hub : Hub) (stamp : Stamp) (records : List Record) : List (Nat × String) :=
  records.flatMap (hub.emit stamp)

/-- What the handlers write for a message with arguments; nothing if the arguments do not fit it. -/
def emitTemplate (hub : Hub) (stamp : Stamp) (level : Level) (logger template : String)
    (arguments : List Value) (exception : Option String) : List (Nat × String) :=
  match fillTemplate template.toList arguments with
  | .ok message => hub.emit stamp ⟨level, logger, String.ofList message, exception⟩
  | .error _ => []

end Hub

def textOf (stream : Nat) (writes : List (Nat × String)) : String :=
  String.join ((writes.filter (·.1 == stream)).map (·.2))

end CronSchedule.Log
