import CronSchedule.Yaml.Kind
import CronSchedule.Yaml.Node

/-!
# Reading YAML

The value of the one document of a text.  A mapping keeps its entries in order, a later value for a
key takes the place of an earlier one, and the entries of a mapping under the key `<<` come before
its own.  Tags can make a set of a mapping and a list of pairs of a sequence.

* `tagKind?` — the kinds that tags name.
* `setOf`, `pairOf` — sets and pairs.
* `Node.value` — the value of a node.
* `read` — the value of a text.
-/

namespace CronSchedule.Yaml

open Text

/-! ## Tags -/

/-- The tags that are known, without the part that they share. -/
def tagKinds : List (String × Kind) :=
  [("null", .null), ("bool", .bool), ("int", .integer), ("float", .real),
   ("timestamp", .timestamp), ("str", .text), ("binary", .binary), ("merge", .merge),
   ("value", .default)]

/-- The part that the tags of the format share. -/
def tagStart : List Char :=
  "tag:yaml.org,2002:".toList

def fullTag (name : String) : List Char :=
  tagStart ++ name.toList

def tagKind? (tag : List Char) : Option Kind :=
  (tagKinds.find? fun (name, _) => fullTag name == tag).map (·.2)

/-- The kind of a scalar: what its tag names, or what its text says. -/
def scalarKind (tag : Option (List Char)) (text : RawText) (implicit : Bool) :
    Except ReadError Kind :=
  match tag with
  | some tag =>
    match tagKind? tag with
    | some kind => .ok kind
    | none => .error .malformed
  | none =>
    match text with
    | .whole s => .ok (if implicit then Kind.ofText s.toList else .text)
    | .broken _ => .ok .text

/-- What a collection is: what its tag names, which must be among `names`, the first of which is
meant without a tag. -/
def collectionName (names : List String) (tag : Option (List Char)) : Except ReadError String :=
  match tag with
  | none => .ok (names.headD "")
  | some tag =>
    match names.find? (fullTag · == tag) with
    | some name => .ok name
    | none => .error .malformed

/-! ## Entries that are taken over -/

/-- Whether a node is the key of entries that are taken over. -/
def Node.isMerge : Node → Bool
  | .scalar tag text implicit =>
    match scalarKind tag text implicit with
    | .ok kind => kind == .merge
    | .error _ => false
  | _ => false

/-- A key of the form `=` is a text. -/
def Node.asKey : Node → Node
  | .scalar tag text implicit =>
    match scalarKind tag text implicit with
    | .ok .default => .scalar (some (fullTag "str")) text false
    | _ => .scalar tag text implicit
  | other => other

mutual

/-- The entries of a mapping with those that it takes over in front.  The first argument bounds the
nesting. -/
def allEntries : Nat → List (Node × Node) → Except ReadError (List (Node × Node))
  | 0, _ => .error .malformed
  | fuel + 1, entries => do
    let taken ← (entries.filter (·.1.isMerge)).mapM fun (_, source) => takenEntries fuel source
    let own := (entries.filter (!·.1.isMerge)).map fun (key, value) => (key.asKey, value)
    return taken.flatten ++ own

/-- The entries of a mapping, or of a list of mappings of which an earlier one has precedence. -/
def takenEntries : Nat → Node → Except ReadError (List (Node × Node))
  | 0, _ => .error .malformed
  | fuel + 1, source =>
    match source with
    | .mapping _ entries => allEntries fuel entries
    | .sequence _ items => do
      let all ← items.mapM fun
        | .mapping _ entries => allEntries fuel entries
        | _ => .error .malformed
      return all.reverse.flatten
    | .scalar _ _ _ => .error .malformed

end

/-! ## Sets and pairs -/

/-- A set, which is shown by way of a list of its members. -/
def setOf (members : List Datum) : Datum :=
  let listing := "\x7b" ++ listed (Data.displayItems members) ++ "\x7d"
  .other (.object {
    kind := "set"
    isEmpty := members.isEmpty
    isKey := false
    integer := .error .wrongType
    shown := if members.isEmpty then "set()" else listing
    failure? := fun depth =>
      if members.isEmpty then none
      else ((Data.list members : Datum).obstacle? depth).map Obstacle.kind })

def pairOf (key value : Datum) : Datum :=
  .other (.object {
    kind := "tuple"
    isEmpty := false
    isKey := key.isKey && value.isKey
    integer := .error .wrongType
    shown := s!"({key.display}, {value.display})"
    failure? := fun depth =>
      (Data.itemsObstacle? depth [key, value]).map Obstacle.kind })

/-! ## Values -/

/-- The value of a node.  A collection cannot be a key.  The first argument bounds the nesting. -/
def Node.value : Nat → Node → Except ReadError Datum
  | 0, _ => .error .malformed
  | fuel + 1, n =>
    match n with
    | .scalar tag text implicit => do (← scalarKind tag text implicit).readRaw text
    | .sequence tag items => do
      let name ← collectionName ["seq", "omap", "pairs"] tag
      if name = "seq" then return .list (← items.mapM (Node.value fuel))
      return .list (← items.mapM fun
        | .mapping _ [(key, value)] => do
          return pairOf (← Node.value fuel key) (← Node.value fuel value)
        | _ => .error .malformed)
    | .mapping tag entries => do
      let name ← collectionName ["map", "set"] tag
      let all ← allEntries fuel entries
      let values ← all.foldlM (fun before (key, value) => do
        let key ← Node.value fuel key
        if !key.isKey then throw .malformed
        return put key (← Node.value fuel value) before) []
      return if name = "map" then .mapping values else setOf (values.map (·.1))

/-! ## Documents -/

def read (text : List Char) : Except ReadError Datum := do
  if !text.all isAllowed then throw .malformed
  let tokens ← tokenize text
  let root ← Node.ofTokens? tokens
  -- Every level of nesting takes at least one token.
  root.value (2 * tokens.length + 2)

end CronSchedule.Yaml
