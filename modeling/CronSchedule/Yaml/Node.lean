import CronSchedule.Yaml.Token

/-!
# Nodes of a YAML document

The tree of a document: scalars, sequences and mappings with their tags.  An alias stands for the
node that was given its name before.

* `Node` — the nodes.
* `Compose` — reading nodes off a list of tokens, with the tag handles and the named nodes.
* `node` and the functions with it — the grammar of nodes, one function for each kind of list.
* `Node.ofTokens?` — the root of the one document that the tokens may hold.
-/

namespace CronSchedule.Yaml

open Text

/-- A node.  A scalar without a tag that is `implicit` takes its kind from its text. -/
inductive Node
  | scalar (tag : Option (List Char)) (text : RawText) (implicit : Bool)
  | sequence (tag : Option (List Char)) (items : List Node)
  | mapping (tag : Option (List Char)) (entries : List (Node × Node))
  deriving Repr

def Node.empty : Node :=
  .scalar none (.whole "") true

/-! ## Reading off tokens -/

/-- The tokens that are left, the tag handles, the names that were given and the nodes that have
been read for them. -/
structure ComposeState where
  tokens : List Token
  handles : List (List Char × List Char)
  names : List (List Char)
  anchors : List (List Char × Node)

abbrev Compose := StateT ComposeState (Except ReadError)

def peekToken : Compose (Option Token) := do
  return (← get).tokens.head?

def skipToken : Compose Unit :=
  modify fun s => { s with tokens := s.tokens.tail }

/-- Whether the next token passes a test; at the end of the tokens none does. -/
def nextIs (test : Token → Bool) : Compose Bool := do
  return (← peekToken).any test

/-- Passes over a token that has to be there. -/
def expectToken (t : Token) : Compose Unit := do
  if ← nextIs (· == t) then skipToken else throw .malformed

def defaultHandles : List (List Char × List Char) :=
  [("!!".toList, "tag:yaml.org,2002:".toList), ("!".toList, "!".toList)]

/-! ## Properties -/

def resolveTag (handle : Option (List Char)) (suffix : List Char) : Compose (List Char) := do
  match handle with
  | none => return suffix
  | some handle =>
    match (← get).handles.lookup handle with
    | some start => return start ++ suffix
    | none => throw .malformed

/-- The tag at the next token, if there is one. -/
def takeTag : Compose (Option (List Char)) := do
  match ← peekToken with
  | some (.tag handle suffix) =>
    skipToken
    return some (← resolveTag handle suffix)
  | _ => return none

/-- The name at the next token, if there is one; it must not have been given before. -/
def takeAnchor : Compose (Option (List Char)) := do
  match ← peekToken with
  | some (.anchor name) =>
    skipToken
    if (← get).names.contains name then throw .malformed
    modify fun s => { s with names := name :: s.names }
    return some name
  | _ => return none

/-- The name and the tag of a node, in either order. -/
def takeProperties : Compose (Option (List Char) × Option (List Char)) := do
  match ← takeAnchor with
  | some name => return (some name, ← takeTag)
  | none =>
    match ← takeTag with
    | none => return (none, none)
    | some tag => return (← takeAnchor, some tag)

def findAnchor (name : List Char) : Compose Node := do
  match (← get).anchors.lookup name with
  | some node => return node
  | none => throw .malformed

def keepAnchor (name : Option (List Char)) (node : Node) : Compose Unit :=
  match name with
  | none => return ()
  | some name => modify fun s => { s with anchors := (name, node) :: s.anchors }

/-- The tag `!` alone says no more than no tag. -/
def namedTag (tag : Option (List Char)) : Option (List Char) :=
  if tag = some ['!'] then none else tag

/-! ## Nodes -/

/-- Whether a token ends a place of a block collection where a node may be left out. -/
def endsBlockPlace : Token → Bool
  | .key | .value | .blockEnd => true
  | _ => false

/-- Whether a token ends a place of a flow sequence where a node may be left out. -/
def endsSequencePlace : Token → Bool
  | .value | .flowEntry | .flowSequenceEnd => true
  | _ => false

/-- Whether a token ends a place of a flow mapping where a node may be left out. -/
def endsMappingPlace : Token → Bool
  | .value | .flowEntry | .flowMappingEnd => true
  | _ => false

mutual

/-- A node.  `block` allows block collections, and `indentless` a block sequence that is not
indented further than the mapping around it.  The first argument bounds the nesting of calls. -/
def node : Nat → (block indentless : Bool) → Compose Node
  | 0, _, _ => throw .malformed
  | fuel + 1, block, indentless => do
    if let some (.alias name) ← peekToken then
      skipToken
      return ← findAnchor name
    let (name, tag) ← takeProperties
    let found ← content fuel block indentless (name.isSome || tag.isSome) tag
    keepAnchor name found
    return found

/-- What follows the properties of a node; with properties it may be left out. -/
def content : Nat → (block indentless properties : Bool) → Option (List Char) → Compose Node
  | 0, _, _, _, _ => throw .malformed
  | fuel + 1, block, indentless, properties, tag => do
    let named := namedTag tag
    match ← peekToken, block, indentless with
    | some .blockEntry, _, true => return .sequence named (← indentlessItems fuel)
    | some (.scalar text plain), _, _ =>
      skipToken
      return .scalar named text ((plain && tag.isNone) || tag == some ['!'])
    | some .flowSequenceStart, _, _ =>
      skipToken
      return .sequence named (← flowItems fuel true)
    | some .flowMappingStart, _, _ =>
      skipToken
      return .mapping named (← flowEntries fuel true)
    | some .blockSequenceStart, true, _ =>
      skipToken
      return .sequence named (← blockItems fuel)
    | some .blockMappingStart, true, _ =>
      skipToken
      return .mapping named (← blockEntries fuel)
    | _, _, _ =>
      if properties then return .scalar named (.whole "") named.isNone else throw .malformed

def blockItems : Nat → Compose (List Node)
  | 0 => throw .malformed
  | fuel + 1 => do
    if ← nextIs (· == .blockEntry) then
      skipToken
      let item ←
        if ← nextIs (fun t => t == .blockEntry || t == .blockEnd) then pure Node.empty
        else node fuel true false
      return item :: (← blockItems fuel)
    else
      expectToken .blockEnd
      return []

/-- The items of a block sequence that is not indented further than the mapping around it. -/
def indentlessItems : Nat → Compose (List Node)
  | 0 => throw .malformed
  | fuel + 1 => do
    if ← nextIs (· == .blockEntry) then
      skipToken
      let item ←
        if ← nextIs (fun t => t == .blockEntry || endsBlockPlace t) then pure Node.empty
        else node fuel true false
      return item :: (← indentlessItems fuel)
    else return []

def blockEntries : Nat → Compose (List (Node × Node))
  | 0 => throw .malformed
  | fuel + 1 => do
    if ← nextIs (· == .key) then
      skipToken
      let key ← blockPlace fuel
      let value ← blockValue fuel
      return (key, value) :: (← blockEntries fuel)
    else
      expectToken .blockEnd
      return []

/-- The value of an entry of a block mapping. -/
def blockValue : Nat → Compose Node
  | 0 => throw .malformed
  | fuel + 1 => do
    if ← nextIs (· == .value) then
      skipToken
      blockPlace fuel
    else return .empty

/-- A key or a value of a block mapping, which may be left out. -/
def blockPlace : Nat → Compose Node
  | 0 => throw .malformed
  | fuel + 1 => do
    if ← nextIs endsBlockPlace then return .empty else node fuel true true

/-- The items of a flow sequence; an item may be a mapping with one entry. -/
def flowItems : Nat → (first : Bool) → Compose (List Node)
  | 0, _ => throw .malformed
  | fuel + 1, first => do
    if ← nextIs (· == .flowSequenceEnd) then
      skipToken
      return []
    if !first then expectToken .flowEntry
    if ← nextIs (· == .key) then
      skipToken
      let key ← flowPlace fuel endsSequencePlace
      let value ← flowValue fuel endsSequencePlace
      return .mapping none [(key, value)] :: (← flowItems fuel false)
    else if ← nextIs (· == .flowSequenceEnd) then
      skipToken
      return []
    else
      let item ← node fuel false false
      return item :: (← flowItems fuel false)

/-- The entries of a flow mapping; an entry may lack its value. -/
def flowEntries : Nat → (first : Bool) → Compose (List (Node × Node))
  | 0, _ => throw .malformed
  | fuel + 1, first => do
    if ← nextIs (· == .flowMappingEnd) then
      skipToken
      return []
    if !first then expectToken .flowEntry
    if ← nextIs (· == .key) then
      skipToken
      let key ← flowPlace fuel endsMappingPlace
      let value ← flowValue fuel endsMappingPlace
      return (key, value) :: (← flowEntries fuel false)
    else if ← nextIs (· == .flowMappingEnd) then
      skipToken
      return []
    else
      let key ← node fuel false false
      return (key, Node.empty) :: (← flowEntries fuel false)

/-- The value of an entry of a flow collection. -/
def flowValue : Nat → (Token → Bool) → Compose Node
  | 0, _ => throw .malformed
  | fuel + 1, ends => do
    if ← nextIs (· == .value) then
      skipToken
      flowPlace fuel fun t => ends t && t != .value
    else return .empty

/-- A key or a value of a flow collection, which may be left out. -/
def flowPlace : Nat → (Token → Bool) → Compose Node
  | 0, _ => throw .malformed
  | fuel + 1, ends => do
    if ← nextIs ends then return .empty else node fuel false false

end

/-! ## Documents -/

/-- The handles that directives declare before a document, each at most once; there may be one
version, which must be a version 1. -/
def takeDirectives : Nat → (version : Bool) → List (List Char × List Char) →
    Compose (List (List Char × List Char))
  | 0, _, handles => return handles
  | fuel + 1, version, handles => do
    match ← peekToken with
    | some (.version major) =>
      skipToken
      if version || major != 1 then throw .malformed
      takeDirectives fuel true handles
    | some (.handle handle start) =>
      skipToken
      if (handles.lookup handle).isSome then throw .malformed
      takeDirectives fuel version ((handle, start) :: handles)
    | some .otherDirective =>
      skipToken
      takeDirectives fuel version handles
    | _ => return handles

/-- Whether a token stands before a document or after one. -/
def isMargin : Token → Bool
  | .version _ | .handle _ _ | .otherDirective | .documentStart | .documentEnd => true
  | _ => false

/-- A document with directives or a mark at its start. -/
def explicitDocument (fuel : Nat) : Compose Node := do
  let handles ← takeDirectives fuel false []
  modify fun s => { s with handles := handles ++ defaultHandles }
  expectToken .documentStart
  match ← peekToken with
  | none => return .empty
  | some t => if isMargin t then return .empty else node fuel true false

def implicitDocument (fuel : Nat) : Compose Node :=
  node fuel true false

/-- The one document of the tokens; nothing but marks of its end may follow it. -/
def singleDocument (fuel : Nat) : Compose Node := do
  let explicit ← nextIs fun t => isMargin t && t != .documentEnd
  let root ← if explicit then explicitDocument fuel else implicitDocument fuel
  if (← get).tokens.all (· == .documentEnd) then return root else throw .malformed

/-- The root of the document of the tokens, or an empty node if there are none.  No call nests
deeper than a few calls for every token. -/
def Node.ofTokens? (tokens : List Token) : Except ReadError Node :=
  if tokens.isEmpty then .ok .empty
  else
    let fuel := 4 * tokens.length + 8
    (singleDocument fuel).run' ⟨tokens, defaultHandles, [], []⟩

end CronSchedule.Yaml
