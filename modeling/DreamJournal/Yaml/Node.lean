import DreamJournal.OrderedMap
import DreamJournal.Yaml.Tag
import DreamJournal.Yaml.Token.Lexer

/-!
# Nodes

A document is a graph of nodes: scalars, sequences and mappings, each with a tag. The nodes have
numbers, and a collection holds the numbers of its parts. A node may be given a name, under which
it can stand in further places. The name is known as soon as the node begins, so a collection can
hold itself.

Every node, entry and level of nesting takes up a token, so the number of tokens bounds the
depth of the recursion.
-/
namespace DreamJournal.Yaml

/-- A node; its parts are the numbers of nodes. -/
inductive Node where
  | scalar (tag : Tag) (text : Text)
  | sequence (tag : Tag) (items : List Nat)
  | mapping (tag : Tag) (entries : List (Nat × Nat))
  deriving DecidableEq, Repr, Inhabited

/-- Nodes with the numbers of their places. -/
structure Graph where
  nodes : List Node
  deriving DecidableEq, Repr, Inhabited

/-- The nodes of a text, and the number of the one that stands for all of it. -/
structure Document where
  graph : Graph
  root : Nat
  deriving DecidableEq, Repr, Inhabited

namespace Node

/-- What a reader of tokens knows. -/
structure Reading where
  tokens : List Token
  /-- What the first parts of tags stand for. -/
  handles : OrderedMap Text Text
  /-- The nodes with names. -/
  names : OrderedMap Text Nat
  /-- All nodes that have begun. -/
  nodes : List Node

/-- A reader of tokens. -/
abbrev Reader := StateT Reading (Except ReadError)

def malformed {α : Type} : Reader α := throw .malformed

/-- The next token. -/
def peek : Reader Token := do
  match (← get).tokens with
  | .broken e :: _ => throw e
  | token :: _ => return token
  | [] => malformed

/-- The next token, which is taken. -/
def take : Reader Token := do
  let token ← peek
  modify fun s => { s with tokens := s.tokens.drop 1 }
  return token

/-- Take the next token, which has to be the given one. -/
def expect (token : Token) : Reader Unit := do
  if (← take) ≠ token then malformed

/-- Take the next token if it is the given one, and say whether it was. -/
def takeIf (token : Token) : Reader Bool := do
  if (← peek) = token then
    let _ ← take
    return true
  else return false

/-- Whether the next token is one of the given ones. -/
def seesAny (tokens : List Token) : Reader Bool := do return tokens.contains (← peek)

/-- A node where nothing is written. -/
def blank : Node := .scalar .null []

/-- The name of a node and its tag as written, in either order. -/
structure Properties where
  name : Option Text
  tag : Option (Option Text × Text)

def properties : Reader Properties := do
  match ← peek with
  | .anchor name =>
    let _ ← take
    match ← peek with
    | .tag handle suffix =>
      let _ ← take
      return ⟨some name, some (handle, suffix)⟩
    | _ => return ⟨some name, none⟩
  | .tag handle suffix =>
    let _ ← take
    match ← peek with
    | .anchor name =>
      let _ ← take
      return ⟨some name, some (handle, suffix)⟩
    | _ => return ⟨none, some (handle, suffix)⟩
  | _ => return ⟨none, none⟩

/-- The full name of a tag. -/
def tagName (tag : Option (Option Text × Text)) : Reader (Option Text) := do
  match tag with
  | none => return none
  | some (none, suffix) => return some suffix
  | some (some handle, suffix) =>
    match (← get).handles.get? handle with
    | some start => return some (start ++ suffix)
    | none => malformed

/-- The tag of a collection; without a name, or with the general one, that of its kind. -/
def collectionTag (kind : Tag) (name : Option Text) : Tag :=
  match name with
  | none | some ['!'] => kind
  | some name => Tag.ofName name

/-- The tag of a scalar. The general tag asks for the meaning of the plain text. -/
def scalarTag (plain : Bool) (name : Option Text) (text : Text) : Tag :=
  match name with
  | none => if plain then Tag.ofPlain text else .text
  | some ['!'] => Tag.ofPlain text
  | some name => Tag.ofName name

/-- The number of a node that begins here. -/
def start (name : Option Text) : Reader Nat := do
  let n := (← get).nodes.length
  match name with
  | none => modify fun s => { s with nodes := s.nodes ++ [blank] }
  | some name =>
    if (← get).names.has name then malformed
    else modify fun s => { s with nodes := s.nodes ++ [blank], names := s.names.put name n }
  return n

/-- The number of a node that began earlier and is now known. -/
def finish (n : Nat) (node : Node) : Reader Nat := do
  modify fun s => { s with nodes := s.nodes.set n node }
  return n

/-- The node of a place where nothing is written. -/
def empty : Reader Nat := start none

/-- The node with a name, of which all may not be read yet. -/
def named (name : Text) : Reader Nat := do
  match (← get).names.get? name with
  | some n => return n
  | none => malformed

mutual

/-- A node. `block` allows a block collection and `unindented` a sequence that is not indented
deeper than the mapping around it. -/
def read (block unindented : Bool) : (fuel : Nat) → Reader Nat
  | 0 => malformed
  | fuel + 1 => do
    match ← peek with
    | .reference name =>
      let _ ← take
      named name
    | _ =>
      let written ← properties
      let tag ← tagName written.tag
      let sequence (items : Reader (List Nat)) : Reader Nat := do
        let n ← start written.name
        finish n (.sequence (collectionTag .sequence tag) (← items))
      let mapping (entries : Reader (List (Nat × Nat))) : Reader Nat := do
        let n ← start written.name
        finish n (.mapping (collectionTag .mapping tag) (← entries))
      match unindented, block, ← peek with
      | true, _, .blockEntry => sequence (unindentedItems fuel)
      | _, _, .scalar text plain =>
        let _ ← take
        let n ← start written.name
        finish n (.scalar (scalarTag plain tag text) text)
      | _, _, .flowSequenceStart =>
        let _ ← take
        sequence (flowItems true fuel)
      | _, _, .flowMappingStart =>
        let _ ← take
        mapping (flowEntries true fuel)
      | _, true, .blockSequenceStart =>
        let _ ← take
        sequence (blockItems fuel)
      | _, true, .blockMappingStart =>
        let _ ← take
        mapping (blockEntries fuel)
      | _, _, _ =>
        if written.name.isSome || written.tag.isSome then
          let n ← start written.name
          finish n (.scalar (scalarTag true tag []) [])
        else malformed

/-- A node, unless one of the given tokens shows that there is none. -/
def readUnless (tokens : List Token) (block unindented : Bool) : (fuel : Nat) → Reader Nat
  | 0 => malformed
  | fuel + 1 => do
    if ← seesAny tokens then empty else read block unindented fuel

/-- The items of a block sequence, up to the end of its block. -/
def blockItems : (fuel : Nat) → Reader (List Nat)
  | 0 => malformed
  | fuel + 1 => do
    if ← takeIf .blockEntry then
      let item ← readUnless [.blockEntry, .blockEnd] true false fuel
      return item :: (← blockItems fuel)
    else
      expect .blockEnd
      return []

/-- The items of a sequence that has no block of its own. -/
def unindentedItems : (fuel : Nat) → Reader (List Nat)
  | 0 => malformed
  | fuel + 1 => do
    if ← takeIf .blockEntry then
      let item ← readUnless [.blockEntry, .key, .value, .blockEnd] true false fuel
      return item :: (← unindentedItems fuel)
    else return []

/-- The entries of a block mapping, up to the end of its block. A value without a key is refused:
an empty key has to be marked as one. -/
def blockEntries : (fuel : Nat) → Reader (List (Nat × Nat))
  | 0 => malformed
  | fuel + 1 => do
    let part : Reader Nat := readUnless [.key, .value, .blockEnd] true true fuel
    if ← takeIf .key then
      let key ← part
      let value ← if ← takeIf .value then part else empty
      return (key, value) :: (← blockEntries fuel)
    else
      expect .blockEnd
      return []

/-- The items of a flow sequence. An entry of a mapping among them is a mapping by itself. -/
def flowItems (first : Bool) : (fuel : Nat) → Reader (List Nat)
  | 0 => malformed
  | fuel + 1 => do
    if ← takeIf .flowSequenceEnd then return []
    else
      if !first then expect .flowEntry
      if ← takeIf .key then
        let n ← start none
        let key ← readUnless [.value, .flowEntry, .flowSequenceEnd] false false fuel
        let value ←
          if ← takeIf .value then readUnless [.flowEntry, .flowSequenceEnd] false false fuel
          else empty
        return (← finish n (.mapping .mapping [(key, value)])) :: (← flowItems false fuel)
      else if ← takeIf .flowSequenceEnd then return []
      else
        let item ← read false false fuel
        return item :: (← flowItems false fuel)

/-- The entries of a flow mapping. -/
def flowEntries (first : Bool) : (fuel : Nat) → Reader (List (Nat × Nat))
  | 0 => malformed
  | fuel + 1 => do
    if ← takeIf .flowMappingEnd then return []
    else
      if !first then expect .flowEntry
      if ← takeIf .key then
        let key ← readUnless [.value, .flowEntry, .flowMappingEnd] false false fuel
        let value ←
          if ← takeIf .value then readUnless [.flowEntry, .flowMappingEnd] false false fuel
          else empty
        return (key, value) :: (← flowEntries false fuel)
      else if ← takeIf .flowMappingEnd then return []
      else
        let key ← read false false fuel
        return (key, ← empty) :: (← flowEntries false fuel)

end

/-- The first parts of tags that need no directive. -/
def standardHandles : OrderedMap Text Text := [(['!'], ['!']), (['!', '!'], Tag.known)]

/-- The directives in front of a document. -/
def directives : (fuel : Nat) → (versioned : Bool) → (handles : OrderedMap Text Text) →
    Reader (OrderedMap Text Text)
  | 0, _, _ => malformed
  | fuel + 1, versioned, handles => do
    match ← peek with
    | .directive (.version major) =>
      let _ ← take
      if versioned || major ≠ 1 then malformed else directives fuel true handles
    | .directive (.tagPrefix handle start) =>
      let _ ← take
      if handles.has handle then malformed
      else directives fuel versioned (handles.put handle start)
    | .directive .reserved =>
      let _ ← take
      directives fuel versioned handles
    | _ => return handles ++ standardHandles.filter fun entry => !handles.has entry.1

/-- Marks of the ends of documents. -/
def skipEnds : (fuel : Nat) → Reader Unit
  | 0 => return
  | fuel + 1 => do if ← takeIf .documentEnd then skipEnds fuel

def isDirective : Token → Bool
  | .directive _ => true
  | _ => false

/-- The start of a document that has a mark for it. -/
def explicitStart (fuel : Nat) : Reader Unit := do
  let handles ← directives fuel false []
  expect .documentStart
  modify fun s => { s with handles }

/-- The only document; none when there is none. -/
def document (fuel : Nat) : Reader (Option Nat) := do
  let first ← peek
  let root ←
    if isDirective first || first = .documentStart then do
      explicitStart fuel
      let next ← peek
      if isDirective next || [Token.documentStart, .documentEnd, .streamEnd].contains next then
        some <$> empty
      else some <$> read true false fuel
    else if first = .streamEnd then pure none
    else some <$> read true false fuel
  let _ ← skipEnds fuel
  expect .streamEnd
  return root

end Node

/-- The document in a text; none for a text that holds none. -/
def Document.ofText (t : Text) : Except ReadError (Option Document) := do
  let tokens := Token.ofText t
  let reading : Node.Reading := ⟨tokens, Node.standardHandles, [], []⟩
  let (root?, reading) ← (Node.document (4 * tokens.length + 8)).run reading
  .ok (root?.map fun root => ⟨⟨reading.nodes⟩, root⟩)

end DreamJournal.Yaml
