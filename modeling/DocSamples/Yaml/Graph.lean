import DocSamples.Yaml.Tag
import DocSamples.Yaml.Token
import DocSamples.Yaml.Value

namespace DocSamples.Yaml

/-- A node of a text in YAML. What it holds are other nodes, by their places in the graph. -/
inductive Node
  | scalar (tag : Tag) (content : Points)
  | sequence (tag : Tag) (items : List Ref)
  | mapping (tag : Tag) (pairs : List (Ref × Ref))
  deriving DecidableEq, Repr

namespace Node

def tag : Node → Tag
  | scalar t _ | sequence t _ | mapping t _ => t

def retag (t : Tag) : Node → Node
  | scalar _ content => scalar t content
  | sequence _ items => sequence t items
  | mapping _ pairs => mapping t pairs

def width : Node → Nat
  | scalar _ _ => 0
  | sequence _ items => items.length
  | mapping _ pairs => pairs.length

end Node

/-- The nodes of a text by their places. An alias leads to the place that it names, which may be
inside or around its own. -/
abbrev Graph := Array Node

namespace Graph

def nodeAt (graph : Graph) (r : Ref) : Node := graph[r]?.getD (.scalar .null [])

/-- The tokens that are left, the handles of tags, the places with an anchor, the nodes so far, and
the number of open collections. -/
structure State where
  tokens : List Token
  handles : List (Text × Text)
  anchors : List (Text × Ref) := []
  nodes : Graph := #[]
  depth : Nat := 0

abbrev Parse := StateT State (Except Problem)

def fail {α : Type} (f : SyntaxFault) : Parse α := throw (.malformed f)

/-- The next token; a fault among the tokens ends the reading. -/
def peek : Parse Token := do
  match (← get).tokens with
  | .fault p :: _ => throw p
  | t :: _ => return t
  | [] => return .textEnd

def drop : Parse Unit := modify fun s => { s with tokens := s.tokens.drop 1 }

def accept (t : Token) : Parse Bool := do
  if (← peek) == t then
    drop
    return true
  else return false

def sees (ts : List Token) : Parse Bool := do return ts.contains (← peek)

/-- An anchor and the name of a tag in front of a node. -/
structure Properties where
  anchor : Option Text := none
  tag : Option Text := none

/-- The name of a tag, whose handle has to be known. -/
def tagName (handle : Option Text) (suffix : Text) : Parse Text := do
  match handle with
  | none => return suffix
  | some h =>
    match (← get).handles.lookup h with
    | some start => return start ++ suffix
    | none => fail .tag

def anchor? : Parse (Option Text) := do
  if let .anchor name ← peek then
    drop
    return some name
  else return none

def properties : Parse Properties := do
  let before ← anchor?
  if let .tag handle suffix ← peek then
    drop
    let after ← if before.isNone then anchor? else pure none
    return ⟨before.or after, some (← tagName handle suffix)⟩
  else return ⟨before, none⟩

/-- The tag of a node: the one it names, else the one by default. -/
def Properties.tagOr (p : Properties) (default : Tag) : Tag :=
  match p.tag with
  | none => default
  | some ['!'] => default
  | some name => .ofName name

def add (p : Properties) (n : Node) : Parse Ref := do
  let r := (← get).nodes.size
  modify fun s => { s with nodes := s.nodes.push n }
  if let some a := p.anchor then
    modify fun s => { s with anchors := (a, r) :: s.anchors }
  return r

def addEmpty : Parse Ref := add {} (.scalar .null [])

def depthLimit : Nat := 488

/-- Reads a collection into a new place, which its anchor names while it is read. -/
def collection (p : Properties) (start : Node) (read : Parse Node) : Parse Ref := do
  let r ← add p start
  if depthLimit < (← get).depth then throw .tooDeep
  modify fun s => { s with depth := s.depth + 1 }
  let n ← read
  modify fun s => { s with depth := s.depth - 1, nodes := s.nodes.setIfInBounds r n }
  return r

def sequence (p : Properties) (items : Parse (List Ref)) : Parse Ref :=
  let tag := p.tagOr .sequence
  collection p (.sequence tag []) (.sequence tag <$> items)

def mapping (p : Properties) (pairs : Parse (List (Ref × Ref))) : Parse Ref :=
  let tag := p.tagOr .mapping
  collection p (.mapping tag []) (.mapping tag <$> pairs)

/-- The place that an alias leads to. -/
def aliased (name : Text) : Parse Ref := do
  match (← get).anchors.lookup name with
  | some r => return r
  | none => fail .unknownAlias

inductive Context
  | block
  | blockValue
  | flow
  deriving DecidableEq, Repr

mutual

/-- Reads a node. A sequence that is the value of a key may stand at the column of the key. An
anchor names one node only. -/
def node : (fuel : Nat) → Context → Parse Ref
  | 0, _ => fail .content
  | fuel + 1, context => do
    if let .alias name ← peek then
      drop
      aliased name
    else
      let p ← properties
      let t ← peek
      let anchors := (← get).anchors
      if p.anchor.any fun a => (anchors.lookup a).isSome then fail .anchor
      match t, context with
      | .blockEntry, .blockValue => sequence p (looseItems fuel)
      | .scalar t plain, _ =>
        drop
        let byText := p.tag == some ['!'] || plain && p.tag.isNone
        add p (.scalar (if byText then .ofPlain t else p.tagOr .text) t)
      | .flowSequence, _ =>
        drop
        sequence p (flowItems fuel true)
      | .flowMapping, _ =>
        drop
        mapping p (flowPairs fuel true)
      | .blockSequence, .block | .blockSequence, .blockValue =>
        drop
        sequence p (blockItems fuel)
      | .blockMapping, .block | .blockMapping, .blockValue =>
        drop
        mapping p (blockPairs fuel)
      | _, _ =>
        if p.anchor.isSome || p.tag.isSome then add p (.scalar (p.tagOr .null) [])
        else fail .content

/-- A node, or an empty one where one of those tokens follows. -/
def nodeUnless : (fuel : Nat) → Context → List Token → Parse Ref
  | 0, _, _ => fail .content
  | fuel + 1, context, ts => do
    if ← sees ts then addEmpty else node fuel context

def blockItems : (fuel : Nat) → Parse (List Ref)
  | 0 => fail .content
  | fuel + 1 => do
    if ← accept .blockEntry then
      let n ← nodeUnless fuel .block [.blockEntry, .blockEnd]
      return n :: (← blockItems fuel)
    else if ← accept .blockEnd then return []
    else fail .collectionEnd

/-- The items of a sequence at the column of its key. -/
def looseItems : (fuel : Nat) → Parse (List Ref)
  | 0 => fail .content
  | fuel + 1 => do
    if ← accept .blockEntry then
      let n ← nodeUnless fuel .block [.blockEntry, .key, .value, .blockEnd]
      return n :: (← looseItems fuel)
    else return []

def blockMappingValue : (fuel : Nat) → Parse Ref
  | 0 => fail .content
  | fuel + 1 => do
    if ← accept .value then nodeUnless fuel .blockValue [.key, .value, .blockEnd]
    else addEmpty

def blockPairs : (fuel : Nat) → Parse (List (Ref × Ref))
  | 0 => fail .content
  | fuel + 1 => do
    if ← accept .key then
      let k ← nodeUnless fuel .blockValue [.key, .value, .blockEnd]
      let v ← blockMappingValue fuel
      return (k, v) :: (← blockPairs fuel)
    else if ← accept .blockEnd then return []
    else fail .collectionEnd

def flowValue : (fuel : Nat) → (stop : Token) → Parse Ref
  | 0, _ => fail .content
  | fuel + 1, stop => do
    if ← accept .value then nodeUnless fuel .flow [.flowEntry, stop]
    else addEmpty

/-- The single pair of a mapping within a flow sequence. -/
def flowPair : (fuel : Nat) → Parse (List (Ref × Ref))
  | 0 => fail .content
  | fuel + 1 => do
    let k ← nodeUnless fuel .flow [.value, .flowEntry, .flowSequenceEnd]
    let v ← flowValue fuel .flowSequenceEnd
    return [(k, v)]

def flowItems : (fuel : Nat) → (first : Bool) → Parse (List Ref)
  | 0, _ => fail .content
  | fuel + 1, first => do
    if ← accept .flowSequenceEnd then return []
    else
      let separated ← if first then pure true else accept .flowEntry
      if !separated then fail .collectionEnd
      else if ← accept .key then
        let n ← mapping {} (flowPair fuel)
        return n :: (← flowItems fuel false)
      else if ← accept .flowSequenceEnd then return []
      else
        let n ← node fuel .flow
        return n :: (← flowItems fuel false)

/-- The pairs of a flow mapping up to its brace; a key may have no value. -/
def flowPairs : (fuel : Nat) → (first : Bool) → Parse (List (Ref × Ref))
  | 0, _ => fail .content
  | fuel + 1, first => do
    if ← accept .flowMappingEnd then return []
    else
      let separated ← if first then pure true else accept .flowEntry
      if !separated then fail .collectionEnd
      else if ← accept .key then
        let k ← nodeUnless fuel .flow [.value, .flowEntry, .flowMappingEnd]
        let v ← flowValue fuel .flowMappingEnd
        return (k, v) :: (← flowPairs fuel false)
      else if ← accept .flowMappingEnd then return []
      else
        let k ← node fuel .flow
        return (k, ← addEmpty) :: (← flowPairs fuel false)

end

/-- The directives in front of a document; a version is given once and is a first one, and a handle
is given once. -/
def directives : (fuel : Nat) → (versioned : Bool) → (own : List (Text × Text)) →
    Parse (List (Text × Text))
  | 0, _, own => return own
  | fuel + 1, versioned, own => do
    match ← peek with
    | .directive (.version major _) =>
      if versioned || major != 1 then fail .directive
      else
        drop
        directives fuel true own
    | .directive (.tag handle start) =>
      if (own.lookup handle).isSome then fail .directive
      else
        drop
        directives fuel versioned ((handle, start) :: own)
    | .directive .reserved =>
      drop
      directives fuel versioned own
    | _ => return own

def defaultHandles : List (Text × Text) :=
  [(['!'], ['!']), (['!', '!'], Tag.family)]

def dropDocumentEnds : (fuel : Nat) → Parse Unit
  | 0 => return ()
  | fuel + 1 => do if ← accept .documentEnd then dropDocumentEnds fuel

def content (fuel : Nat) : Parse Ref := do
  match ← peek with
  | .directive _ | .documentStart | .documentEnd | .textEnd => addEmpty
  | _ => node fuel .block

def document (fuel : Nat) : Parse (Option Ref) := do
  match ← peek with
  | .textEnd => return none
  | .directive _ | .documentStart =>
    let own ← directives fuel false []
    modify fun s => { s with handles := own ++ defaultHandles }
    if !(← accept .documentStart) then fail .directive
    let n ← content fuel
    finish n
  | _ => finish (← node fuel .block)
where
  finish (r : Ref) : Parse (Option Ref) := do
    dropDocumentEnds fuel
    if ← accept .textEnd then return some r
    let _ ← directives fuel false []
    fail .documentCount

def ofInput (input : Input) : Except Problem (Graph × Option Ref) := do
  let tokens := Token.ofInput input
  let (root, s) ← (document (4 * tokens.length + 8)).run { tokens, handles := defaultHandles }
  return (s.nodes, root)

end Graph

end DocSamples.Yaml
