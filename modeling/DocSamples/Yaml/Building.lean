import DocSamples.Yaml.Data
import DocSamples.Yaml.Graph
import DocSamples.Yaml.Literal

namespace DocSamples.Yaml

namespace Graph

/-- The content that a node stands for as a scalar: that of its key `=` if it is a mapping, which
may lead back to itself that way. -/
def scalarContent (graph : Graph) : (fuel : Nat) → Ref → Except Problem Points
  | 0, _ => .error .tooDeep
  | fuel + 1, r =>
    match graph.nodeAt r with
    | .scalar _ content => .ok content
    | .sequence _ _ => .error (.malformed .kind)
    | .mapping _ pairs =>
      match pairs.find? fun (k, _) => (graph.nodeAt k).tag == .value with
      | some (_, v) => scalarContent graph fuel v
      | none => .error (.malformed .kind)

/-- The number of keys of a node that tell what to merge. -/
def mergesOf (graph : Graph) : Node → Nat
  | .mapping _ pairs => pairs.countP fun (k, _) => (graph.nodeAt k).tag == .merge
  | .scalar _ _ | .sequence _ _ => 0

/-- More steps than it takes to merge the mappings of a graph: a merge takes its key away, and makes
a mapping longer by at most as many mappings as there are places. -/
def mergeSteps (graph : Graph) : Nat :=
  let width := graph.foldl (fun sum n => sum + n.width) 2
  let merges := graph.foldl (fun sum n => sum + graph.mergesOf n) 0
  Nat.pow width (merges + 3)

end Graph

/-- What is left of a graph while its data is built: mappings take over pairs from others, places
that were met have their values, the collections among them wait for their turn, and those that had
it are there. -/
structure Building where
  graph : Graph
  values : Array (Option Value)
  waiting : List Ref := []
  collections : Array Collection

namespace Building

abbrev Step := StateT Building (Except Problem)

def fail {α : Type} (f : SyntaxFault) : Step α := throw (.malformed f)

def node (r : Ref) : Step Node := return (← get).graph.nodeAt r

def setNode (r : Ref) (n : Node) : Step Unit :=
  modify fun s => { s with graph := s.graph.setIfInBounds r n }

def pairs (r : Ref) : Step (List (Ref × Ref)) := do
  match ← node r with
  | .mapping _ ps => return ps
  | _ => fail .kind

def setPairs (r : Ref) (ps : List (Ref × Ref)) : Step Unit := do
  setNode r (.mapping (← node r).tag ps)

/-- Merges into a mapping what its keys `<<` tell, from the pair at `index` on: the pairs of other
mappings go in front of its own, and those of an earlier one in a list before those of a later one.
The pairs `taken` are from the keys before. A key `=` becomes a text. -/
def mergeFrom : (fuel : Nat) → Ref → (index : Nat) → (taken : List (Ref × Ref)) → Step Unit
  | 0, _, _, _ => fail .merge
  | fuel + 1, r, index, taken => do
    let own ← pairs r
    let merged (source : Ref) : Step (List (Ref × Ref)) := do
      match ← node source with
      | .mapping _ _ =>
        mergeFrom fuel source 0 []
        pairs source
      | _ => fail .merge
    match own[index]? with
    | none => if !taken.isEmpty then setPairs r (taken ++ own)
    | some (k, v) =>
      let key ← node k
      match key.tag with
      | .merge =>
        setPairs r (own.eraseIdx index)
        let more ← match ← node v with
          | .sequence _ sources => do pure (← sources.mapM merged).reverse.flatten
          | _ => merged v
        mergeFrom fuel r index (taken ++ more)
      | .value =>
        setNode k (key.retag .text)
        mergeFrom fuel r (index + 1) taken
      | _ => mergeFrom fuel r (index + 1) taken

/-- Reads the value of a place that was not met before. A scalar is read at once, a collection is
built when its turn comes. -/
def readValue (r : Ref) : Step Value := do
  let graph := (← get).graph
  let n := graph.nodeAt r
  match n.tag with
  | .sequence | .mapping | .set | .pairs =>
    modify fun s => { s with waiting := s.waiting ++ [r] }
    return .collection r
  | .merge | .value | .other _ => fail .unknownTag
  | tag =>
    let content ← graph.scalarContent (graph.size + 1) r
    match tag, n with
    | .timestamp, .mapping _ _ => throw .timestampMapping
    | _, _ => Literal.ofScalar r tag content

/-- The value of a place: the one that it had when it was first met, whatever has become of its node
since. -/
def value (r : Ref) : Step Value := do
  match (← get).values[r]?.join with
  | some v => return v
  | none =>
    let v ← readValue r
    modify fun s => { s with values := s.values.setIfInBounds r (some v) }
    return v

def entries (steps : Nat) (r : Ref) : Step (List (Value × Value)) := do
  mergeFrom steps r 0 []
  (← pairs r).foldlM
    (fun es (k, v) => do
      let key ← value k
      if !key.isKey then fail .collectionKey
      return Value.insert es key (← value v))
    []

def pair (r : Ref) : Step (Value × Value) := do
  match ← pairs r with
  | [(k, v)] => return (← value k, ← value v)
  | _ => fail .kind

def collection (steps : Nat) (r : Ref) : Step Collection := do
  match ← node r with
  | .sequence .sequence items => return .list (← items.mapM value)
  | .sequence .pairs items => return .pairs (← items.mapM pair)
  | .mapping .mapping _ => return .map (← entries steps r)
  | .mapping .set _ => return .set ((← entries steps r).map (·.1))
  | _ => fail .kind

/-- Builds the collections in the order in which they were met, with one step of fuel for each. -/
def all (steps : Nat) : (fuel : Nat) → Step Unit
  | 0 => return ()
  | fuel + 1 => do
    match (← get).waiting with
    | [] => return ()
    | r :: rest =>
      modify fun s => { s with waiting := rest }
      let c ← collection steps r
      modify fun s => { s with collections := s.collections.setIfInBounds r c }
      all steps fuel

end Building

namespace Data

def ofGraph (graph : Graph) (root : Ref) : Except Problem Data := do
  let build : Building.Step Value := do
    let v ← Building.value root
    Building.all graph.mergeSteps (graph.size + 1)
    return v
  let (v, s) ← build.run {
    graph
    values := .replicate graph.size none
    collections := .replicate graph.size (.list []) }
  return ⟨v, s.collections⟩

/-- The data of a text; an empty one has none but null. -/
def ofInput (input : Input) : Except Problem Data := do
  match ← Graph.ofInput input with
  | (graph, some root) => ofGraph graph root
  | (_, none) => return ⟨.null, #[]⟩

end Data

end DocSamples.Yaml
