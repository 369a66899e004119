import SetupForge.Value.Display
import SetupForge.Yaml.Graph

/-! # Values from a graph

A scalar has its value at once. A collection is only noted when it is met, and filled after
all collections that were met before it; so what is wrong with an outer collection comes to
light before what is wrong with the ones inside it.
-/

namespace SetupForge.Yaml

/-- A part of a value that is being put together. -/
inductive Part where
  | whole (value : Value)
  | collection (id : NodeId)
deriving Repr

structure Key where
  value : Value
  /-- The node of a key that equals nothing but itself. -/
  origin : Option NodeId := none
deriving Repr

inductive Content where
  | list (items : List Part)
  /-- The pairs of a list, each with the node that it comes from. -/
  | pairs (items : List (NodeId × Part × Part))
  | set (keys : List Key)
  | mapping (entries : List (Key × Part))
deriving Repr

def isNotNumber : Value → Bool
  | .real .notNumber => true
  | _ => false

def Key.isSame (a b : Key) : Bool :=
  if isNotNumber a.value && isNotNumber b.value then a.origin == b.origin
  else Value.sameKey a.value b.value

/-- Puts a part under a key: in the place of the same key, or at the end. -/
def putEntry (key : Key) (part : Part) : List (Key × Part) → List (Key × Part)
  | [] => [(key, part)]
  | entry :: entries =>
      if entry.1.isSame key then (entry.1, part) :: entries
      else entry :: putEntry key part entries

structure Assembly where
  graph : Graph
  /-- The parts of the nodes that were met, by number. -/
  parts : Array (Option Part)
  /-- What the collections hold that are filled, by number. -/
  contents : Array (Option Content)
  /-- The collections still to be filled, the last one first. -/
  waiting : List NodeId := []

namespace Assembly

def start (graph : Graph) : Assembly :=
  { graph
    parts := Array.replicate graph.nodes.size none
    contents := Array.replicate graph.nodes.size none }

def scalar (id : NodeId) (assembly : Assembly) : Except Fault Value := do
  let node := assembly.graph.node id
  let text ← assembly.graph.text id
  match node.tag, node.shape with
  | .stamp, .mapping _ => .error .kind
  | tag, _ => Scalar.read tag text

def meetNew (id : NodeId) (assembly : Assembly) : Except Fault (Part × Assembly) := do
  let met (part : Part) (assembly : Assembly) : Except Fault (Part × Assembly) :=
    .ok (part, { assembly with parts := assembly.parts.setIfInBounds id (some part) })
  match (assembly.graph.node id).tag with
  | .merge | .equals | .other _ => .error .tag
  | .list | .pairs | .set | .mapping =>
      met (.collection id) { assembly with waiting := id :: assembly.waiting }
  | _ => met (.whole (← assembly.scalar id)) assembly

def meet (id : NodeId) (assembly : Assembly) : Except Fault (Part × Assembly) :=
  match assembly.parts.getD id none with
  | some part => .ok (part, assembly)
  | none => assembly.meetNew id

def meetAll : List NodeId → Assembly → Except Fault (List Part × Assembly)
  | [], assembly => .ok ([], assembly)
  | id :: ids, assembly => do
      let (part, assembly) ← assembly.meet id
      let (parts, assembly) ← meetAll ids assembly
      .ok (part :: parts, assembly)

/-- The key that a node stands for; a collection cannot be one. -/
def meetKey (id : NodeId) (assembly : Assembly) : Except Fault (Key × Assembly) := do
  let (part, assembly) ← assembly.meet id
  match part with
  | .collection _ => .error .key
  | .whole value =>
      let isShared :=
        match assembly.graph.text id with
        | .ok text => Scalar.isNotNumber text.toList
        | .error _ => false
      let origin := if isNotNumber value && !isShared then some id else none
      .ok (⟨value, origin⟩, assembly)

def meetEntries : List (NodeId × NodeId) → List (Key × Part) → Assembly →
    Except Fault (List (Key × Part) × Assembly)
  | [], entries, assembly => .ok (entries, assembly)
  | (key, value) :: pairs, entries, assembly => do
      let (key, assembly) ← assembly.meetKey key
      let (part, assembly) ← assembly.meet value
      meetEntries pairs (putEntry key part entries) assembly

def meetPairs : List NodeId → Assembly → Except Fault (List (NodeId × Part × Part) × Assembly)
  | [], assembly => .ok ([], assembly)
  | id :: ids, assembly =>
      match assembly.graph.pairs id with
      | [(first, second)] => do
          let (first, assembly) ← assembly.meet first
          let (second, assembly) ← assembly.meet second
          let (pairs, assembly) ← meetPairs ids assembly
          .ok ((id, first, second) :: pairs, assembly)
      | _ => .error .tag

def entriesOf (id : NodeId) (assembly : Assembly) :
    Except Fault (List (Key × Part) × Assembly) := do
  let graph ← assembly.graph.merge id
  meetEntries (graph.pairs id) [] { assembly with graph }

/-- What a collection holds. Its tag has to fit its shape. -/
def contentOf (id : NodeId) (assembly : Assembly) : Except Fault (Content × Assembly) := do
  let node := assembly.graph.node id
  match node.tag, node.shape with
  | .list, .list items => do
      let (parts, assembly) ← meetAll items assembly
      .ok (.list parts, assembly)
  | .pairs, .list items => do
      let (pairs, assembly) ← meetPairs items assembly
      .ok (.pairs pairs, assembly)
  | .set, .mapping _ => do
      let (entries, assembly) ← assembly.entriesOf id
      .ok (.set (entries.map (·.1)), assembly)
  | .mapping, .mapping _ => do
      let (entries, assembly) ← assembly.entriesOf id
      .ok (.mapping entries, assembly)
  | _, _ => .error .tag

def fillAll : List NodeId → Assembly → Except Fault Assembly
  | [], assembly => .ok assembly
  | id :: ids, assembly => do
      let (content, assembly) ← assembly.contentOf id
      fillAll ids
        { assembly with contents := assembly.contents.setIfInBounds id (some content) }

def finishFuel : Nat → Assembly → Except Fault Assembly
  | 0, assembly => .ok assembly
  | fuel + 1, assembly =>
      match assembly.waiting.reverse with
      | [] => .ok assembly
      | round => do finishFuel fuel (← fillAll round { assembly with waiting := [] })

/-- Fills all collections. Every round takes a collection that no other takes. -/
def finish (assembly : Assembly) : Except Fault Assembly :=
  finishFuel (assembly.graph.nodes.size + 1) assembly

def nameOf (id : NodeId) : Nat := 2 * id

def pairNameOf (id : NodeId) : Nat := 2 * id + 1

/-- The value around which others stand; `again` is how it is shown inside itself. -/
def named (hasLoop : Bool) (around : List Nat) (name : Nat) (shown : String)
    (body : List Nat → Value) : Value :=
  if name ∈ around then .again name shown
  else if hasLoop then .loop name (body (name :: around))
  else body (name :: around)

def valueFuel (assembly : Assembly) : Nat → (around : List Nat) → Part → Value
  | _, _, .whole value => value
  | 0, _, .collection _ => .null
  | fuel + 1, around, .collection id =>
      let hasLoop := assembly.graph.hasLoop
      let inside := valueFuel assembly fuel
      match assembly.contents.getD id none with
      | none => .null
      | some (.list items) =>
          named hasLoop around (nameOf id) (Value.list []).innerText fun around =>
            .list (items.map (inside around))
      | some (.pairs items) =>
          named hasLoop around (nameOf id) (Value.list []).innerText fun around =>
            .list (items.map fun (pairId, first, second) =>
              named hasLoop around (pairNameOf pairId) (Value.pair .null .null).innerText
                fun around => .pair (inside around first) (inside around second))
      | some (.set keys) => .set (keys.map (·.value))
      | some (.mapping entries) =>
          named hasLoop around (nameOf id) (Value.mapping []).innerText fun around =>
            .mapping (entries.map fun (key, part) => (key.value, inside around part))

/-- The value of a part. No collection is inside itself twice, so their number bounds the depth. -/
def value (assembly : Assembly) (part : Part) : Value :=
  assembly.valueFuel (assembly.graph.nodes.size + 1) [] part

end Assembly

def Graph.value (graph : Graph) (root : NodeId) : Except Fault Value := do
  let (part, assembly) ← (Assembly.start graph).meet root
  let assembly ← assembly.finish
  .ok (assembly.value part)

end SetupForge.Yaml
