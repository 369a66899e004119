import SetupForge.Yaml.Scalar

/-! # Graphs of nodes

A document is a graph: a node knows its parts by number, so a node can be part of several
others and even of itself. A merge key takes over the pairs of the mappings that it names;
they come before the pairs of its own mapping, so that own pairs count.
-/

namespace SetupForge.Yaml

abbrev NodeId := Nat

inductive Shape where
  | scalar (text : String)
  | list (items : List NodeId)
  | mapping (pairs : List (NodeId × NodeId))
deriving DecidableEq, Repr

structure Node where
  tag : Tag
  shape : Shape
deriving DecidableEq, Repr

def Node.empty : Node := ⟨.null, .scalar ""⟩

structure Graph where
  nodes : Array Node := #[]
  /-- Whether a node is named inside itself. -/
  hasLoop : Bool := false

namespace Graph

def node (graph : Graph) (id : NodeId) : Node := graph.nodes.getD id .empty

def add (node : Node) (graph : Graph) : NodeId × Graph :=
  (graph.nodes.size, { graph with nodes := graph.nodes.push node })

def reshape (id : NodeId) (shape : Shape) (graph : Graph) : Graph :=
  { graph with nodes := graph.nodes.setIfInBounds id { graph.node id with shape } }

def retag (id : NodeId) (tag : Tag) (graph : Graph) : Graph :=
  { graph with nodes := graph.nodes.setIfInBounds id { graph.node id with tag } }

/-- The pairs of a node; only a mapping has any. -/
def pairs (graph : Graph) (id : NodeId) : List (NodeId × NodeId) :=
  match (graph.node id).shape with
  | .mapping pairs => pairs
  | _ => []

def partCount : Shape → Nat
  | .scalar _ => 0
  | .list items => items.length
  | .mapping pairs => pairs.length

def size (graph : Graph) : Nat :=
  (graph.nodes.map fun node => partCount node.shape + 1).foldl (· + ·) 0

/-- The text of a node that is read as a scalar. A mapping stands for its default value. -/
def textFuel (graph : Graph) : Nat → NodeId → Except Fault String
  | 0, _ => .error .depth
  | fuel + 1, id =>
      match (graph.node id).shape with
      | .scalar text => .ok text
      | .list _ => .error .tag
      | .mapping pairs =>
          match pairs.find? fun (key, _) => (graph.node key).tag = .equals with
          | some (_, value) => textFuel graph fuel value
          | none => .error .tag

/-- The text of a node that is read as a scalar; one that goes through itself has none. -/
def text (graph : Graph) (id : NodeId) : Except Fault String := graph.textFuel (graph.size + 1) id

/-- Cuts pairs around the first one with a merge key, and gives the value of that one. -/
def cutMerge? (graph : Graph) : List (NodeId × NodeId) →
    Option (List (NodeId × NodeId) × NodeId × List (NodeId × NodeId))
  | [] => none
  | (key, value) :: pairs =>
      if (graph.node key).tag = .merge then some ([], value, pairs)
      else
        (cutMerge? graph pairs).map fun (before, merged, after) =>
          ((key, value) :: before, merged, after)

def nameDefaults (pairs : List (NodeId × NodeId)) (graph : Graph) : Graph :=
  pairs.foldl (fun graph (key, _) =>
    if (graph.node key).tag = .equals then graph.retag key .text else graph) graph

mutual

/-- Carries out the merges of a mapping, `merged` being the pairs that earlier ones gave. -/
def mergeFuel : Nat → (merged : List (NodeId × NodeId)) → NodeId → Graph → Except Fault Graph
  | 0, _, _, _ => .error .depth
  | fuel + 1, merged, id, graph =>
      match graph.cutMerge? (graph.pairs id) with
      | none =>
          let own := graph.pairs id
          .ok ((graph.nameDefaults own).reshape id (.mapping (merged ++ own)))
      | some (before, value, after) => do
          let (more, graph) ←
            mergedByFuel fuel value (graph.reshape id (.mapping (before ++ after)))
          mergeFuel fuel (merged ++ more) id graph

/-- The pairs that a node merges in: those of a mapping, or of a list of mappings. -/
def mergedByFuel : Nat → NodeId → Graph → Except Fault (List (NodeId × NodeId) × Graph)
  | 0, _, _ => .error .depth
  | fuel + 1, id, graph =>
      match (graph.node id).shape with
      | .scalar _ => .error .key
      | .list items => mergedByAllFuel fuel items graph
      | .mapping _ => do
          let graph ← mergeFuel fuel [] id graph
          .ok (graph.pairs id, graph)

/-- The pairs that mappings merge in. Those of later mappings come first, so that earlier ones
count more. -/
def mergedByAllFuel : Nat → List NodeId → Graph →
    Except Fault (List (NodeId × NodeId) × Graph)
  | 0, _, _ => .error .depth
  | _ + 1, [], graph => .ok ([], graph)
  | fuel + 1, item :: items, graph =>
      match (graph.node item).shape with
      | .mapping _ => do
          let graph ← mergeFuel fuel [] item graph
          let first := graph.pairs item
          let (rest, graph) ← mergedByAllFuel fuel items graph
          .ok (rest ++ first, graph)
      | _ => .error .key

end

/-- Carries out the merges of a mapping. Every merge is carried out once, so the size of the graph
bounds how deep they go. -/
def merge (id : NodeId) (graph : Graph) : Except Fault Graph :=
  mergeFuel (4 * graph.size + 4) [] id graph

end Graph

end SetupForge.Yaml
