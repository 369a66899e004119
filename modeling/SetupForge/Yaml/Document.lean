import SetupForge.Yaml.Graph
import SetupForge.Yaml.Token

/-! # The document of some tokens

Tokens form the graph of one document. An alias stands for the node that its anchor names,
which may still be open. Whatever is left out where a node could stand is an empty plain
scalar. A text that breaks off matters only where something is expected there.
-/

namespace SetupForge.Yaml

namespace Document

/-- Tokens that are partly read, and what is known of the document so far. -/
structure Reading where
  tokens : List Token
  graph : Graph := {}
  anchors : List (String × NodeId) := []
  /-- What tags start with, by handle. -/
  handles : List (String × String) := []
  /-- The nodes around the one that is being read, from the inside out. -/
  around : List NodeId := []

/-- How many nodes can be open at once. An open node takes two of the thousand calls that can be
inside each other, and this is the number of nodes for which there is room where the reading of a
document starts. -/
def deepest : Nat := 487

def standardHandles : List (String × String) := [("!", "!"), ("!!", Tag.standard)]

def Reading.fault (reading : Reading) : Fault :=
  match reading.tokens with
  | .broken fault :: _ => fault
  | _ => .node

structure Properties where
  anchor : Option String := none
  tag : Option String := none

def tagName (handles : List (String × String)) (handle : Option String) (suffix : String) :
    Except Fault String :=
  match handle with
  | none => .ok suffix
  | some handle =>
      match handles.lookup handle with
      | some start => .ok (start ++ suffix)
      | none => .error .tag

/-- Reads the anchor and tag before a node, in either order. After one of them the next token has
to be known, as it could be the other. -/
def readProperties (reading : Reading) : Except Fault (Properties × Reading) := do
  let named := tagName reading.handles
  match reading.tokens with
  | .anchor _ :: .broken fault :: _ | .tag _ _ :: .broken fault :: _ => .error fault
  | .anchor anchor :: .tag handle suffix :: tokens
  | .tag handle suffix :: .anchor anchor :: tokens =>
      .ok (⟨some anchor, some (← named handle suffix)⟩, { reading with tokens })
  | .anchor anchor :: tokens => .ok (⟨some anchor, none⟩, { reading with tokens })
  | .tag handle suffix :: tokens =>
      .ok (⟨none, some (← named handle suffix)⟩, { reading with tokens })
  | _ => .ok ({}, reading)

namespace Properties

def isEmpty (properties : Properties) : Bool :=
  properties.anchor.isNone && properties.tag.isNone

def tagOr (properties : Properties) (usual : Tag) : Tag :=
  match properties.tag with
  | none | some "!" => usual
  | some name => Tag.ofName name

/-- The tag of a scalar. An exclamation mark alone has it read as if it were plain. -/
def scalarTag (properties : Properties) (text : String) (isPlain : Bool) : Tag :=
  match properties.tag with
  | none => if isPlain then Scalar.tagOfForm text else .text
  | some "!" => Scalar.tagOfForm text
  | some name => Tag.ofName name

end Properties

/-- Adds a node to the graph; its anchor must be a new one. -/
def addNode (properties : Properties) (node : Node) (reading : Reading) :
    Except Fault (NodeId × Reading) :=
  let (id, graph) := reading.graph.add node
  match properties.anchor with
  | none => .ok (id, { reading with graph })
  | some anchor =>
      if (reading.anchors.lookup anchor).isSome then .error .anchor
      else .ok (id, { reading with graph, anchors := (anchor, id) :: reading.anchors })

def addScalar (properties : Properties) (text : String) (isPlain : Bool) (reading : Reading) :
    Except Fault (NodeId × Reading) :=
  addNode properties ⟨properties.scalarTag text isPlain, .scalar text⟩ reading

def addEmpty (reading : Reading) : Except Fault (NodeId × Reading) := addNode {} .empty reading

def addAround (properties : Properties) (tag : Tag) (shape : List α → Shape)
    (read : Reading → Except Fault (List α × Reading)) (reading : Reading) :
    Except Fault (NodeId × Reading) := do
  let (id, reading) ← addNode properties ⟨tag, shape []⟩ reading
  if deepest ≤ reading.around.length then .error .depth
  else
    let around := reading.around
    let (parts, reading) ← read { reading with around := id :: around }
    .ok (id, { reading with graph := reading.graph.reshape id (shape parts), around })

def addList (properties : Properties) :
    (Reading → Except Fault (List NodeId × Reading)) → Reading → Except Fault (NodeId × Reading) :=
  addAround properties (properties.tagOr .list) .list

def addMapping (properties : Properties) :
    (Reading → Except Fault (List (NodeId × NodeId) × Reading)) → Reading →
      Except Fault (NodeId × Reading) :=
  addAround properties (properties.tagOr .mapping) .mapping

def named (name : String) (reading : Reading) : Except Fault (NodeId × Reading) :=
  match reading.anchors.lookup name with
  | none => .error .anchor
  | some id =>
      let hasLoop := reading.graph.hasLoop || reading.around.contains id
      .ok (id, { reading with graph := { reading.graph with hasLoop } })

/-- Where a node stands: what it can be, and what may follow if it is left out. -/
structure Place where
  /-- Whether block collections can stand here. -/
  inBlock : Bool := false
  /-- Whether the entries of a list can follow without an indent. -/
  entries : Bool := false

def isLeftOut (stops : List Token) (reading : Reading) : Bool :=
  match reading.tokens with
  | [] => false
  | token :: _ => stops.contains token

mutual

def readFuel : Nat → Place → Reading → Except Fault (NodeId × Reading)
  | 0, _, _ => .error .node
  | fuel + 1, place, reading =>
      match reading.tokens with
      | .alias name :: tokens => named name { reading with tokens }
      | _ => do
          let (properties, reading) ← readProperties reading
          let within (tokens : List Token) : Reading := { reading with tokens }
          match place.inBlock, reading.tokens with
          | _, .scalar text isPlain :: tokens =>
              addScalar properties text isPlain (within tokens)
          | _, .flowList :: tokens =>
              addList properties (readFlowItemsFuel fuel true) (within tokens)
          | _, .flowMapping :: tokens =>
              addMapping properties (readFlowPairsFuel fuel true) (within tokens)
          | true, .blockList :: tokens =>
              addList properties (readEntriesFuel fuel) (within tokens)
          | true, .blockMapping :: tokens =>
              addMapping properties (readPairsFuel fuel) (within tokens)
          | _, .broken fault :: _ => .error fault
          | _, tokens =>
              if place.entries && tokens.head? == some .blockEntry then
                addList properties (readBareEntriesFuel fuel) reading
              else if properties.isEmpty then .error .node
              else addScalar properties "" true reading

/-- Reads a node unless one of some tokens comes next. -/
def readOrEmptyFuel : Nat → Place → (stops : List Token) → Reading →
    Except Fault (NodeId × Reading)
  | 0, _, _, _ => .error .node
  | fuel + 1, place, stops, reading =>
      if isLeftOut stops reading then addEmpty reading else readFuel fuel place reading

def readEntriesFuel : Nat → Reading → Except Fault (List NodeId × Reading)
  | 0, _ => .error .node
  | fuel + 1, reading =>
      match reading.tokens with
      | .blockEnd :: tokens => .ok ([], { reading with tokens })
      | .blockEntry :: tokens => do
          let (item, reading) ← readOrEmptyFuel fuel { inBlock := true }
            [.blockEntry, .blockEnd] { reading with tokens }
          let (items, reading) ← readEntriesFuel fuel reading
          .ok (item :: items, reading)
      | _ => .error reading.fault

/-- Reads the entries of a list that is not indented further than the key before it. -/
def readBareEntriesFuel : Nat → Reading → Except Fault (List NodeId × Reading)
  | 0, _ => .error .node
  | fuel + 1, reading =>
      match reading.tokens with
      | .blockEntry :: tokens => do
          let (item, reading) ← readOrEmptyFuel fuel { inBlock := true }
            [.blockEntry, .key, .value, .blockEnd] { reading with tokens }
          let (items, reading) ← readBareEntriesFuel fuel reading
          .ok (item :: items, reading)
      | _ => .ok ([], reading)

def readValueFuel : Nat → Place → (stops : List Token) → Reading →
    Except Fault (NodeId × Reading)
  | 0, _, _, _ => .error .node
  | fuel + 1, place, stops, reading =>
      match reading.tokens with
      | .value :: tokens => readOrEmptyFuel fuel place stops { reading with tokens }
      | _ => addEmpty reading

def readPairsFuel : Nat → Reading → Except Fault (List (NodeId × NodeId) × Reading)
  | 0, _ => .error .node
  | fuel + 1, reading =>
      let place : Place := { inBlock := true, entries := true }
      let stops : List Token := [.key, .value, .blockEnd]
      match reading.tokens with
      | .blockEnd :: tokens => .ok ([], { reading with tokens })
      | .key :: tokens => do
          let (key, reading) ← readOrEmptyFuel fuel place stops { reading with tokens }
          let (value, reading) ← readValueFuel fuel place stops reading
          let (pairs, reading) ← readPairsFuel fuel reading
          .ok ((key, value) :: pairs, reading)
      | _ => .error reading.fault

/-- Reads a key without an indicator of its own, and the value after it, between brackets. -/
def readFlowPairFuel : Nat → (stops : List Token) → Reading →
    Except Fault (List (NodeId × NodeId) × Reading)
  | 0, _, _ => .error .node
  | fuel + 1, stops, reading => do
      let (key, reading) ← readOrEmptyFuel fuel {} (.value :: stops) reading
      let (value, reading) ← readValueFuel fuel {} stops reading
      .ok ([(key, value)], reading)

def readFlowItemsFuel : Nat → (isFirst : Bool) → Reading →
    Except Fault (List NodeId × Reading)
  | 0, _, _ => .error .node
  | fuel + 1, isFirst, reading =>
      match isFirst, reading.tokens with
      | _, .flowListEnd :: tokens => .ok ([], { reading with tokens })
      | false, .flowEntry :: tokens => readFlowItemsFuel fuel true { reading with tokens }
      | false, _ => .error reading.fault
      | true, .key :: tokens => do
          let (item, reading) ←
            addMapping {} (readFlowPairFuel fuel [.flowEntry, .flowListEnd])
              { reading with tokens }
          let (items, reading) ← readFlowItemsFuel fuel false reading
          .ok (item :: items, reading)
      | true, _ => do
          let (item, reading) ← readFuel fuel {} reading
          let (items, reading) ← readFlowItemsFuel fuel false reading
          .ok (item :: items, reading)

def readFlowPairsFuel : Nat → (isFirst : Bool) → Reading →
    Except Fault (List (NodeId × NodeId) × Reading)
  | 0, _, _ => .error .node
  | fuel + 1, isFirst, reading =>
      match isFirst, reading.tokens with
      | _, .flowMappingEnd :: tokens => .ok ([], { reading with tokens })
      | false, .flowEntry :: tokens => readFlowPairsFuel fuel true { reading with tokens }
      | false, _ => .error reading.fault
      | true, .key :: tokens => do
          let (pair, reading) ←
            readFlowPairFuel fuel [.flowEntry, .flowMappingEnd] { reading with tokens }
          let (pairs, reading) ← readFlowPairsFuel fuel false reading
          .ok (pair ++ pairs, reading)
      | true, _ => do
          let (key, reading) ← readFuel fuel {} reading
          let (value, reading) ← addEmpty reading
          let (pairs, reading) ← readFlowPairsFuel fuel false reading
          .ok ((key, value) :: pairs, reading)

end

def readDirectives : (versioned : Bool) → List (String × String) → List Token →
    Except Fault (List (String × String) × List Token)
  | versioned, handles, .directive (.version major) :: tokens =>
      if versioned || major != 1 then .error .document
      else readDirectives true handles tokens
  | versioned, handles, .directive (.tagHandle handle start) :: tokens =>
      if (handles.lookup handle).isSome then .error .document
      else readDirectives versioned ((handle, start) :: handles) tokens
  | versioned, handles, .directive .unknown :: tokens => readDirectives versioned handles tokens
  | _, handles, tokens => .ok (handles, tokens)

/-- What is wrong with the tokens after a document: nothing if only ends of documents are left. -/
def finish : List Token → Except Fault Unit
  | [] => .ok ()
  | .documentEnd :: tokens => finish tokens
  | .broken fault :: _ => .error fault
  | _ => .error .document

def readRoot (reading : Reading) : Except Fault (NodeId × Graph) := do
  let fuel := 4 * reading.tokens.length + 4
  let (root, reading) ←
    match reading.tokens with
    | [] | .documentEnd :: _ | .documentStart :: _ | .directive _ :: _ => addEmpty reading
    | _ => readFuel fuel { inBlock := true } reading
  finish reading.tokens
  .ok (root, reading.graph)

/-- Reads the only document of some tokens, if they have one: its root and its graph. -/
def ofTokens (tokens : List Token) : Except Fault (Option (NodeId × Graph)) := do
  match tokens with
  | [] => .ok none
  | .documentEnd :: _ => .error .node
  | .directive _ :: _ | .documentStart :: _ =>
      let (handles, rest) ← readDirectives false [] tokens
      match rest with
      | .documentStart :: tokens =>
          return some (← readRoot { tokens, handles := handles ++ standardHandles })
      | .broken fault :: _ => .error fault
      | _ => .error .document
  | _ => return some (← readRoot { tokens, handles := standardHandles })

end Document

end SetupForge.Yaml
