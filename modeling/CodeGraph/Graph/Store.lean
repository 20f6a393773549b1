import Std.Data.ExtTreeMap
import CodeGraph.Graph.Payload
import CodeGraph.Graph.Change
/-!
The stored graph. Every operation reads the clock as `now`, records what it changed in the history and notes the ids
whose state or edges it changed; an operation that changes nothing leaves no trace.
-/
namespace CodeGraph

/-- Bytes that a stored record of each kind takes up apart from its texts. -/
structure RecordSizes where
  node : Nat := 0
  edge : Nat := 0
  change : Nat := 0
  deriving Inhabited

abbrev NodeMap := Std.ExtTreeMap String Node
abbrev EdgeMap := Std.ExtTreeMap EdgeKey Edge

structure Store where
  nodes : NodeMap := ∅
  edges : EdgeMap := ∅
  history : List Change := []
  /-- The newest this many changes are kept, or all. -/
  historyLimit : Option Nat := none
  dirty : StringSet := ∅

namespace Store

def empty (historyLimit : Option Nat) : Store := { historyLimit }

def node? (s : Store) (id : String) : Option Node := s.nodes[id]?
def edge? (s : Store) (source target : String) : Option Edge := s.edges[(source, target)]?
def contains (s : Store) (id : String) : Bool := s.nodes.contains id

/-- All nodes in increasing order of their ids. -/
def nodeList (s : Store) : List Node := s.nodes.toList.map (·.2)

/-- All edges in increasing order of their sources, then targets. -/
def edgeList (s : Store) : List Edge := s.edges.toList.map (·.2)

def edgesOf (s : Store) (id : String) : List Edge := s.edgeList.filter (·.touches id)
def inDegree (s : Store) (id : String) : Nat := (s.edgeList.filter (·.target == id)).length
def outDegree (s : Store) (id : String) : Nat := (s.edgeList.filter (·.source == id)).length

/-- Edges with an end that is no node. -/
def danglingEdges (s : Store) : Nat :=
  (s.edgeList.filter fun e => !s.contains e.source || !s.contains e.target).length

/-- Bytes of text in nodes and edges. -/
def textBytes (s : Store) : Nat :=
  total (s.nodeList.map Node.textBytes)
    + total (s.edgeList.map fun e => e.source.utf8ByteSize * 2 + e.target.utf8ByteSize * 2)

/-- Bytes of the whole graph. Of a change only the record counts. -/
def bytes (s : Store) (sizes : RecordSizes) : Nat :=
  s.textBytes + s.nodes.size * sizes.node + s.edges.size * sizes.edge + s.history.length * sizes.change

def keepNewest (limit : Option Nat) (history : List Change) : List Change :=
  match limit with
  | some n => history.drop (history.length - n)
  | none => history

def record (s : Store) (now : Time) (kind : ChangeKind) (path : String) (payload : Json) : Store :=
  { s with history := keepNewest s.historyLimit (s.history ++ [⟨kind, path, payload, now⟩]) }

def mark (s : Store) (id : String) : Store := { s with dirty := s.dirty.insert id }

/-- The dirty ids, and the store without them. -/
def takeDirty (s : Store) : StringSet × Store := (s.dirty, { s with dirty := ∅ })

/-- Changes the node of that id, which is created if there is none; tells whether the node differs afterwards. -/
def modify (s : Store) (now : Time) (id kind : String) (change : ChangeKind) (payload : Json)
    (f : Node → Node) : Store × Bool :=
  let before := s.node? id
  let after := f (before.getD (Node.ofId id kind))
  let s := { s with nodes := s.nodes.insert id after }
  if before == some after then (s, false)
  else ((s.mark id).record now change after.path payload, true)

def upsertNode (s : Store) (now : Time) (data : Json) : Except ValidationError (String × Store) := do
  let patch ← NodePatch.parse data
  return (patch.id, (s.modify now patch.id patch.kind .file data patch.apply).1)

/-- Creates the node if there is none; an existing node is left alone. -/
def ensureNode (s : Store) (now : Time) (id kind : String) (change : ChangeKind) : Store × Bool :=
  if s.contains id then (s, false)
  else s.modify now id kind change (.obj [("created", .str id)]) fun n => n

/-- Removes a node, the edges that touch it and every mention of it. -/
def removeNode (s : Store) (now : Time) (id : String) : Except ValidationError (Node × Store) :=
  match s.node? id with
  | none => .error (.unknownNode id)
  | some node =>
    let edges := s.edges.filter fun _ e => !e.touches id
    let removed := s.edges.size - edges.size
    let others := s.nodes.erase id
    let affected := (others.toList.filter (·.2.mentions id)).map (·.2.id)
    let dirty := (s.dirty.insertMany affected).insert id
    let s := { s with nodes := others.map fun _ (n : Node) => n.forget id, edges, dirty }
    .ok (node, s.record now .file node.path (.obj [("edgesRemoved", .nat removed), ("removed", .str id)]))

/-- Stores an edge in place of any with the same ends; tells whether that changed it. -/
def putEdge (s : Store) (now : Time) (edge : Edge) (payload : Json) : Store × Bool :=
  if s.edges[edge.key]? == some edge then (s, false)
  else
    let s := (s.mark edge.source).mark edge.target
    let s := { s with edges := s.edges.insert edge.key edge }
    (s.record now .dependency edge.source payload, true)

def upsertEdge (s : Store) (now : Time) (data : Json) : Except ValidationError (EdgeKey × Store) := do
  let edge ← Edge.parse data
  return (edge.key, (s.putEdge now edge data).1)

def removeEdge (s : Store) (now : Time) (source target : String) : Except ValidationError (Edge × Store) :=
  match s.edge? source target with
  | none => .error (.unknownEdge source target)
  | some edge =>
    let s := (s.mark source).mark target
    let s := { s with edges := s.edges.erase (source, target) }
    let payload := Json.obj [("removedEdge", .obj [("from", .str source), ("to", .str target)])]
    .ok (edge, s.record now .dependency source payload)

end Store
end CodeGraph
