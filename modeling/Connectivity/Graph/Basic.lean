import Std.Data.TreeMap
import Std.Data.TreeSet
import Connectivity.Error
import Connectivity.Topology.Basic

/-!
# The graph of a topology

Every edge point of a known direction is a vertex. Inside a node an edge leads from each vertex that
traffic enters by to each other vertex that it leaves by. An enabled link adds edges the other way
about: from where traffic leaves one device to where it enters the next. Of several edge points with
one id the first is kept, and of several vertices with one sip the first is the one that the sip
resolves to.
-/
namespace Connectivity

/-- An edge point in the graph, with the sip that addresses it and the node that owns it. -/
structure Vertex where
  nodeId : NodeId
  edgePointId : EdgePointId
  sip : Option SipId
  direction : Direction
  driverId : String
  deriving DecidableEq, Repr

def Vertex.ref (v : Vertex) : EdgePointRef := ⟨v.nodeId, v.edgePointId⟩

/-- The vertices that a node offers, in the order of its edge points. -/
def Node.vertices (n : Node) : List Vertex :=
  (n.edgePoints.filter fun p => p.direction ≠ .unknown).map fun p =>
    ⟨n.id, p.id, p.mappedSips.head?, p.direction, n.driverId⟩

/-- Vertices by id, the vertex that each sip resolves to, and the targets of each vertex's edges. -/
structure Graph where
  vertices : Std.TreeMap EdgePointId Vertex
  sips : Std.TreeMap SipId EdgePointId
  targets : Std.TreeMap EdgePointId (Std.TreeSet EdgePointId)

namespace Graph

def empty : Graph := ⟨∅, ∅, ∅⟩

def vertex? (g : Graph) (id : EdgePointId) : Option Vertex := g.vertices[id]?

def hasVertex (g : Graph) (id : EdgePointId) : Bool := g.vertices.contains id

/-- The vertex that a sip resolves to. -/
def vertexOfSip? (g : Graph) (sip : SipId) : Option Vertex :=
  g.sips[sip]?.bind g.vertex?

/-- The ids that edges from `id` lead to, in ascending order. -/
def neighbours (g : Graph) (id : EdgePointId) : List EdgePointId :=
  (g.targets.getD id ∅).toList

def hasEdge (g : Graph) (a b : EdgePointId) : Bool := (g.targets.getD a ∅).contains b

/-- All vertices by ascending id. -/
def vertexList (g : Graph) : List Vertex := g.vertices.values

/-- All edges by ascending source and then target. -/
def edges (g : Graph) : List (EdgePointId × EdgePointId) :=
  g.targets.toList.flatMap fun (a, bs) => bs.toList.map fun b => (a, b)

def vertexCount (g : Graph) : Nat := g.vertices.size

def edgeCount (g : Graph) : Nat := g.targets.foldl (fun count _ bs => count + bs.size) 0

/-- Adds a vertex unless its id is taken. Its sip resolves to it unless it already resolves. -/
def addVertex (g : Graph) (v : Vertex) : Graph :=
  if g.hasVertex v.edgePointId then g
  else
    { vertices := g.vertices.insert v.edgePointId v
      sips := match v.sip with
        | some sip => g.sips.insertIfNew sip v.edgePointId
        | none => g.sips
      targets := g.targets.insert v.edgePointId ∅ }

theorem vertex?_addVertex (g : Graph) (v : Vertex) (id : EdgePointId) :
    (g.addVertex v).vertex? id =
      if v.edgePointId = id then some ((g.vertex? id).getD v) else g.vertex? id := by
  by_cases h : g.hasVertex v.edgePointId = true
  · rw [addVertex, if_pos h]
    split
    case isTrue heq =>
      subst heq
      rw [hasVertex, Std.TreeMap.contains_eq_isSome_getElem?] at h
      obtain ⟨w, hw⟩ := Option.isSome_iff_exists.1 h
      simp only [vertex?, hw, Option.getD_some]
    case isFalse => rfl
  · rw [addVertex, if_neg h]
    simp only [vertex?, Std.TreeMap.getElem?_insert, Std.LawfulEqOrd.compare_eq_iff_eq]
    split
    case isTrue heq =>
      subst heq
      rw [hasVertex, Std.TreeMap.contains_eq_isSome_getElem?, Bool.not_eq_true,
        Option.isSome_eq_false_iff, Option.isNone_iff_eq_none] at h
      rw [h, Option.getD_none]
    case isFalse => rfl

def addEdge (g : Graph) (a b : EdgePointId) : Graph :=
  { g with targets := g.targets.modify a fun bs => bs.insert b }

/-- Only a vertex gets an edge. -/
theorem hasEdge_addEdge (g : Graph) (a b x y : EdgePointId) :
    (g.addEdge a b).hasEdge x y = true ↔
      g.hasEdge x y = true ∨ (x = a ∧ y = b ∧ g.targets.contains a = true) := by
  simp only [addEdge, hasEdge, Std.TreeMap.getD_eq_getD_getElem?, Std.TreeMap.getElem?_modify,
    Std.LawfulEqOrd.compare_eq_iff_eq, Std.TreeMap.contains_eq_isSome_getElem?]
  by_cases hax : a = x
  · subst hax
    cases h : g.targets[a]? with
    | none => simp
    | some bs =>
        simp only [if_pos, Option.map_some, Option.getD_some, Std.TreeSet.contains_insert,
          Bool.or_eq_true, beq_iff_eq, Std.LawfulEqOrd.compare_eq_iff_eq, Option.isSome_some,
          and_true, true_and]
        rw [or_comm, @eq_comm _ b y]
  · simp [hax, Ne.symm hax]

/-- Adds an edge from each of `sources` to each other one of `sinks`. -/
def connect (g : Graph) (sources sinks : List EdgePointId) : Graph :=
  sources.foldl (fun g a => (sinks.filter (· ≠ a)).foldl (fun g b => g.addEdge a b) g) g

/-- Those of `ids` that are vertices by which traffic enters. -/
def inputsAmong (g : Graph) (ids : List EdgePointId) : List EdgePointId :=
  ids.filter fun id => (g.vertex? id).any fun v => v.direction.isInputCapable

/-- Those of `ids` that are vertices by which traffic leaves. -/
def outputsAmong (g : Graph) (ids : List EdgePointId) : List EdgePointId :=
  ids.filter fun id => (g.vertex? id).any fun v => v.direction.isOutputCapable

/-- Adds a node's vertices, and the edges that the device can switch between them. -/
def addNode (g : Graph) (n : Node) : Graph :=
  let ids := n.vertices.map (·.edgePointId)
  let g := n.vertices.foldl addVertex g
  g.connect (g.inputsAmong ids) (g.outputsAmong ids)

/-- Adds the edges of a link; edge points that are no vertices take no part. -/
def addLink (g : Graph) (l : Link) : Graph :=
  let ids := l.edgePoints.map (·.edgePointId)
  g.connect (g.outputsAmong ids) (g.inputsAmong ids)

/-- The graph of a topology that has nodes. -/
def ofTopology (t : Topology) : Except Error Graph :=
  if t.nodes.isEmpty then
    .error (.failureResult ("There are no nodes in " ++ t.id ++ " topology"))
  else
    .ok ((t.links.filter Link.isEnabled).foldl addLink (t.nodes.foldl addNode empty))

/-- Graphs with the same ids of vertices, resolution of sips and edges. What the vertices say beyond
their ids does not count. -/
def agrees (g h : Graph) : Bool :=
  g.vertices.keys = h.vertices.keys && g.sips.toList = h.sips.toList &&
    g.targets.toList.map (fun (a, bs) => (a, bs.toList)) =
      h.targets.toList.map fun (a, bs) => (a, bs.toList)

end Graph

end Connectivity
