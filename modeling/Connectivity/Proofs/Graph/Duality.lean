import Connectivity.Proofs.Graph.Reversal

/-!
# The opposite topology

In the opposite of a topology traffic enters where it left, and leaves where it entered. Inside a
node edges lead from where traffic enters to where it leaves, and over a link from where it leaves
to where it enters. So either kind of edge is turned round, while the vertices and what sips resolve
to stay the same but for the directions.
-/
namespace Connectivity

/-- Input and output are exchanged. -/
def Direction.opposite : Direction → Direction
  | input => output
  | output => input
  | bidirectional => bidirectional
  | unknown => unknown

namespace Direction

@[simp] theorem opposite_opposite (d : Direction) : d.opposite.opposite = d := by cases d <;> rfl

@[simp] theorem isInputCapable_opposite (d : Direction) :
    d.opposite.isInputCapable = d.isOutputCapable := by cases d <;> rfl

@[simp] theorem isOutputCapable_opposite (d : Direction) :
    d.opposite.isOutputCapable = d.isInputCapable := by cases d <;> rfl

@[simp] theorem opposite_eq_unknown_iff {d : Direction} : d.opposite = unknown ↔ d = unknown := by
  cases d <;> decide

/-- What serves a request serves the opposite one if it is turned round itself. -/
@[simp] theorem accepts_opposite (point requested : Direction) :
    point.opposite.accepts requested.opposite = point.accepts requested := by
  cases point <;> cases requested <;> rfl

end Direction

def EdgePoint.opposite (p : EdgePoint) : EdgePoint := { p with direction := p.direction.opposite }

def Node.opposite (n : Node) : Node := { n with edgePoints := n.edgePoints.map EdgePoint.opposite }

def Topology.opposite (t : Topology) : Topology := { t with nodes := t.nodes.map Node.opposite }

def Vertex.opposite (v : Vertex) : Vertex := { v with direction := v.direction.opposite }

@[simp] theorem Vertex.opposite_opposite (v : Vertex) : v.opposite.opposite = v := by
  simp [opposite]

theorem Vertex.opposite_involutive : Function.Involutive Vertex.opposite := opposite_opposite

theorem Node.vertices_opposite (n : Node) :
    n.opposite.vertices = n.vertices.map Vertex.opposite := by
  have hknown : (fun p : EdgePoint => decide (p.opposite.direction ≠ .unknown)) =
      fun p => decide (p.direction ≠ .unknown) := by
    funext p
    simp [EdgePoint.opposite]
  simp only [vertices, opposite, List.filter_map, List.map_map, Function.comp_def, hknown]
  rfl

theorem Node.vertexIds_opposite (n : Node) : n.opposite.vertexIds = n.vertexIds := by
  rw [vertexIds, vertices_opposite, List.map_map]
  rfl

theorem Topology.vertices_opposite (t : Topology) :
    t.opposite.vertices = t.vertices.map Vertex.opposite := by
  simp only [vertices, opposite, List.flatMap_map, List.map_flatMap, Node.vertices_opposite]

namespace Graph

variable {g h : Graph} {t : Topology} {a b id : EdgePointId}

/-- A graph has the vertices of another one, with the opposite directions, and its edges turned
round. -/
structure Dual (h g : Graph) : Prop where
  vertex : ∀ id, h.vertex? id = (g.vertex? id).map Vertex.opposite
  sip : ∀ sip, h.vertexOfSip? sip = (g.vertexOfSip? sip).map Vertex.opposite
  edges : h.Reverses g

theorem Dual.symm (hd : h.Dual g) : g.Dual h where
  vertex id := by
    rw [hd.vertex, Option.map_map, Vertex.opposite_involutive.comp_self, Option.map_id_apply]
  sip sip := by
    rw [hd.sip, Option.map_map, Vertex.opposite_involutive.comp_self, Option.map_id_apply]
  edges := hd.edges.symm

section Opposite

variable (hvertex : ∀ id, h.vertex? id = (g.vertex? id).map Vertex.opposite)
include hvertex

theorem enters_opposite : h.Enters id ↔ g.Leaves id := by
  simp [Enters, Leaves, hvertex, Vertex.opposite]

theorem leaves_opposite : h.Leaves id ↔ g.Enters id := by
  simp [Enters, Leaves, hvertex, Vertex.opposite]

/-- A device of the opposite topology leads traffic back. -/
theorem switches_opposite {n : Node} : h.Switches n.opposite a b ↔ g.Switches n b a := by
  constructor
  · rintro ⟨ha, hb, henters, hleaves⟩
    rw [Node.vertexIds_opposite] at ha hb
    exact ⟨hb, ha, (leaves_opposite hvertex).1 hleaves, (enters_opposite hvertex).1 henters⟩
  · rintro ⟨hb, ha, henters, hleaves⟩
    rw [← Node.vertexIds_opposite] at ha hb
    exact ⟨ha, hb, (enters_opposite hvertex).2 hleaves, (leaves_opposite hvertex).2 henters⟩

theorem carries_opposite {l : Link} : h.Carries l a b ↔ g.Carries l b a := by
  constructor
  · rintro ⟨ha, hb, hleaves, henters⟩
    exact ⟨hb, ha, (enters_opposite hvertex).1 henters, (leaves_opposite hvertex).1 hleaves⟩
  · rintro ⟨hb, ha, hleaves, henters⟩
    exact ⟨ha, hb, (leaves_opposite hvertex).2 henters, (enters_opposite hvertex).2 hleaves⟩

end Opposite

section Topologies

variable (hg : ofTopology t = .ok g) (hh : ofTopology t.opposite = .ok h)
include hg hh

theorem vertex?_opposite (id : EdgePointId) :
    h.vertex? id = (g.vertex? id).map Vertex.opposite := by
  rw [(ofTopology_resolves hg).vertex, (ofTopology_resolves hh).vertex, Topology.vertices_opposite,
    List.find?_map]
  rfl

/-- The first vertex of a sip is the same one, as the same vertices are kept. -/
theorem vertexOfSip?_opposite (sip : SipId) :
    h.vertexOfSip? sip = (g.vertexOfSip? sip).map Vertex.opposite := by
  have hkept : ∀ v : Vertex, h.vertex? v.opposite.edgePointId = some v.opposite ↔
      g.vertex? v.edgePointId = some v := by
    intro v
    rw [vertex?_opposite hg hh]
    exact (Option.map_injective Vertex.opposite_involutive.injective).eq_iff (b := some v)
  rw [(ofTopology_resolves hg).sip, (ofTopology_resolves hh).sip, Topology.vertices_opposite,
    List.find?_map]
  congr 2
  funext v
  simp only [Function.comp_apply, hkept]
  rfl

theorem reverses_opposite : h.Reverses g := by
  intro a b
  have hvertex := vertex?_opposite hg hh
  rw [hasEdge_ofTopology hg, hasEdge_ofTopology hh, ne_comm]
  refine and_congr Iff.rfl (or_congr ?_ ?_)
  · simp only [Topology.opposite, List.mem_map, exists_exists_and_eq_and,
      switches_opposite hvertex]
  · simp only [Topology.opposite, carries_opposite hvertex]

theorem dual_opposite : h.Dual g :=
  ⟨vertex?_opposite hg hh, vertexOfSip?_opposite hg hh, reverses_opposite hg hh⟩

end Topologies

end Graph

end Connectivity
