import Connectivity.Proofs.Graph.Edges
import Connectivity.Proofs.Graph.LeastRoute

/-!
# Routes the other way

Where every edge of one graph leads the other way in another one, so do its routes, and the shortest
ones are shortest there. A graph of bidirectional edge points has all its edges both ways. If there
is one shortest route between two of its edge points, then it is also taken on the way back.
-/
namespace Connectivity

/-- Traffic can go both ways at all edge points that the nodes offer. -/
def Topology.Bidirectional (t : Topology) : Prop :=
  ∀ n ∈ t.nodes, ∀ v ∈ n.vertices, v.direction = .bidirectional

namespace Graph

variable {g h : Graph} {t : Topology} {a b : EdgePointId} {route : List EdgePointId}

/-- The edges of the one graph lead the other way in the other. -/
def Reverses (h g : Graph) : Prop :=
  ∀ a b, h.hasEdge a b = true ↔ g.hasEdge b a = true

theorem Reverses.symm (hr : h.Reverses g) : g.Reverses h :=
  fun a b => (hr b a).symm

theorem Reverses.isRoute (hr : h.Reverses g) (hroute : g.IsRoute a b route) :
    h.IsRoute b a route.reverse where
  starts := by rw [List.head?_reverse, hroute.ends]
  ends := by rw [List.getLast?_reverse, hroute.starts]
  joined := by
    rw [List.isChain_reverse]
    exact hroute.joined.imp fun x y hedge => (hr y x).2 hedge

theorem Reverses.reaches (hr : h.Reverses g) (hreach : g.Reaches a b) : h.Reaches b a := by
  obtain ⟨n, hwalk⟩ := hreach
  obtain ⟨route, hroute, -⟩ := hwalk.exists_isRoute
  obtain ⟨m, -, hback⟩ := (hr.isRoute hroute).walk
  exact ⟨m, hback⟩

theorem Reverses.shortest (hr : h.Reverses g) (hroute : route ∈ g.shortestRoutes a b) :
    route.reverse ∈ h.shortestRoutes b a := by
  obtain ⟨hroute, hleast⟩ := hroute
  refine ⟨hr.isRoute hroute, fun other hother => ?_⟩
  have hle := hleast other.reverse (hr.symm.isRoute hother)
  rwa [List.length_reverse] at hle ⊢

section Bidirectional

variable (hb : t.Bidirectional) (hg : ofTopology t = .ok g)
include hb hg

theorem direction_of_bidirectional {id : EdgePointId} {v : Vertex} (hv : g.vertex? id = some v) :
    v.direction = .bidirectional := by
  obtain ⟨n, hn, hvn⟩ := exists_node_of_kept hg hv
  exact hb n hn v hvn

/-- Every edge is there both ways, as traffic enters and leaves at both of its ends. -/
theorem reverses_of_bidirectional : g.Reverses g := by
  suffices hback : ∀ a b, g.hasEdge a b = true → g.hasEdge b a = true by
    exact fun a b => ⟨hback a b, hback b a⟩
  intro a b hedge
  have henters : ∀ id, g.Leaves id → g.Enters id := by
    rintro id ⟨v, hv, -⟩
    exact ⟨v, hv, by rw [direction_of_bidirectional hb hg hv]; rfl⟩
  have hleaves : ∀ id, g.Enters id → g.Leaves id := by
    rintro id ⟨v, hv, -⟩
    exact ⟨v, hv, by rw [direction_of_bidirectional hb hg hv]; rfl⟩
  rw [hasEdge_ofTopology hg] at hedge ⊢
  obtain ⟨hne, hedge⟩ := hedge
  refine ⟨hne.symm, hedge.imp ?_ ?_⟩
  · rintro ⟨n, hn, hs⟩
    exact ⟨n, hn, hs.target, hs.source, henters b hs.leaves, hleaves a hs.enters⟩
  · rintro ⟨l, hl, henabled, hc⟩
    exact ⟨l, hl, henabled, hc.target, hc.source, hleaves b hc.enters, henters a hc.leaves⟩

/-- The only shortest route is the way back as well. -/
theorem back_eq_reverse {forth back : List Vertex}
    (hforth : g.shortestPath a b = some forth) (hback : g.shortestPath b a = some back)
    (honly : g.shortestRoutes a b = {forth.map (·.edgePointId)}) : back = forth.reverse := by
  have hwf := ofTopology_wellFormed hg
  have hshortest := (reverses_of_bidirectional hb hg).shortest (ids_mem_shortestRoutes hwf hback)
  rw [honly, Set.mem_singleton_iff, List.reverse_eq_iff] at hshortest
  apply eq_of_kept (shortestPath_spec hwf hback).1.kept
  · intro v hv
    exact (shortestPath_spec hwf hforth).1.kept v (List.mem_reverse.1 hv)
  · rw [hshortest, List.map_reverse]

end Bidirectional

end Graph

end Connectivity
