import Connectivity.Proofs.Graph.EdgeSet
import Connectivity.Proofs.Graph.ShortestPath

/-!
# How a path crosses a device

A path comes to a device by a link and leaves it by a link, unless it begins or ends there. So the
first of its edge points on the device lets traffic enter and the last one lets traffic leave, and
the device can lead traffic from the one to the other. A shortest path has nothing in between.
-/
namespace Connectivity

/-- Nodes have ids of their own, and no edge point is offered by two nodes. -/
structure Topology.Unshared (t : Topology) : Prop where
  nodes : (t.nodes.map (·.id)).Nodup
  points : ∀ n ∈ t.nodes, ∀ n' ∈ t.nodes, ∀ id, n.Offers id → n'.Offers id → n = n'

/-- Where no two edge points have one id, no two nodes offer one edge point. -/
theorem Topology.unshared_of_nodup {t : Topology} (hnodes : (t.nodes.map (·.id)).Nodup)
    (hpoints : (t.nodes.flatMap fun n => n.edgePoints.map (·.id)).Nodup) : t.Unshared where
  nodes := hnodes
  points := by
    rintro n hn n' hn' id ⟨p, hp, rfl, -⟩ ⟨p', hp', hid, -⟩
    by_contra hne
    have hsymm : Std.Symm (Function.onFun List.Disjoint fun n : Node => n.edgePoints.map (·.id)) :=
      ⟨fun _ _ h => h.symm⟩
    have hdisjoint := (List.nodup_flatMap.1 hpoints).2.forall hn hn' hne
    exact hdisjoint (List.mem_map_of_mem hp) (List.mem_map.2 ⟨p', hp', hid⟩)

/-- Where a value rises from each element to the next, and by no more than one from `x` to `y`,
nothing stands between the two. -/
theorem eq_nil_of_rises {α : Type} {f : α → Nat} {x y : α} {mid after : List α}
    (h : (x :: (mid ++ y :: after)).Pairwise fun u v => f u < f v) (hle : f y ≤ f x + 1) :
    mid = [] := by
  refine List.eq_nil_iff_forall_not_mem.2 fun m hm => ?_
  obtain ⟨hx, hrest⟩ := List.pairwise_cons.1 h
  have hxm : f x < f m := hx m (List.mem_append_left _ hm)
  have hmy : f m < f y := (List.pairwise_append.1 hrest).2.2 m hm y List.mem_cons_self
  omega

namespace Graph

variable {g : Graph} {t : Topology} {a b : EdgePointId} {v w x y : Vertex}
  {path before after : List Vertex} {node : NodeId}

theorem direction_of_enters (h : g.Enters a) (hv : g.vertex? a = some v) :
    v.direction.isInputCapable = true := by
  obtain ⟨w, hw, hdirection⟩ := h
  rwa [Option.some.inj (hv.symm.trans hw)]

theorem direction_of_leaves (h : g.Leaves a) (hv : g.vertex? a = some v) :
    v.direction.isOutputCapable = true := by
  obtain ⟨w, hw, hdirection⟩ := h
  rwa [Option.some.inj (hv.symm.trans hw)]

section Devices

/-- A node that offers an edge point is the one that its vertex is of. -/
theorem nodeId_of_offers (ht : t.Unshared) (hg : ofTopology t = .ok g) {n : Node}
    (hn : n ∈ t.nodes) (ha : a ∈ n.vertexIds) (hv : g.vertex? a = some v) : v.nodeId = n.id := by
  obtain ⟨n', hn', ha', hid⟩ := exists_node_of_vertex hg hv
  rw [hid, ht.points n' hn' n hn a (Node.mem_vertexIds.1 ha') (Node.mem_vertexIds.1 ha)]

/-- An edge from one device to another is one of a link. -/
theorem directions_of_edge_apart (ht : t.Unshared) (hg : ofTopology t = .ok g)
    (hedge : g.hasEdge a b = true) (hv : g.vertex? a = some v) (hw : g.vertex? b = some w)
    (hne : v.nodeId ≠ w.nodeId) :
    v.direction.isOutputCapable = true ∧ w.direction.isInputCapable = true := by
  obtain ⟨-, ⟨n, hn, hswitches⟩ | ⟨l, -, -, hcarries⟩⟩ := (hasEdge_ofTopology hg).1 hedge
  · refine absurd ?_ hne
    rw [nodeId_of_offers ht hg hn hswitches.source hv,
      nodeId_of_offers ht hg hn hswitches.target hw]
  · exact ⟨direction_of_leaves hcarries.leaves hv, direction_of_enters hcarries.enters hw⟩

/-- A device leads traffic from where it enters to any other edge point where it leaves. -/
theorem hasEdge_of_device (ht : t.Unshared) (hg : ofTopology t = .ok g)
    (hv : g.vertex? a = some v) (hw : g.vertex? b = some w) (hnode : v.nodeId = w.nodeId)
    (hne : a ≠ b) (hin : v.direction.isInputCapable = true)
    (hout : w.direction.isOutputCapable = true) : g.hasEdge a b = true := by
  obtain ⟨n, hn, ha, hvn⟩ := exists_node_of_vertex hg hv
  obtain ⟨n', hn', hb, hwn⟩ := exists_node_of_vertex hg hw
  have hsame : n = n' :=
    List.inj_on_of_nodup_map ht.nodes hn hn' (hvn.symm.trans (hnode.trans hwn))
  subst hsame
  exact (hasEdge_ofTopology hg).2 ⟨hne, .inl ⟨n, hn, ha, hb, ⟨v, hv, hin⟩, ⟨w, hw, hout⟩⟩⟩

end Devices

section Paths

theorem IsPath.edge_of_split (h : g.IsPath a b path) (hsplit : path = before ++ x :: y :: after) :
    g.hasEdge x.edgePointId y.edgePointId = true := by
  have hjoined := h.route.joined
  rw [hsplit, List.isChain_map, List.isChain_append_cons_cons] at hjoined
  exact hjoined.2.1

/-- A path comes to each of its vertices by a walk. -/
theorem IsPath.reaches (h : g.IsPath a b path) (hsplit : path = before ++ x :: after) :
    g.Reaches a x.edgePointId := by
  obtain ⟨hstarts, -, hjoined⟩ := h.route
  rw [hsplit, List.map_append, List.map_cons] at hstarts hjoined
  have hroute : g.IsRoute a x.edgePointId (before.map (·.edgePointId) ++ [x.edgePointId]) := by
    refine ⟨?_, List.getLast?_concat, (List.isChain_split.1 hjoined).1⟩
    rw [← hstarts]
    cases before <;> rfl
  obtain ⟨n, -, hwalk⟩ := hroute.walk
  exact ⟨n, hwalk⟩

/-- A path comes to a device by an edge point where traffic enters. -/
theorem IsPath.first_enters (h : g.IsPath a b path) (ht : t.Unshared) (hg : ofTopology t = .ok g)
    (ha : g.Enters a) (hsplit : path = before ++ x :: after)
    (hfirst : ∀ u ∈ before, u.nodeId ≠ x.nodeId) : x.direction.isInputCapable = true := by
  have hx := h.kept x (by simp [hsplit])
  rcases List.eq_nil_or_concat' before with rfl | ⟨front, u, rfl⟩
  · -- the path begins here
    have hstarts := h.route.starts
    rw [hsplit, List.nil_append, List.map_cons, List.head?_cons] at hstarts
    exact direction_of_enters ha (Option.some.inj hstarts ▸ hx)
  · have hu := h.kept u (by simp [hsplit])
    have hsplit' : path = front ++ u :: x :: after := by simpa using hsplit
    have hedge := h.edge_of_split hsplit'
    exact (directions_of_edge_apart ht hg hedge hu hx (hfirst u (by simp))).2

/-- A path leaves a device by an edge point where traffic leaves. -/
theorem IsPath.last_leaves (h : g.IsPath a b path) (ht : t.Unshared) (hg : ofTopology t = .ok g)
    (hb : g.Leaves b) (hsplit : path = before ++ x :: after)
    (hlast : ∀ u ∈ after, u.nodeId ≠ x.nodeId) : x.direction.isOutputCapable = true := by
  have hx := h.kept x (by simp [hsplit])
  cases after with
  | nil =>
      -- the path ends here
      have hends := h.route.ends
      rw [hsplit, List.map_append, List.map_singleton, List.getLast?_concat] at hends
      exact direction_of_leaves hb (Option.some.inj hends ▸ hx)
  | cons u after =>
      have hu := h.kept u (by simp [hsplit])
      have hedge := h.edge_of_split hsplit
      exact (directions_of_edge_apart ht hg hedge hx hu (hlast u (by simp)).symm).1

/-- The distance from the start rises along a shortest path. -/
theorem distances_rise (hg : g.WellFormed) (h : g.shortestPath a b = some path) :
    path.Pairwise fun u v => g.distance a u.edgePointId < g.distance a v.edgePointId := by
  have hdistances := (shortestPath_spec hg h).2
  have hrange := List.pairwise_lt_range (n := g.distance a b + 1)
  rw [← hdistances, List.pairwise_map] at hrange
  exact hrange

end Paths

/-- What a path has on a device: nothing, one edge point, or two next to each other between which
the device leads traffic. -/
inductive Crossing (path : List Vertex) : List Vertex → Prop where
  | none : Crossing path []
  | single (x : Vertex) : Crossing path [x]
  | through {x y : Vertex} (adjacent : [x, y] <:+: path)
      (enters : x.direction.isInputCapable = true) (leaves : y.direction.isOutputCapable = true) :
      Crossing path [x, y]

theorem Crossing.length_le {path crossed : List Vertex} (h : Crossing path crossed) :
    crossed.length ≤ 2 := by
  cases h <;> simp

/-- Between the first and the last edge point of a device on a shortest path there is nothing. -/
theorem adjacent_of_first_and_last (ht : t.Unshared) (hg : ofTopology t = .ok g) (ha : g.Enters a)
    (hb : g.Leaves b) (h : g.shortestPath a b = some path) {mid : List Vertex}
    (hsplit : path = before ++ x :: (mid ++ y :: after)) (hnode : x.nodeId = y.nodeId)
    (hfirst : ∀ u ∈ before, u.nodeId ≠ x.nodeId) (hlast : ∀ u ∈ after, u.nodeId ≠ y.nodeId) :
    mid = [] ∧ x.direction.isInputCapable = true ∧ y.direction.isOutputCapable = true := by
  have hwf := ofTopology_wellFormed hg
  obtain ⟨hpath, -⟩ := shortestPath_spec hwf h
  have hrises := distances_rise hwf h
  rw [hsplit] at hrises
  have hafter := (List.pairwise_append.1 hrises).2.1
  have henters := hpath.first_enters ht hg ha hsplit hfirst
  have hsplit' : path = (before ++ x :: mid) ++ y :: after := by simpa using hsplit
  have hleaves := hpath.last_leaves ht hg hb hsplit' hlast
  have hfar : g.distance a x.edgePointId < g.distance a y.edgePointId :=
    (List.pairwise_cons.1 hafter).1 y (by simp)
  have hne : x.edgePointId ≠ y.edgePointId := by
    intro heq
    rw [heq] at hfar
    omega
  have hedge := hasEdge_of_device ht hg (hpath.kept x (by simp [hsplit]))
    (hpath.kept y (by simp [hsplit])) hnode hne henters hleaves
  exact ⟨eq_nil_of_rises hafter (distance_le_succ (hpath.reaches hsplit) hedge), henters, hleaves⟩

/-- On a shortest path between edge points where traffic enters and leaves, the device leads traffic
from its first edge point to its last one at once. -/
theorem crossing_of_shortestPath (ht : t.Unshared) (hg : ofTopology t = .ok g) (ha : g.Enters a)
    (hb : g.Leaves b) (h : g.shortestPath a b = some path) (node : NodeId) :
    Crossing path (path.filter fun v => v.nodeId = node) := by
  cases hcrossed : path.filter fun v => v.nodeId = node with
  | nil => exact .none
  | cons x rest =>
      obtain ⟨before, tail, hsplit, hbefore, hx, htail⟩ := List.filter_eq_cons_iff.1 hcrossed
      rcases List.eq_nil_or_concat' rest with rfl | ⟨mid, y, rfl⟩
      · exact .single x
      · obtain ⟨front, back, rfl, rfl, hback⟩ := List.filter_eq_append_iff.1 htail
        obtain ⟨skipped, after, rfl, -, hy, hafter⟩ := List.filter_eq_cons_iff.1 hback
        rw [List.filter_eq_nil_iff] at hafter
        simp only [decide_eq_true_eq] at hx hy hbefore hafter
        subst hx
        have hsplit' : path = before ++ x :: ((front ++ skipped) ++ y :: after) := by
          simpa using hsplit
        obtain ⟨hmid, henters, hleaves⟩ :=
          adjacent_of_first_and_last ht hg ha hb h hsplit' hy.symm hbefore (hy ▸ hafter)
        obtain ⟨rfl, rfl⟩ := List.append_eq_nil_iff.1 hmid
        exact .through ⟨before, after, by simpa using hsplit.symm⟩ henters hleaves

/-- A shortest path between edge points where traffic enters and leaves crosses each device once, by
two edge points at most; it comes in by the one and goes out by the other at once. Links between
edge points of one device make no difference. -/
theorem shortestPath_crosses_once (ht : t.Unshared) (hg : ofTopology t = .ok g) (ha : g.Enters a)
    (hb : g.Leaves b) (h : g.shortestPath a b = some path) (node : NodeId) :
    (path.filter fun v => v.nodeId = node).length ≤ 2 ∧
      ∀ x y, path.filter (fun v => v.nodeId = node) = [x, y] →
        [x, y] <:+: path ∧ x.direction.isInputCapable = true ∧
          y.direction.isOutputCapable = true := by
  have hcrossing := crossing_of_shortestPath ht hg ha hb h node
  refine ⟨hcrossing.length_le, fun x y hxy => ?_⟩
  rw [hxy] at hcrossing
  cases hcrossing with
  | through adjacent enters leaves => exact ⟨adjacent, enters, leaves⟩

/-- Traffic from the last node of a row to the first one crosses the node between them. -/
theorem directedChain_crossed_once :
    Sample.directedChain.Unshared ∧ ∃ g path, ofTopology Sample.directedChain = .ok g ∧
      g.Enters "n3:3" ∧ g.Leaves "n1:2" ∧ g.shortestPath "n3:3" "n1:2" = some path ∧
      (path.filter fun v => v.nodeId = "n2").map (·.edgePointId) = ["n2:2", "n2:1"] ∧
      ∀ node, (path.filter fun v => v.nodeId = node).length ≤ 2 := by
  have ht : Sample.directedChain.Unshared :=
    Topology.unshared_of_nodup (by decide +kernel) (by decide +kernel)
  obtain ⟨g, hg⟩ := (exists_ofTopology_eq_ok_iff Sample.directedChain).2 (by decide)
  have hfound : (ofTopology Sample.directedChain).toOption.any (fun g =>
      "n3:3" ∈ g.inputsAmong ["n3:3"] && "n1:2" ∈ g.outputsAmong ["n1:2"] &&
        (g.shortestPath "n3:3" "n1:2").map (fun path =>
          (path.filter fun v => v.nodeId = "n2").map (·.edgePointId)) =
            some ["n2:2", "n2:1"]) = true := by decide +kernel
  rw [hg] at hfound
  simp only [Except.toOption, Option.any_some, Bool.and_eq_true, decide_eq_true_eq,
    Option.map_eq_some_iff, mem_inputsAmong, mem_outputsAmong] at hfound
  obtain ⟨⟨⟨-, henters⟩, -, hleaves⟩, path, hpath, hcrossed⟩ := hfound
  exact ⟨ht, g, path, hg, henters, hleaves, hpath, hcrossed, fun node =>
    (shortestPath_crosses_once ht hg henters hleaves hpath node).1⟩

end Graph

end Connectivity
