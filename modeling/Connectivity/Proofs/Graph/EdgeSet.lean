import Connectivity.Proofs.Collections
import Connectivity.Proofs.Graph.Edges
import Connectivity.Proofs.Graph.Walk
import Connectivity.Topology.Sample

/-!
# The edges of a graph, and what they depend on

The edges are those of the nodes and of the enabled links, neither more nor less. So of the links it
is only told which edge points the enabled ones join: their order, their repetition, the order of
their ends and the links that are not enabled make no difference to the graph.
-/
namespace Connectivity

/-- The node lists an edge point of that id with a known direction. -/
def Node.Offers (n : Node) (id : EdgePointId) : Prop :=
  ∃ p ∈ n.edgePoints, p.id = id ∧ p.direction ≠ .unknown

theorem Node.mem_vertexIds {n : Node} {id : EdgePointId} : id ∈ n.vertexIds ↔ n.Offers id := by
  simp [vertexIds, vertices, Offers, and_assoc, and_comm]

/-- Whatever edge points an enabled link of `t` joins, an enabled link of `t'` joins the same. -/
def Topology.LinkedWithin (t t' : Topology) : Prop :=
  ∀ l ∈ t.links, l.isEnabled = true →
    ∃ l' ∈ t'.links, l'.isEnabled = true ∧ ∀ id, id ∈ l'.edgePointIds ↔ id ∈ l.edgePointIds

namespace Graph

variable {g h : Graph} {t t' : Topology} {a b : EdgePointId}

section Agreement

theorem neighbours_congr (he : ∀ a b, g.hasEdge a b = true ↔ h.hasEdge a b = true)
    (a : EdgePointId) : g.neighbours a = h.neighbours a := by
  refine eq_of_ascending (toList_ascending _) (toList_ascending _) fun b => ?_
  exact mem_neighbours.trans ((he a b).trans mem_neighbours.symm)

/-- A table of targets lists the neighbours of each of its vertices. -/
theorem targets_eq_map (g : Graph) :
    (g.targets.toList.map fun entry => (entry.1, entry.2.toList)) =
      g.targets.keys.map fun a => (a, g.neighbours a) := by
  rw [← Std.TreeMap.map_fst_toList_eq_keys, List.map_map]
  refine List.map_congr_left fun entry hentry => ?_
  have hfound := Std.TreeMap.mem_toList_iff_getElem?_eq_some.1 hentry
  rw [Function.comp_apply, neighbours, Std.TreeMap.getD_eq_getD_getElem?, hfound, Option.getD_some]

/-- The table of targets has the ids of the vertices as its keys. -/
theorem WellFormed.keys_targets (hg : g.WellFormed) : g.targets.keys = g.vertices.keys := by
  refine eq_of_ascending (keys_ascending _) (keys_ascending _) fun id => ?_
  rw [Std.TreeMap.mem_keys, Std.TreeMap.mem_keys, Std.TreeMap.mem_iff_contains,
    Std.TreeMap.mem_iff_contains, hg.has_targets, hasVertex]

/-- Graphs of the same vertices agree if they have the same edges. -/
theorem agrees_of_hasEdge_iff (hg : g.WellFormed) (hh : h.WellFormed)
    (hvertices : g.vertices = h.vertices) (hsips : g.sips = h.sips)
    (he : ∀ a b, g.hasEdge a b = true ↔ h.hasEdge a b = true) : g.agrees h = true := by
  have hkeys : g.targets.keys = h.targets.keys := by
    rw [hg.keys_targets, hh.keys_targets, hvertices]
  have htargets : (g.targets.toList.map fun entry => (entry.1, entry.2.toList)) =
      h.targets.toList.map fun entry => (entry.1, entry.2.toList) := by
    rw [targets_eq_map, targets_eq_map, hkeys]
    exact List.map_congr_left fun a _ => by rw [neighbours_congr he]
  simp only [agrees, Bool.and_eq_true, decide_eq_true_eq]
  exact ⟨⟨by rw [hvertices], by rw [hsips]⟩, htargets⟩

end Agreement

/-- Links add nothing to the vertices and to what sips resolve to. -/
theorem addLinks_tables (g : Graph) (links : List Link) :
    (links.foldl addLink g).vertices = g.vertices ∧ (links.foldl addLink g).sips = g.sips := by
  refine List.foldlRecOn (motive := fun h : Graph => h.vertices = g.vertices ∧ h.sips = g.sips)
    links addLink ⟨rfl, rfl⟩ fun h hh l _ => ?_
  obtain ⟨hvertices, hsips⟩ := h.connect_tables (h.outputsAmong l.edgePointIds)
    (h.inputsAmong l.edgePointIds)
  exact ⟨hvertices.trans hh.1, hsips.trans hh.2⟩

theorem ofTopology_tables (hnodes : t'.nodes = t.nodes) (hg : ofTopology t = .ok g)
    (hh : ofTopology t' = .ok h) : h.vertices = g.vertices ∧ h.sips = g.sips := by
  unfold ofTopology at hg hh
  split at hg
  case isTrue => cases hg
  case isFalse hne =>
    rw [hnodes, if_neg hne] at hh
    cases hg
    cases hh
    constructor
    · rw [(addLinks_tables _ _).1, (addLinks_tables _ _).1]
    · rw [(addLinks_tables _ _).2, (addLinks_tables _ _).2]

/-- An edge is carried by a link of the one topology if it is by a link of the other. -/
theorem exists_carries_of_linkedWithin (hlinks : t.LinkedWithin t')
    (hvertex : ∀ id, h.vertex? id = g.vertex? id)
    (hcarried : ∃ l ∈ t.links, l.isEnabled = true ∧ g.Carries l a b) :
    ∃ l ∈ t'.links, l.isEnabled = true ∧ h.Carries l a b := by
  obtain ⟨l, hl, henabled, hcarries⟩ := hcarried
  obtain ⟨l', hl', henabled', hsame⟩ := hlinks l hl henabled
  refine ⟨l', hl', henabled', (carries_congr hvertex).2 ?_⟩
  exact ⟨(hsame a).2 hcarries.source, (hsame b).2 hcarries.target, hcarries.leaves,
    hcarries.enters⟩

/-- The graph of a topology with nodes has an edge just where a node lists both ends or an enabled
link does, in the right directions; and links that join the same edge points make the same graph. -/
theorem ofTopology_edges_exact (hnodes : t.nodes ≠ []) :
    ∃ g, ofTopology t = .ok g ∧
      (∀ a b, g.hasEdge a b = true ↔
        a ≠ b ∧ g.hasVertex a = true ∧ g.hasVertex b = true ∧
          ((∃ n ∈ t.nodes, n.Offers a ∧ n.Offers b ∧ g.Enters a ∧ g.Leaves b) ∨
            ∃ l ∈ t.links, l.isEnabled = true ∧ a ∈ l.edgePointIds ∧ b ∈ l.edgePointIds ∧
              g.Leaves a ∧ g.Enters b)) ∧
      ∀ t', t'.nodes = t.nodes → t.LinkedWithin t' → t'.LinkedWithin t →
        ∃ g', ofTopology t' = .ok g' ∧ g'.vertices = g.vertices ∧ g'.agrees g = true := by
  obtain ⟨g, hg⟩ := (exists_ofTopology_eq_ok_iff t).2 hnodes
  refine ⟨g, hg, fun a b => ?edges, fun t' hnodes' hlinks hlinks' => ?links⟩
  case edges =>
    have hvertex : ∀ {id}, g.Enters id ∨ g.Leaves id → g.hasVertex id = true := by
      rintro id (⟨v, hv, -⟩ | ⟨v, hv, -⟩) <;> exact hasVertex_iff.2 ⟨v, hv⟩
    rw [hasEdge_ofTopology hg]
    constructor
    · rintro ⟨hne, ⟨n, hn, hswitches⟩ | ⟨l, hl, henabled, hcarries⟩⟩
      · refine ⟨hne, hvertex (.inl hswitches.enters), hvertex (.inr hswitches.leaves), .inl ?_⟩
        exact ⟨n, hn, Node.mem_vertexIds.1 hswitches.source, Node.mem_vertexIds.1 hswitches.target,
          hswitches.enters, hswitches.leaves⟩
      · refine ⟨hne, hvertex (.inr hcarries.leaves), hvertex (.inl hcarries.enters), .inr ?_⟩
        exact ⟨l, hl, henabled, hcarries.source, hcarries.target, hcarries.leaves,
          hcarries.enters⟩
    · rintro ⟨hne, -, -, ⟨n, hn, ha, hb, henters, hleaves⟩ | ⟨l, hl, henabled, hcarries⟩⟩
      · refine ⟨hne, .inl ⟨n, hn, ?_⟩⟩
        exact ⟨Node.mem_vertexIds.2 ha, Node.mem_vertexIds.2 hb, henters, hleaves⟩
      · obtain ⟨ha, hb, hleaves, henters⟩ := hcarries
        exact ⟨hne, .inr ⟨l, hl, henabled, ha, hb, hleaves, henters⟩⟩
  case links =>
    obtain ⟨g', hg'⟩ := (exists_ofTopology_eq_ok_iff t').2 (hnodes' ▸ hnodes)
    obtain ⟨hvertices, hsips⟩ := ofTopology_tables hnodes' hg hg'
    have hvertex : ∀ id, g'.vertex? id = g.vertex? id := fun id => by
      rw [vertex?, vertex?, hvertices]
    refine ⟨g', hg', hvertices, ?_⟩
    refine agrees_of_hasEdge_iff (ofTopology_wellFormed hg') (ofTopology_wellFormed hg) hvertices
      hsips fun a b => ?_
    rw [hasEdge_ofTopology hg, hasEdge_ofTopology hg', hnodes']
    have hswitches : ∀ n, g'.Switches n a b ↔ g.Switches n a b := fun n =>
      switches_congr fun id _ => hvertex id
    have hcarried : (∃ l ∈ t'.links, l.isEnabled = true ∧ g'.Carries l a b) ↔
        ∃ l ∈ t.links, l.isEnabled = true ∧ g.Carries l a b :=
      ⟨exists_carries_of_linkedWithin hlinks' fun id => (hvertex id).symm,
        exists_carries_of_linkedWithin hlinks hvertex⟩
    simp only [hswitches, hcarried]

/-- Three nodes in a row, with the links in the other order, one of them turned round and listed
twice, and a link that is not enabled. -/
def rearrangedChain : Topology :=
  { Sample.threeNodeChain .enabled with
    links := [Sample.link "n2:3" "n3:3" .enabled, Sample.link "n1:2" "n3:2" .disabled,
      Sample.link "n2:1" "n1:1" .enabled, Sample.link "n1:1" "n2:1" .enabled] }

/-- The graph has the edge of the first link, and is the same without all that. -/
theorem rearrangedChain_agrees :
    ∃ g g', ofTopology (Sample.threeNodeChain .enabled) = .ok g ∧
      ofTopology rearrangedChain = .ok g' ∧ g.hasEdge "n1:1" "n2:1" = true ∧
      g'.vertices = g.vertices ∧ g'.agrees g = true := by
  obtain ⟨g, hg, hedges, hsame⟩ :=
    ofTopology_edges_exact (t := Sample.threeNodeChain .enabled) (by decide)
  have hwithin : (Sample.threeNodeChain .enabled).LinkedWithin rearrangedChain := by
    intro l hl _
    refine ⟨l, ?_, ‹_›, fun id => Iff.rfl⟩
    rcases List.mem_pair.1 hl with rfl | rfl <;> decide
  have hwithin' : rearrangedChain.LinkedWithin (Sample.threeNodeChain .enabled) := by
    intro l hl henabled
    have hcases : l = Sample.link "n2:3" "n3:3" .enabled ∨ l = Sample.link "n1:2" "n3:2" .disabled ∨
        l = Sample.link "n2:1" "n1:1" .enabled ∨ l = Sample.link "n1:1" "n2:1" .enabled := by
      simpa [rearrangedChain] using hl
    rcases hcases with rfl | rfl | rfl | rfl
    · exact ⟨_, List.mem_cons_of_mem _ List.mem_cons_self, rfl, fun id => Iff.rfl⟩
    · exact nomatch henabled
    · refine ⟨_, List.mem_cons_self, rfl, fun id => ?_⟩
      simp [Link.edgePointIds, Sample.link, Sample.ref, or_comm]
    · exact ⟨_, List.mem_cons_self, rfl, fun id => Iff.rfl⟩
  obtain ⟨g', hg', hvertices, hagrees⟩ := hsame rearrangedChain rfl hwithin hwithin'
  have hfound : (ofTopology (Sample.threeNodeChain .enabled)).toOption.any
      (fun g => g.hasEdge "n1:1" "n2:1") = true := by decide +kernel
  rw [hg] at hfound
  exact ⟨g, g', hg, hg', hfound, hvertices, hagrees⟩

end Graph

end Connectivity
