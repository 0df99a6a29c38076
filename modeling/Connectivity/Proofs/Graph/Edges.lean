import Connectivity.Proofs.Graph.Resolution
import Connectivity.Topology.Sample

/-!
# Where edges come from

An edge is there because a node lists both of its ends, which the device can then switch, or because
an enabled link does. A node that lists an edge point of another device is not told apart, so its
edges can lead from one device to another without any link.
-/
namespace Connectivity

/-- The ids of the edge points that a node offers as vertices. -/
def Node.vertexIds (n : Node) : List EdgePointId := n.vertices.map (·.edgePointId)

def Link.edgePointIds (l : Link) : List EdgePointId := l.edgePoints.map (·.edgePointId)

namespace Graph

variable {g : Graph} {a b : EdgePointId}

/-- Traffic can enter at a vertex. -/
def Enters (g : Graph) (id : EdgePointId) : Prop :=
  ∃ v, g.vertex? id = some v ∧ v.direction.isInputCapable = true

/-- Traffic can leave by a vertex. -/
def Leaves (g : Graph) (id : EdgePointId) : Prop :=
  ∃ v, g.vertex? id = some v ∧ v.direction.isOutputCapable = true

/-- A node lists both edge points, and its device can lead traffic from one to the other. -/
structure Switches (g : Graph) (n : Node) (a b : EdgePointId) : Prop where
  source : a ∈ n.vertexIds
  target : b ∈ n.vertexIds
  enters : g.Enters a
  leaves : g.Leaves b

/-- A link takes traffic from where it leaves one device to where it enters another. -/
structure Carries (g : Graph) (l : Link) (a b : EdgePointId) : Prop where
  source : a ∈ l.edgePointIds
  target : b ∈ l.edgePointIds
  leaves : g.Leaves a
  enters : g.Enters b

theorem mem_inputsAmong {ids : List EdgePointId} :
    a ∈ g.inputsAmong ids ↔ a ∈ ids ∧ g.Enters a := by
  simp [inputsAmong, Enters, Option.any_eq_true]

theorem mem_outputsAmong {ids : List EdgePointId} :
    a ∈ g.outputsAmong ids ↔ a ∈ ids ∧ g.Leaves a := by
  simp [outputsAmong, Leaves, Option.any_eq_true]

theorem switches_iff {n : Node} :
    g.Switches n a b ↔ a ∈ g.inputsAmong n.vertexIds ∧ b ∈ g.outputsAmong n.vertexIds := by
  rw [mem_inputsAmong, mem_outputsAmong]
  exact ⟨fun h => ⟨⟨h.source, h.enters⟩, h.target, h.leaves⟩,
    fun h => ⟨h.1.1, h.2.1, h.1.2, h.2.2⟩⟩

theorem carries_iff {l : Link} :
    g.Carries l a b ↔ a ∈ g.outputsAmong l.edgePointIds ∧ b ∈ g.inputsAmong l.edgePointIds := by
  rw [mem_inputsAmong, mem_outputsAmong]
  exact ⟨fun h => ⟨⟨h.source, h.leaves⟩, h.target, h.enters⟩,
    fun h => ⟨h.1.1, h.2.1, h.1.2, h.2.2⟩⟩

/-- What a device can switch depends on the vertices at its edge points. -/
theorem switches_congr {h : Graph} {n : Node}
    (hsame : ∀ id ∈ n.vertexIds, g.vertex? id = h.vertex? id) :
    g.Switches n a b ↔ h.Switches n a b := by
  simp only [switches_iff, mem_inputsAmong, mem_outputsAmong, Enters, Leaves]
  grind

theorem carries_congr {h : Graph} {l : Link} (hsame : ∀ id, g.vertex? id = h.vertex? id) :
    g.Carries l a b ↔ h.Carries l a b := by
  simp only [carries_iff, mem_inputsAmong, mem_outputsAmong, Enters, Leaves, hsame]

section Building

/-- Edges from one source are added to those there are, if the source is a vertex. -/
theorem hasEdge_addEdges (g : Graph) (source : EdgePointId) (sinks : List EdgePointId) :
    (sinks.foldl (fun g b => g.addEdge source b) g).hasEdge a b = true ↔
      g.hasEdge a b = true ∨ (a = source ∧ b ∈ sinks ∧ g.targets.contains source = true) := by
  induction sinks generalizing g with
  | nil => simp
  | cons sink sinks ih =>
      have hcontains : (g.addEdge source sink).targets.contains source =
          g.targets.contains source := by rw [addEdge, Std.TreeMap.contains_modify]
      rw [List.foldl_cons, ih, hasEdge_addEdge, hcontains, List.mem_cons]
      grind

theorem contains_addEdges (g : Graph) (source : EdgePointId) (sinks : List EdgePointId) :
    (sinks.foldl (fun g b => g.addEdge source b) g).targets.contains a = g.targets.contains a := by
  induction sinks generalizing g with
  | nil => rfl
  | cons sink sinks ih => rw [List.foldl_cons, ih, addEdge, Std.TreeMap.contains_modify]

theorem hasEdge_connect (hg : g.WellFormed) {sources : List EdgePointId}
    (hsources : ∀ a ∈ sources, g.hasVertex a = true) (sinks : List EdgePointId) :
    (g.connect sources sinks).hasEdge a b = true ↔
      g.hasEdge a b = true ∨ (a ≠ b ∧ a ∈ sources ∧ b ∈ sinks) := by
  have hcontains : ∀ a ∈ sources, g.targets.contains a = true := by
    intro a ha
    rw [hg.has_targets, hsources a ha]
  clear hg hsources
  unfold connect
  induction sources generalizing g with
  | nil => simp
  | cons source sources ih =>
      obtain ⟨hsource, hrest⟩ := List.forall_mem_cons.1 hcontains
      have hkept : ∀ x ∈ sources, ((sinks.filter (· ≠ source)).foldl
          (fun g b => g.addEdge source b) g).targets.contains x = true := by
        intro x hx
        rw [contains_addEdges, hrest x hx]
      rw [List.foldl_cons]
      refine (ih hkept).trans ?_
      rw [hasEdge_addEdges]
      simp only [List.mem_filter, decide_eq_true_eq, List.mem_cons, hsource, and_true]
      grind

theorem hasEdge_addVertices (hg : g.WellFormed) (vs : List Vertex) :
    (vs.foldl addVertex g).hasEdge a b = g.hasEdge a b := by
  induction vs generalizing g with
  | nil => rfl
  | cons v vs ih => rw [List.foldl_cons, ih (addVertex_wellFormed hg v), hasEdge_addVertex hg]

/-- A node adds the edges that its device can switch. -/
theorem hasEdge_addNode (hg : g.WellFormed) (n : Node) :
    (g.addNode n).hasEdge a b = true ↔
      g.hasEdge a b = true ∨ (a ≠ b ∧ (g.addNode n).Switches n a b) := by
  have hwf := addVertices_wellFormed hg n.vertices
  have hswitches : (g.addNode n).Switches n a b ↔ (n.vertices.foldl addVertex g).Switches n a b :=
    switches_congr fun id _ => vertex?_connect _ _ _ id
  rw [hswitches, switches_iff, addNode,
    hasEdge_connect hwf fun id hid => hasVertex_of_mem_inputsAmong hid, hasEdge_addVertices hg]
  rfl

/-- All nodes add their edges; the vertices that are there when a node is added stay. -/
theorem hasEdge_addNodes {vs : List Vertex} (hg : g.WellFormed) (hr : g.Resolves vs)
    (nodes : List Node) :
    (nodes.foldl addNode g).hasEdge a b = true ↔
      g.hasEdge a b = true ∨ (a ≠ b ∧ ∃ n ∈ nodes, (nodes.foldl addNode g).Switches n a b) := by
  induction nodes generalizing g vs with
  | nil => simp
  | cons n nodes ih =>
      have hwf := addNode_wellFormed hg n
      have hadded := hr.addNode hg n
      have hswitches : (g.addNode n).Switches n a b ↔
          (nodes.foldl addNode (g.addNode n)).Switches n a b := by
        refine switches_congr fun id hid => ?_
        obtain ⟨v, hv, rfl⟩ := List.mem_map.1 hid
        have hvertex := hadded.hasVertex (List.mem_append_right _ hv)
        exact (hadded.vertex?_of_append (hadded.addNodes hwf nodes) hvertex).symm
      rw [List.foldl_cons, ih hwf hadded, hasEdge_addNode hg, hswitches]
      simp only [List.mem_cons, exists_eq_or_imp]
      grind

/-- A link adds edges from where traffic leaves to where it enters. -/
theorem hasEdge_addLink (hg : g.WellFormed) (l : Link) :
    (g.addLink l).hasEdge a b = true ↔ g.hasEdge a b = true ∨ (a ≠ b ∧ g.Carries l a b) := by
  rw [carries_iff, addLink, hasEdge_connect hg fun id hid => hasVertex_of_mem_outputsAmong hid]
  rfl

theorem hasEdge_addLinks (hg : g.WellFormed) (links : List Link) :
    (links.foldl addLink g).hasEdge a b = true ↔
      g.hasEdge a b = true ∨ (a ≠ b ∧ ∃ l ∈ links, g.Carries l a b) := by
  induction links generalizing g with
  | nil => simp
  | cons l links ih =>
      have hcarries : ∀ l', (g.addLink l).Carries l' a b ↔ g.Carries l' a b :=
        fun l' => carries_congr fun id => vertex?_connect _ _ _ id
      rw [List.foldl_cons, ih (addLink_wellFormed hg l), hasEdge_addLink hg]
      simp only [hcarries, List.mem_cons, exists_eq_or_imp]
      grind

end Building

/-- There is an edge where a node lists both ends or an enabled link does, in the right
directions. -/
theorem hasEdge_ofTopology {t : Topology} (hg : ofTopology t = .ok g) :
    g.hasEdge a b = true ↔
      a ≠ b ∧ ((∃ n ∈ t.nodes, g.Switches n a b) ∨
        ∃ l ∈ t.links, l.isEnabled = true ∧ g.Carries l a b) := by
  have hr := ofTopology_resolves hg
  unfold ofTopology at hg
  split at hg
  case isTrue => cases hg
  case isFalse =>
    cases hg
    have hwf : (t.nodes.foldl addNode empty).WellFormed :=
      List.foldlRecOn t.nodes addNode empty_wellFormed fun g hg n _ => addNode_wellFormed hg n
    have hnodes := empty_resolves.addNodes empty_wellFormed t.nodes
    have hsame : ∀ id, (t.nodes.foldl addNode empty).vertex? id =
        ((t.links.filter Link.isEnabled).foldl addLink (t.nodes.foldl addNode empty)).vertex?
          id := by
      intro id
      rw [hnodes.vertex, hr.vertex]
      rfl
    have hempty : empty.hasEdge a b = false := by simp [empty, hasEdge]
    rw [hasEdge_addLinks hwf, hasEdge_addNodes empty_wellFormed empty_resolves, hempty]
    simp only [switches_congr fun id _ => hsame id, carries_congr hsame, List.mem_filter]
    grind

/-- Edges from one device to another are there only where an enabled link is. -/
def LinkedOnly (t : Topology) (g : Graph) : Prop :=
  ∀ a b v w, g.hasEdge a b = true → g.vertex? a = some v → g.vertex? b = some w →
    v.nodeId ≠ w.nodeId → ∃ l ∈ t.links, l.isEnabled = true ∧ g.Carries l a b

/-- The node that offers a vertex is the one whose id it has. -/
theorem exists_node_of_vertex {t : Topology} (hg : ofTopology t = .ok g) {id : EdgePointId}
    {v : Vertex} (hv : g.vertex? id = some v) :
    ∃ n ∈ t.nodes, id ∈ n.vertexIds ∧ v.nodeId = n.id := by
  obtain ⟨n, hn, hvn⟩ := exists_node_of_kept hg hv
  have hid : v.edgePointId = id := (ofTopology_wellFormed hg).id_of_vertex hv
  exact ⟨n, hn, List.mem_map.2 ⟨v, hvn, hid⟩, (Node.owner_of_mem_vertices hvn).1⟩

/-- A node that lists edge points of two devices must find a link between them; no node does that if
each edge point is listed by one node. -/
theorem linkedOnly_iff {t : Topology} (hg : ofTopology t = .ok g) :
    (LinkedOnly t g ↔
      ∀ n ∈ t.nodes, ∀ a b v w, g.Switches n a b → g.vertex? a = some v → g.vertex? b = some w →
        v.nodeId ≠ w.nodeId → ∃ l ∈ t.links, l.isEnabled = true ∧ g.Carries l a b) ∧
    ((∀ n ∈ t.nodes, ∀ n' ∈ t.nodes, ∀ id ∈ n.vertexIds, id ∈ n'.vertexIds → n.id = n'.id) →
      LinkedOnly t g) := by
  have hiff : LinkedOnly t g ↔
      ∀ n ∈ t.nodes, ∀ a b v w, g.Switches n a b → g.vertex? a = some v → g.vertex? b = some w →
        v.nodeId ≠ w.nodeId → ∃ l ∈ t.links, l.isEnabled = true ∧ g.Carries l a b := by
    constructor
    · intro h n hn a b v w hswitches hv hw hdiffer
      have hne : a ≠ b := by
        intro heq
        subst heq
        exact hdiffer (congrArg Vertex.nodeId (Option.some.inj (hv.symm.trans hw)))
      exact h a b v w ((hasEdge_ofTopology hg).2 ⟨hne, .inl ⟨n, hn, hswitches⟩⟩) hv hw hdiffer
    · intro h a b v w hedge hv hw hdiffer
      obtain ⟨-, ⟨n, hn, hswitches⟩ | hlinked⟩ := (hasEdge_ofTopology hg).1 hedge
      · exact h n hn a b v w hswitches hv hw hdiffer
      · exact hlinked
  refine ⟨hiff, fun howned => hiff.2 ?_⟩
  intro n hn a b v w hswitches hv hw hdiffer
  obtain ⟨nv, hnv, ha, hvn⟩ := exists_node_of_vertex hg hv
  obtain ⟨nw, hnw, hb, hwn⟩ := exists_node_of_vertex hg hw
  have hsame : v.nodeId = w.nodeId := by
    rw [hvn, hwn, ← howned n hn nv hnv a hswitches.source ha,
      ← howned n hn nw hnw b hswitches.target hb]
  exact absurd hsame hdiffer

/-- In a row of nodes each edge point is listed by its own node. -/
theorem chain_linkedOnly :
    ∃ g, ofTopology (Sample.threeNodeChain .enabled) = .ok g ∧ g.hasEdge "n1:1" "n2:1" = true ∧
      LinkedOnly (Sample.threeNodeChain .enabled) g := by
  obtain ⟨g, hg⟩ := (exists_ofTopology_eq_ok_iff (Sample.threeNodeChain .enabled)).2 (by decide)
  have hedge : (ofTopology (Sample.threeNodeChain .enabled)).toOption.any
      (fun g => g.hasEdge "n1:1" "n2:1") = true := by decide +kernel
  rw [hg] at hedge
  exact ⟨g, hg, hedge, (linkedOnly_iff hg).2 (by decide +kernel)⟩

/-- Two nodes without a link between them, the second of which lists the edge point of the first. -/
def foreignEdgePoint : Topology :=
  Sample.topology [Sample.node "n1" ["n1:1"], Sample.node "n2" ["n1:1", "n2:1"]] []

/-- The second node leads traffic to its own edge point from that of the first. -/
theorem foreignEdgePoint_not_linkedOnly :
    ∃ g, ofTopology foreignEdgePoint = .ok g ∧ ¬ LinkedOnly foreignEdgePoint g := by
  obtain ⟨g, hg⟩ := (exists_ofTopology_eq_ok_iff foreignEdgePoint).2 (by decide)
  have hfound : (ofTopology foreignEdgePoint).toOption.any (fun g =>
      g.hasEdge "n1:1" "n2:1" && (g.vertex? "n1:1").map (·.nodeId) = some "n1" &&
        (g.vertex? "n2:1").map (·.nodeId) = some "n2") = true := by decide +kernel
  rw [hg] at hfound
  simp only [Except.toOption, Option.any_some, Bool.and_eq_true, decide_eq_true_eq,
    Option.map_eq_some_iff] at hfound
  obtain ⟨⟨hedge, v, hv, hvn⟩, w, hw, hwn⟩ := hfound
  refine ⟨g, hg, fun hlinked => ?_⟩
  obtain ⟨l, hl, -⟩ := hlinked "n1:1" "n2:1" v w hedge hv hw (by rw [hvn, hwn]; decide)
  exact nomatch hl

end Graph

end Connectivity
