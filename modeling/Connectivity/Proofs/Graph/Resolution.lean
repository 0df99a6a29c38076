import Connectivity.Proofs.Graph.WellFormed
import Mathlib.Data.List.Find

/-!
# What ids and sips resolve to

The vertices of a graph are those that its nodes offer, less the ones whose id was taken. So an id
resolves to the first vertex that has it, and a sip to the first one that has it among those kept.
-/
namespace Connectivity

/-- All vertices that the nodes offer, in order, with those that no graph keeps. -/
def Topology.vertices (t : Topology) : List Vertex := t.nodes.flatMap Node.vertices

namespace Graph

variable {g : Graph} {t : Topology} {vs : List Vertex} {v : Vertex}

/-- The vertices kept of those offered, and the one among them that each sip resolves to. -/
structure Resolves (g : Graph) (vs : List Vertex) : Prop where
  vertex : ∀ id, g.vertex? id = vs.find? fun v => v.edgePointId = id
  sip : ∀ sip, g.vertexOfSip? sip =
    vs.find? fun v => v.sip = some sip ∧ g.vertex? v.edgePointId = some v

theorem empty_resolves : empty.Resolves [] where
  vertex id := by simp [empty, vertex?]
  sip sip := by simp [empty, vertexOfSip?]

/-- A vertex whose id is taken changes nothing. -/
theorem Resolves.addVertex_of_taken (h : g.Resolves vs) (hv : g.hasVertex v.edgePointId = true) :
    (g.addVertex v).Resolves (vs ++ [v]) := by
  obtain ⟨w, hw⟩ := hasVertex_iff.1 hv
  have hfound : vs.find? (fun u => u.edgePointId = v.edgePointId) = some w := by
    rw [← h.vertex, hw]
  rw [addVertex, if_pos hv]
  constructor
  · intro id
    rw [h.vertex, List.find?_append]
    by_cases hid : v.edgePointId = id
    · subst hid
      rw [hfound, Option.some_or]
    · simp [hid]
  · intro sip
    rw [h.sip, List.find?_append]
    by_cases hkept : v.sip = some sip ∧ g.vertex? v.edgePointId = some v
    · -- then the one that took the id is the same, and is found before
      have heq : w = v := Option.some.inj (hw.symm.trans hkept.2)
      have hmem : v ∈ vs := heq ▸ List.mem_of_find?_eq_some hfound
      have hsome : (vs.find? fun u => u.sip = some sip ∧ g.vertex? u.edgePointId = some u).isSome :=
        List.find?_isSome.2 ⟨v, hmem, by simpa using hkept⟩
      obtain ⟨u, hu⟩ := Option.isSome_iff_exists.1 hsome
      rw [hu, Option.some_or]
    · simp [hkept]

theorem vertexOfSip?_addVertex (hg : g.WellFormed) (hv : g.vertex? v.edgePointId = none)
    (sip : SipId) :
    (g.addVertex v).vertexOfSip? sip =
      (g.vertexOfSip? sip).or (if v.sip = some sip then some v else none) := by
  have hvertex : ∀ id, (g.addVertex v).vertex? id =
      if v.edgePointId = id then some ((g.vertex? id).getD v) else g.vertex? id :=
    vertex?_addVertex g v
  have hfree : ¬ g.hasVertex v.edgePointId = true := by simp [hasVertex_eq_isSome, hv]
  have hsips : (g.addVertex v).sips[sip]? =
      (g.sips[sip]?).or (if v.sip = some sip then some v.edgePointId else none) := by
    rw [addVertex, if_neg hfree]
    cases hs : v.sip with
    | none => simp
    | some s =>
        simp only [Std.TreeMap.getElem?_insertIfNew, Std.LawfulEqOrd.compare_eq_iff_eq]
        by_cases hs' : s = sip
        · subst hs'
          cases hold : g.sips[s]? with
          | none => simp [Std.TreeMap.mem_iff_isSome_getElem?, hold]
          | some id => simp [Std.TreeMap.mem_iff_isSome_getElem?, hold]
        · simp [hs']
  simp only [vertexOfSip?, hsips]
  cases hold : g.sips[sip]? with
  | none =>
      by_cases hs : v.sip = some sip
      · simp [hs, hvertex, hv]
      · simp [hs]
  | some id =>
      obtain ⟨w, hw, -⟩ := hg.vertex_of_sip hold
      simp [hvertex, hw]

/-- A vertex with a new id is kept, and takes its sip if no vertex has it. -/
theorem Resolves.addVertex_of_new (h : g.Resolves vs) (hg : g.WellFormed)
    (hv : g.vertex? v.edgePointId = none) : (g.addVertex v).Resolves (vs ++ [v]) := by
  have hvertex := vertex?_addVertex g v
  have hne : ∀ u ∈ vs, u.edgePointId ≠ v.edgePointId := by
    rw [h.vertex, List.find?_eq_none] at hv
    simpa using hv
  constructor
  · intro id
    rw [hvertex, List.find?_append]
    by_cases hid : v.edgePointId = id
    · subst hid
      rw [if_pos rfl, ← h.vertex, hv]
      simp
    · rw [if_neg hid, h.vertex]
      simp [hid]
  · intro sip
    rw [vertexOfSip?_addVertex hg hv, h.sip, List.find?_append]
    congr 1
    · refine List.find?_congr fun u hu => ?_
      rw [hvertex, if_neg (hne u hu).symm]
    · rw [List.find?_singleton, hvertex, if_pos rfl, hv, Option.getD_none]
      simp

theorem Resolves.addVertex (h : g.Resolves vs) (hg : g.WellFormed) (v : Vertex) :
    (g.addVertex v).Resolves (vs ++ [v]) := by
  by_cases hv : g.hasVertex v.edgePointId = true
  · exact h.addVertex_of_taken hv
  · exact h.addVertex_of_new hg (vertex?_eq_none hv)

theorem Resolves.addVertices (h : g.Resolves vs) (hg : g.WellFormed) (ws : List Vertex) :
    (ws.foldl Graph.addVertex g).Resolves (vs ++ ws) := by
  induction ws generalizing g vs with
  | nil => simpa using h
  | cons w ws ih =>
      have := ih (h.addVertex hg w) (addVertex_wellFormed hg w)
      rwa [List.append_assoc] at this

/-- A vertex stays when more are offered. -/
theorem Resolves.vertex?_of_append {h : Graph} {ws : List Vertex} {id : EdgePointId}
    (hg : g.Resolves vs) (hh : h.Resolves (vs ++ ws)) (hid : g.hasVertex id = true) :
    h.vertex? id = g.vertex? id := by
  obtain ⟨v, hv⟩ := hasVertex_iff.1 hid
  rw [hh.vertex, List.find?_append, ← hg.vertex, hv, Option.some_or]

/-- All ids offered are those of vertices. -/
theorem Resolves.hasVertex (h : g.Resolves vs) (hv : v ∈ vs) :
    g.hasVertex v.edgePointId = true := by
  rw [hasVertex_eq_isSome, h.vertex]
  exact List.find?_isSome.2 ⟨v, hv, by simp⟩

/-- Edges have no part in what ids and sips resolve to. -/
theorem connect_tables (g : Graph) (sources sinks : List EdgePointId) :
    (g.connect sources sinks).vertices = g.vertices ∧ (g.connect sources sinks).sips = g.sips :=
  connect_induction (P := fun h => h.vertices = g.vertices ∧ h.sips = g.sips) ⟨rfl, rfl⟩
    fun _ _ _ _ _ _ h => h

theorem vertex?_connect (g : Graph) (sources sinks : List EdgePointId) (id : EdgePointId) :
    (g.connect sources sinks).vertex? id = g.vertex? id := by
  rw [vertex?, (g.connect_tables sources sinks).1, vertex?]

theorem Resolves.connect (h : g.Resolves vs) (sources sinks : List EdgePointId) :
    (g.connect sources sinks).Resolves vs := by
  obtain ⟨hvertices, hsips⟩ := g.connect_tables sources sinks
  have hvertex := g.vertex?_connect sources sinks
  have hsip : ∀ sip, (g.connect sources sinks).vertexOfSip? sip = g.vertexOfSip? sip := by
    intro sip
    rw [vertexOfSip?, hsips, vertexOfSip?]
    exact congrArg _ (funext hvertex)
  constructor
  · intro id
    rw [hvertex, h.vertex]
  · intro sip
    simp only [hsip, hvertex, h.sip]

theorem Resolves.addNode (h : g.Resolves vs) (hg : g.WellFormed) (n : Node) :
    (g.addNode n).Resolves (vs ++ n.vertices) :=
  (h.addVertices hg n.vertices).connect _ _

theorem Resolves.addNodes (h : g.Resolves vs) (hg : g.WellFormed) (nodes : List Node) :
    (nodes.foldl Graph.addNode g).Resolves (vs ++ nodes.flatMap Node.vertices) := by
  induction nodes generalizing g vs with
  | nil => simpa using h
  | cons n nodes ih =>
      have := ih (h.addNode hg n) (addNode_wellFormed hg n)
      rwa [List.append_assoc] at this

/-- What ids and sips resolve to depends on the nodes alone. -/
theorem ofTopology_resolves (hg : ofTopology t = .ok g) : g.Resolves t.vertices := by
  unfold ofTopology at hg
  split at hg
  case isTrue => cases hg
  case isFalse =>
    cases hg
    have hnodes := empty_resolves.addNodes empty_wellFormed t.nodes
    exact List.foldlRecOn (motive := fun g : Graph => g.Resolves t.vertices) _ _ hnodes
      fun g h l _ => h.connect _ _

/-- Every vertex that a graph keeps is offered by a node. -/
theorem exists_node_of_kept (hg : ofTopology t = .ok g) {id : EdgePointId}
    (hv : g.vertex? id = some v) : ∃ n ∈ t.nodes, v ∈ n.vertices := by
  rw [(ofTopology_resolves hg).vertex] at hv
  exact List.mem_flatMap.1 (List.mem_of_find?_eq_some hv)

end Graph

/-- A vertex tells of the node that offers it. -/
theorem Node.owner_of_mem_vertices {n : Node} {v : Vertex} (hv : v ∈ n.vertices) :
    v.nodeId = n.id ∧ v.driverId = n.driverId := by
  obtain ⟨p, -, rfl⟩ := List.mem_map.1 hv
  exact ⟨rfl, rfl⟩

/-- The vertex that an edge point of a node would be. -/
def Node.vertexAt (n : Node) (p : EdgePoint) : Vertex :=
  ⟨n.id, p.id, p.mappedSips.head?, p.direction, n.driverId⟩

namespace Topology

/-- All edge points with their nodes, in order. -/
def edgePoints (t : Topology) : List (Node × EdgePoint) :=
  t.nodes.flatMap fun n => n.edgePoints.map fun p => (n, p)

/-- No node lists two edge points of one id, and nodes of one id are taken as one. -/
def RefsDistinct (t : Topology) : Prop :=
  ∀ x ∈ t.edgePoints, ∀ y ∈ t.edgePoints, x.1.id = y.1.id → x.2.id = y.2.id → x = y

variable {t : Topology}

theorem vertices_eq_map (t : Topology) :
    t.vertices =
      (t.edgePoints.filter fun x => x.2.direction ≠ .unknown).map fun x => x.1.vertexAt x.2 := by
  rw [edgePoints, List.filter_flatMap, List.map_flatMap]
  refine congrArg (t.nodes.flatMap ·) (funext fun n => ?_)
  rw [List.filter_map, List.map_map]
  rfl

/-- A vertex offered is that of an edge point of a known direction. -/
theorem mem_vertices {v : Vertex} :
    v ∈ t.vertices ↔
      ∃ n p, (n, p) ∈ t.edgePoints ∧ p.direction ≠ .unknown ∧ n.vertexAt p = v := by
  rw [vertices_eq_map]
  simp [and_assoc]

theorem findSip?_eq_find? (t : Topology) (sip : SipId) :
    t.findSip? sip = t.edgePoints.find? fun x => x.2.mappedSips.contains sip := by
  rw [edgePoints, List.find?_flatMap]
  refine congrArg (t.nodes.findSome? ·) (funext fun n => ?_)
  rw [List.find?_map]
  rfl

end Topology

namespace Graph

variable {g : Graph} {t : Topology} {sip : SipId} {n : Node} {p : EdgePoint}

/-- The graph takes an edge point for a sip: it is of a known direction and the first of its id, and
the sip is the first that it is mapped to. -/
structure Takes (g : Graph) (sip : SipId) (n : Node) (p : EdgePoint) : Prop where
  known : p.direction ≠ .unknown
  first : p.mappedSips.head? = some sip
  kept : g.vertex? p.id = some (n.vertexAt p)

/-- A sip resolves to the first edge point of the topology that it is mapped to, if the graph takes
this one for it. -/
theorem vertexOfSip?_eq_vertexAt_iff (hg : ofTopology t = .ok g)
    (hfound : t.findSip? sip = some (n, p)) :
    g.vertexOfSip? sip = some (n.vertexAt p) ↔ g.Takes sip n p := by
  rw [(ofTopology_resolves hg).sip]
  constructor
  · intro h
    obtain ⟨n', p', -, hknown, heq⟩ := Topology.mem_vertices.1 (List.mem_of_find?_eq_some h)
    have hdirection : p'.direction = p.direction := congrArg Vertex.direction heq
    have hholds := List.find?_some h
    simp only [decide_eq_true_eq] at hholds
    exact ⟨hdirection ▸ hknown, hholds.1, hholds.2⟩
  · intro h
    rw [Topology.findSip?_eq_find?] at hfound
    obtain ⟨-, before, rest, hsplit, hbefore⟩ := List.find?_eq_some_iff_append.1 hfound
    rw [Topology.vertices_eq_map, hsplit, List.filter_append, List.map_append, List.find?_append,
      List.filter_cons_of_pos (by simpa using h.known), List.map_cons]
    have hnone : ((before.filter fun x => x.2.direction ≠ .unknown).map fun x =>
        x.1.vertexAt x.2).find? (fun v => v.sip = some sip ∧ g.vertex? v.edgePointId = some v) =
          none := by
      rw [List.find?_eq_none]
      intro v hv hholds
      obtain ⟨x, hx, rfl⟩ := List.mem_map.1 hv
      have hmapped := hbefore x (List.mem_filter.1 hx).1
      simp only [decide_eq_true_eq] at hholds
      have hmem : sip ∈ x.2.mappedSips := List.mem_of_mem_head? hholds.1
      simp [hmem] at hmapped
    rw [hnone, Option.none_or, List.find?_cons_of_pos]
    simpa using ⟨h.first, h.kept⟩

/-- Where refs are distinct, a vertex that a sip resolves to is known by its ref. -/
theorem eq_vertexAt_of_ref (hg : ofTopology t = .ok g) (ht : t.RefsDistinct)
    (hfound : t.findSip? sip = some (n, p)) {v : Vertex} (hv : g.vertexOfSip? sip = some v)
    (href : v.ref = ⟨n.id, p.id⟩) : v = n.vertexAt p := by
  rw [(ofTopology_resolves hg).sip] at hv
  rw [Topology.findSip?_eq_find?] at hfound
  obtain ⟨n', p', hmem, -, rfl⟩ := Topology.mem_vertices.1 (List.mem_of_find?_eq_some hv)
  have heq := ht _ hmem _ (List.mem_of_find?_eq_some hfound)
    (congrArg EdgePointRef.nodeId href) (congrArg EdgePointRef.edgePointId href)
  cases heq
  rfl

end Graph

end Connectivity
