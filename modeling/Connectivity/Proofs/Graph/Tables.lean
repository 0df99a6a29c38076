import Connectivity.Proofs.Graph.EdgeSet
import Mathlib.Data.Set.Card

/-!
# The tables of a graph

Vertices are found by their ids and by their sips, and the first edge point wins in both cases. An
edge point that is not kept leaves nothing in any table: no sip resolves to it, and the table of
targets has the ids of the vertices and no others.
-/
namespace Connectivity

/-- A stronger property has the same first element if the first element of the weaker one has it. -/
theorem find?_eq_of_first {α : Type} {P Q : α → Bool} {xs : List α}
    (hweaker : ∀ x ∈ xs, Q x = true → P x = true)
    (hfirst : ∀ x, xs.find? P = some x → Q x = true) : xs.find? Q = xs.find? P := by
  cases hfound : xs.find? P with
  | none =>
      rw [List.find?_eq_none] at hfound ⊢
      exact fun x hx hQ => hfound x hx (hweaker x hx hQ)
  | some x =>
      obtain ⟨-, before, rest, rfl, hbefore⟩ := List.find?_eq_some_iff_append.1 hfound
      refine List.find?_eq_some_iff_append.2 ⟨hfirst x hfound, before, rest, rfl, fun y hy => ?_⟩
      have hP := hbefore y hy
      rw [Bool.not_eq_true'] at hP ⊢
      refine Bool.eq_false_iff.2 fun hQ => ?_
      rw [hweaker y (List.mem_append_left _ hy) hQ] at hP
      cases hP

namespace Topology

variable {t : Topology} {x : Node × EdgePoint}

/-- The first edge point of a known direction that has the id. -/
def firstEdgePoint? (t : Topology) (id : EdgePointId) : Option (Node × EdgePoint) :=
  t.edgePoints.find? fun x => x.2.id = id ∧ x.2.direction ≠ .unknown

/-- Of the edge points that are the first of their id, the first one that is mapped to the sip
before any other. -/
def firstWithSip? (t : Topology) (sip : SipId) : Option (Node × EdgePoint) :=
  t.edgePoints.find? fun x =>
    t.firstEdgePoint? x.2.id = some x ∧ x.2.mappedSips.head? = some sip

theorem known_of_firstEdgePoint? {id : EdgePointId} (h : t.firstEdgePoint? id = some x) :
    x.2.id = id ∧ x.2.direction ≠ .unknown := by
  simpa using List.find?_some h

/-- Of the edge points with a sip whose vertex is that of the first one of their id, the first is
itself the first of its id. -/
theorem firstEdgePoint?_of_first {sip : SipId}
    (hx : (t.edgePoints.find? fun x => (x.2.direction ≠ .unknown ∧ x.2.mappedSips.head? = some sip ∧
      (t.firstEdgePoint? x.2.id).map (fun y => y.1.vertexAt y.2) = some (x.1.vertexAt x.2) :
        Bool)) = some x) : t.firstEdgePoint? x.2.id = some x := by
  obtain ⟨hholds, before, rest, hsplit, hbefore⟩ := List.find?_eq_some_iff_append.1 hx
  simp only [decide_eq_true_eq] at hholds
  obtain ⟨hknown, hsip, hkept⟩ := hholds
  obtain ⟨y, hy, hvertex⟩ := Option.map_eq_some_iff.1 hkept
  obtain ⟨hid, hyknown⟩ := known_of_firstEdgePoint? hy
  have hysip : y.2.mappedSips.head? = some sip := (congrArg Vertex.sip hvertex).trans hsip
  -- an earlier one of that id would make the same vertex, and so be found earlier
  have hnone : y ∉ before := by
    intro hmem
    have hfails := hbefore y hmem
    rw [hid, hy, Option.map_some] at hfails
    simp [hyknown, hysip] at hfails
  have hfound := hy
  rw [firstEdgePoint?, hsplit, List.find?_append] at hfound
  cases hearlier : before.find? fun z => z.2.id = x.2.id ∧ z.2.direction ≠ .unknown with
  | some z =>
      rw [hearlier, Option.some_or] at hfound
      exact absurd (Option.some.inj hfound ▸ List.mem_of_find?_eq_some hearlier) hnone
  | none =>
      rw [hearlier, Option.none_or, List.find?_cons_of_pos (by simpa using hknown)] at hfound
      rw [hy, Option.some.inj hfound]

end Topology

namespace Graph

variable {g : Graph} {t : Topology} {a b : EdgePointId}

theorem vertex?_eq_firstEdgePoint? (hg : ofTopology t = .ok g) (id : EdgePointId) :
    g.vertex? id = (t.firstEdgePoint? id).map fun x => x.1.vertexAt x.2 := by
  rw [(ofTopology_resolves hg).vertex, Topology.vertices_eq_map, List.find?_map, List.find?_filter,
    Topology.firstEdgePoint?]
  refine congrArg (Option.map _) (List.find?_congr fun x _ => ?_)
  simp [Node.vertexAt, and_comm]

theorem vertexOfSip?_eq_firstWithSip? (hg : ofTopology t = .ok g) (sip : SipId) :
    g.vertexOfSip? sip = (t.firstWithSip? sip).map fun x => x.1.vertexAt x.2 := by
  have hvertices : g.vertexOfSip? sip = (t.edgePoints.find? fun x =>
      (x.2.direction ≠ .unknown ∧ x.2.mappedSips.head? = some sip ∧
        (t.firstEdgePoint? x.2.id).map (fun y => y.1.vertexAt y.2) =
          some (x.1.vertexAt x.2) : Bool)).map fun x => x.1.vertexAt x.2 := by
    rw [(ofTopology_resolves hg).sip, Topology.vertices_eq_map, List.find?_map, List.find?_filter]
    refine congrArg (Option.map _) (List.find?_congr fun x _ => ?_)
    rw [decide_eq_decide, Function.comp_apply, decide_eq_true_eq, decide_eq_true_eq,
      ← vertex?_eq_firstEdgePoint? hg]
    rfl
  rw [hvertices, Topology.firstWithSip?]
  refine congrArg (Option.map _) (find?_eq_of_first (fun x _ hx => ?_) fun x hx => ?_).symm
  · simp only [decide_eq_true_eq] at hx ⊢
    exact ⟨(Topology.known_of_firstEdgePoint? hx.1).2, hx.2, by rw [hx.1, Option.map_some]⟩
  · have hholds := List.find?_some hx
    simp only [decide_eq_true_eq] at hholds ⊢
    exact ⟨Topology.firstEdgePoint?_of_first hx, hholds.2.1⟩

/-! ## Edges -/

theorem mem_edges : (a, b) ∈ g.edges ↔ g.hasEdge a b = true := by
  simp only [edges, List.mem_flatMap, List.mem_map, Prod.mk.injEq, hasEdge,
    Std.TreeMap.getD_eq_getD_getElem?]
  constructor
  · rintro ⟨⟨x, bs⟩, hentry, y, hy, rfl, rfl⟩
    rw [Std.TreeMap.mem_toList_iff_getElem?_eq_some.1 hentry, Option.getD_some]
    exact Std.TreeSet.contains_iff_mem.2 (Std.TreeSet.mem_toList.1 hy)
  · intro h
    cases hentry : g.targets[a]? with
    | none => simp [hentry] at h
    | some bs =>
        rw [hentry, Option.getD_some] at h
        exact ⟨(a, bs), Std.TreeMap.mem_toList_iff_getElem?_eq_some.2 hentry, b,
          Std.TreeSet.mem_toList.2 (Std.TreeSet.contains_iff_mem.1 h), rfl, rfl⟩

theorem edges_nodup (g : Graph) : g.edges.Nodup := by
  refine List.nodup_flatMap.2 ⟨fun entry _ => ?_, ?_⟩
  · refine (nodup_of_ascending (toList_ascending entry.2)).map fun x y h => ?_
    exact (Prod.mk.inj h).2
  · refine (toList_keys_ne g.targets).imp fun {x y} hne => ?_
    intro edge hx hy
    obtain ⟨b, -, rfl⟩ := List.mem_map.1 hx
    obtain ⟨c, -, hc⟩ := List.mem_map.1 hy
    exact hne (Prod.mk.inj hc).1.symm

theorem length_edges (g : Graph) : g.edges.length = g.edgeCount := by
  rw [edges, List.length_flatMap, edgeCount, Std.TreeMap.foldl_eq_foldl_toList, List.sum_eq_foldl,
    List.foldl_map]
  simp only [List.length_map, Std.TreeSet.length_toList]

/-- Each edge is counted once. -/
theorem encard_hasEdge (g : Graph) :
    {e : EdgePointId × EdgePointId | g.hasEdge e.1 e.2 = true}.encard = g.edgeCount := by
  have hset : {e : EdgePointId × EdgePointId | g.hasEdge e.1 e.2 = true} = ↑g.edges.toFinset := by
    ext e
    rw [Finset.mem_coe, List.mem_toFinset, Set.mem_ofPred_eq, mem_edges]
  rw [hset, Set.encard_coe_eq_coe_finsetCard, List.toFinset_card_of_nodup g.edges_nodup,
    length_edges]

/-! ## All tables -/

/-- Every table of a graph says of the topology what it should, and the tables agree. -/
structure Tabulates (g : Graph) (t : Topology) : Prop where
  vertex : ∀ id, g.vertex? id = (t.firstEdgePoint? id).map fun x => x.1.vertexAt x.2
  sip : ∀ sip, g.vertexOfSip? sip = (t.firstWithSip? sip).map fun x => x.1.vertexAt x.2
  index : ∀ sip id, g.sips[sip]? = some id ↔
    ∃ v, g.vertexOfSip? sip = some v ∧ v.edgePointId = id
  unresolved : ∀ sip, g.vertexOfSip? sip = none ↔ ∀ id v, g.vertex? id = some v → v.sip ≠ some sip
  resolved : ∀ sip v, g.vertexOfSip? sip = some v →
    v.sip = some sip ∧ g.vertex? v.edgePointId = some v
  injective : ∀ sip sip' v, g.vertexOfSip? sip = some v → g.vertexOfSip? sip' = some v → sip = sip'
  keys : g.targets.keys = g.vertices.keys
  target : ∀ a b, g.hasEdge a b = true → g.hasVertex b = true
  no_loop : ∀ a, g.hasEdge a a = false
  edges : {e : EdgePointId × EdgePointId | g.hasEdge e.1 e.2 = true}.encard = g.edgeCount

theorem WellFormed.getElem?_sips_eq_some_iff (h : g.WellFormed) (sip : SipId) (id : EdgePointId) :
    g.sips[sip]? = some id ↔ ∃ v, g.vertexOfSip? sip = some v ∧ v.edgePointId = id := by
  rw [vertexOfSip?]
  constructor
  · intro hid
    obtain ⟨v, hv, -⟩ := h.vertex_of_sip hid
    exact ⟨v, by rw [hid, Option.bind_some, hv], h.id_of_vertex hv⟩
  · rintro ⟨v, hv, rfl⟩
    obtain ⟨id, hid, hv⟩ := Option.bind_eq_some_iff.1 hv
    rw [hid, h.id_of_vertex hv]

/-- A sip resolves to nothing only if no vertex has it. -/
theorem vertexOfSip?_eq_none_iff (hg : ofTopology t = .ok g) (sip : SipId) :
    g.vertexOfSip? sip = none ↔ ∀ id v, g.vertex? id = some v → v.sip ≠ some sip := by
  have hwf := ofTopology_wellFormed hg
  have hr := ofTopology_resolves hg
  rw [hr.sip, List.find?_eq_none]
  constructor
  · intro h id v hv hsip
    have hmem : v ∈ t.vertices := List.mem_of_find?_eq_some ((hr.vertex id).symm.trans hv)
    refine h v hmem ?_
    rw [decide_eq_true_eq, hwf.id_of_vertex hv]
    exact ⟨hsip, hv⟩
  · intro h v _ hholds
    rw [decide_eq_true_eq] at hholds
    exact h _ v hholds.2 hholds.1

/-- The first edge point wins for ids and for sips, no two sips resolve to one vertex, and edges
join different vertices and are counted once. -/
theorem ofTopology_tabulates (hg : ofTopology t = .ok g) : g.Tabulates t where
  vertex := vertex?_eq_firstEdgePoint? hg
  sip := vertexOfSip?_eq_firstWithSip? hg
  index := (ofTopology_wellFormed hg).getElem?_sips_eq_some_iff
  unresolved := vertexOfSip?_eq_none_iff hg
  resolved _ _ := (ofTopology_wellFormed hg).vertexOfSip?_eq_some
  injective sip sip' v hv hv' := by
    have hsip := ((ofTopology_wellFormed hg).vertexOfSip?_eq_some hv).1
    rw [((ofTopology_wellFormed hg).vertexOfSip?_eq_some hv').1] at hsip
    exact (Option.some.inj hsip).symm
  keys := (ofTopology_wellFormed hg).keys_targets
  target _ _ := (ofTopology_wellFormed hg).target_of_edge
  no_loop a := by
    refine Bool.eq_false_iff.2 fun hedge => ?_
    exact ((hasEdge_ofTopology hg).1 hedge).1 rfl
  edges := g.encard_hasEdge

/-- Two nodes that both list `p:1`, first without a direction and then mapped to `sip:1` and to
`sip:2`; another edge point is mapped to `sip:1` too. -/
def contested : Topology :=
  Sample.topology
    [⟨"n1", "n1", [⟨"p:1", .unknown, ["sip:3"]⟩, ⟨"p:1", .input, ["sip:1", "sip:4"]⟩]⟩,
      ⟨"n2", "n2", [⟨"p:1", .output, ["sip:2"]⟩, ⟨"p:2", .output, ["sip:1"]⟩]⟩] []

/-- The edge point of the first node keeps its id and its first sip; the sips of edge points that
are not kept resolve to nothing, nor do further sips of one that is. -/
theorem contested_tabulated :
    ∃ g, ofTopology contested = .ok g ∧
      g.vertex? "p:1" = some ⟨"n1", "p:1", some "sip:1", .input, "n1"⟩ ∧
      g.vertexOfSip? "sip:1" = g.vertex? "p:1" ∧ g.vertexOfSip? "sip:2" = none ∧
      g.vertexOfSip? "sip:3" = none ∧ g.vertexOfSip? "sip:4" = none ∧
      (g.vertex? "p:2").isSome = true := by
  obtain ⟨g, hg⟩ := (exists_ofTopology_eq_ok_iff contested).2 (by decide)
  have htables := ofTopology_tabulates hg
  refine ⟨g, hg, ?_⟩
  rw [htables.vertex, htables.vertex, htables.sip, htables.sip, htables.sip, htables.sip]
  decide +kernel

end Graph

end Connectivity
