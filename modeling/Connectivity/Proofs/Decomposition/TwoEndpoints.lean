import Connectivity.Proofs.Decomposition.Partition
import Connectivity.Proofs.Graph.Crossing
import Connectivity.Proofs.Graph.Reversal

/-!
# Requests of two endpoints

Two endpoints are joined by one path, or by one path each way. A device joins all of its edge points
that these lead through, and needs a multipoint target if there are more than two of them. A path
leads through two of them at most. But the way back may be another one, as where there are parallel
links, or links that carry traffic one way only.
-/
namespace Connectivity

namespace Decomposition

variable {t : Topology} {g : Graph} {e f : ServiceEndPoint} {endpoints : List ServiceEndPoint}
  {u v w x y : Vertex} {path forth back vertices : List Vertex} {node : NodeId}

section Pairs

/-- Of two endpoints, one is in the input role and the other in the output role. -/
theorem RolePair.of_two (h : RolePair g [e, f] v w) :
    (g.vertexOfSip? e.sip = some v ∧ g.vertexOfSip? f.sip = some w) ∨
      (g.vertexOfSip? f.sip = some v ∧ g.vertexOfSip? e.sip = some w) := by
  obtain ⟨⟨i, hi, -, hv⟩, ⟨o, ho, -, hw⟩, hapart⟩ := h
  have hdiffer : i ≠ o := by
    intro hsame
    rw [hsame, hw] at hv
    exact hapart (congrArg Vertex.edgePointId (Option.some.inj hv)).symm
  simp only [List.mem_cons, List.not_mem_nil, or_false] at hi ho
  rcases hi with rfl | rfl
  · have hof : o = f := ho.resolve_left hdiffer.symm
    exact .inl ⟨hv, hof ▸ hw⟩
  · have hoe : o = e := ho.resolve_right hdiffer.symm
    exact .inr ⟨hv, hoe ▸ hw⟩

/-- Two endpoints make one pair, or one each way. -/
theorem RolePair.same_or_swapped (h : RolePair g [e, f] v w) (h' : RolePair g [e, f] x y) :
    (x = v ∧ y = w) ∨ (x = w ∧ y = v) := by
  have heq : ∀ {a b : Vertex} {sip : SipId}, g.vertexOfSip? sip = some a →
      g.vertexOfSip? sip = some b → a = b := by
    intro a b sip ha hb
    exact Option.some.inj (ha.symm.trans hb)
  -- the endpoints have the same roles in both pairs, or have them exchanged
  rcases h.of_two with ⟨hv, hw⟩ | ⟨hv, hw⟩ <;> rcases h'.of_two with ⟨hx, hy⟩ | ⟨hx, hy⟩
  · exact .inl ⟨heq hx hv, heq hy hw⟩
  · exact .inr ⟨heq hx hw, heq hy hv⟩
  · exact .inr ⟨heq hx hw, heq hy hv⟩
  · exact .inl ⟨heq hx hv, heq hy hw⟩

/-- The paths between the vertices of two endpoints: one that leads there, and one that leads back
if they are a pair that way too. -/
inductive Ways (g : Graph) (endpoints : List ServiceEndPoint) (v w : Vertex) :
    List Vertex → List Vertex → Prop where
  | one {forth : List Vertex} (pair : RolePair g endpoints v w)
      (single : ¬ RolePair g endpoints w v)
      (outward : g.shortestPath v.edgePointId w.edgePointId = some forth) :
      Ways g endpoints v w forth []
  | both {forth back : List Vertex} (pair : RolePair g endpoints v w)
      (swapped : RolePair g endpoints w v)
      (outward : g.shortestPath v.edgePointId w.edgePointId = some forth)
      (homeward : g.shortestPath w.edgePointId v.edgePointId = some back) :
      Ways g endpoints v w forth back

theorem exists_ways (hg : g.WellFormed) (h : Connected g endpoints) :
    ∃ v w forth back, Ways g endpoints v w forth back := by
  obtain ⟨v, w, hpair⟩ := h.paired
  obtain ⟨forth, hforth⟩ := (hpair.exists_path_iff hg).2 (h.reaches v w hpair)
  by_cases hswapped : RolePair g endpoints w v
  · obtain ⟨back, hback⟩ := (hswapped.exists_path_iff hg).2 (h.reaches w v hswapped)
    exact ⟨v, w, forth, back, .both hpair hswapped hforth hback⟩
  · exact ⟨v, w, forth, [], .one hpair hswapped hforth⟩

/-- The vertices on paths are those on the one path or on the other. -/
theorem Ways.onPath_iff (h : Ways g [e, f] v w forth back) :
    OnPath g [e, f] u ↔ u ∈ forth ∨ u ∈ back := by
  constructor
  · rintro ⟨x, y, path, hpair, hpath, hu⟩
    cases h with
    | one pair single outward =>
        rcases pair.same_or_swapped hpair with ⟨rfl, rfl⟩ | ⟨rfl, rfl⟩
        · cases outward.symm.trans hpath
          exact .inl hu
        · exact absurd hpair single
    | both pair swapped outward homeward =>
        rcases pair.same_or_swapped hpair with ⟨rfl, rfl⟩ | ⟨rfl, rfl⟩
        · cases outward.symm.trans hpath
          exact .inl hu
        · cases homeward.symm.trans hpath
          exact .inr hu
  · intro hu
    cases h with
    | one pair single outward =>
        have hforth : u ∈ forth := hu.resolve_right List.not_mem_nil
        exact ⟨v, w, forth, pair, outward, hforth⟩
    | both pair swapped outward homeward =>
        rcases hu with hforth | hback
        · exact ⟨v, w, forth, pair, outward, hforth⟩
        · exact ⟨w, v, back, swapped, homeward, hback⟩

end Pairs

section Crossings

/-- The vertices of a path on one device. -/
def crossed (path : List Vertex) (node : NodeId) : Finset Vertex :=
  (path.filter fun v => v.nodeId = node).toFinset

theorem mem_crossed : u ∈ crossed path node ↔ u ∈ path ∧ u.nodeId = node := by
  simp [crossed]

/-- A device has as many endpoints as there are vertices on it. -/
theorem length_endpoints_eq_card (hg : g.WellFormed)
    (hmem : ∀ u, u ∈ vertices ↔ OnPath g endpoints u) {s : SubRequest}
    (hs : s ∈ subRequests endpoints vertices) :
    s.endpoints.length = (crossed vertices s.nodeId).card := by
  have hids : ∀ v ∈ vertices, ∀ w ∈ vertices, v.edgePointId = w.edgePointId → v = w := by
    intro v hv w hw
    exact ((hmem v).1 hv).eq_of_id hg ((hmem w).1 hw)
  have hnodup : s.endpoints.Nodup := by
    have hne := (List.pairwise_flatMap.1 (points_pairwise_ne endpoints vertices)).1 s hs
    exact hne.imp fun hpoints heq => hpoints (congrArg EndPoint.point heq)
  have himage : s.endpoints.toFinset =
      (crossed vertices s.nodeId).image (endPointAt endpoints) := by
    ext p
    rw [List.mem_toFinset, mem_endpoints_iff hids hs, Finset.mem_image]
    simp only [mem_crossed, and_assoc]
  have hinj : Set.InjOn (endPointAt endpoints) (crossed vertices s.nodeId) := by
    intro v hv w hw heq
    have href : v.ref = w.ref := Option.some.inj (congrArg EndPoint.point heq)
    have hv := (hmem v).1 (mem_crossed.1 hv).1
    have hw := (hmem w).1 (mem_crossed.1 hw).1
    exact hv.eq_of_ref hg hw href
  rw [← List.toFinset_card_of_nodup hnodup, himage, Finset.card_image_of_injOn hinj]

/-- A device is crossed by what either way has on it. -/
theorem Ways.crossed_eq (h : Ways g [e, f] v w forth back)
    (hmem : ∀ u, u ∈ vertices ↔ OnPath g [e, f] u) (node : NodeId) :
    crossed vertices node = crossed forth node ∪ crossed back node := by
  ext u
  rw [Finset.mem_union, mem_crossed, mem_crossed, mem_crossed, hmem, h.onPath_iff, or_and_right]

/-- Traffic can enter where a pair begins, and can leave where it ends. An edge point of one
direction accepts a request for both, and may so be paired in a role that it cannot take. -/
def Capable (g : Graph) (endpoints : List ServiceEndPoint) : Prop :=
  ∀ v w, RolePair g endpoints v w →
    v.direction.isInputCapable = true ∧ w.direction.isOutputCapable = true

theorem card_crossed_le (ht : t.Unshared) (hg : Graph.ofTopology t = .ok g)
    (hcapable : Capable g endpoints) (hpair : RolePair g endpoints v w)
    (hpath : g.shortestPath v.edgePointId w.edgePointId = some path) (node : NodeId) :
    (crossed path node).card ≤ 2 := by
  obtain ⟨hv, hw⟩ := hpair.kept (Graph.ofTopology_wellFormed hg)
  obtain ⟨hin, hout⟩ := hcapable v w hpair
  have henters : g.Enters v.edgePointId := ⟨v, hv, hin⟩
  have hleaves : g.Leaves w.edgePointId := ⟨w, hw, hout⟩
  have hcrossing := Graph.crossing_of_shortestPath ht hg henters hleaves hpath node
  exact (List.toFinset_card_le _).trans hcrossing.length_le

/-- One path alone leads through two edge points of a device at most. -/
theorem Ways.card_le (h : Ways g endpoints v w forth back) (ht : t.Unshared)
    (hg : Graph.ofTopology t = .ok g) (hcapable : Capable g endpoints) (node : NodeId) :
    (crossed forth node).card ≤ 2 ∧ (crossed back node).card ≤ 2 := by
  cases h with
  | one pair single outward =>
      refine ⟨card_crossed_le ht hg hcapable pair outward node, ?_⟩
      simp [crossed]
  | both pair swapped outward homeward =>
      constructor
      · exact card_crossed_le ht hg hcapable pair outward node
      · exact card_crossed_le ht hg hcapable swapped homeward node

/-- Where there is one shortest route only, the way back leads through no edge point that the way
there does not. -/
theorem Ways.crossed_back_subset (h : Ways g endpoints v w forth back) (hb : t.Bidirectional)
    (hg : Graph.ofTopology t = .ok g)
    (honly : g.shortestRoutes v.edgePointId w.edgePointId = {forth.map (·.edgePointId)})
    (node : NodeId) : crossed back node ⊆ crossed forth node := by
  intro u hu
  rw [mem_crossed] at hu ⊢
  cases h with
  | one pair single outward => exact absurd hu.1 List.not_mem_nil
  | both pair swapped outward homeward =>
      rw [Graph.back_eq_reverse hb hg outward homeward honly, List.mem_reverse] at hu
      exact hu

theorem capable_of_bidirectional (hb : t.Bidirectional) (hg : Graph.ofTopology t = .ok g) :
    Capable g endpoints := by
  intro v w hpair
  obtain ⟨hv, hw⟩ := hpair.kept (Graph.ofTopology_wellFormed hg)
  rw [Graph.direction_of_bidirectional hb hg hv, Graph.direction_of_bidirectional hb hg hw]
  exact ⟨rfl, rfl⟩

end Crossings

/-- Two sets of at most two, one of which has the other, have at most two elements together. -/
theorem card_union_le_two {α : Type} [DecidableEq α] {A B : Finset α} (hA : A.card ≤ 2)
    (hB : B.card ≤ 2) (h : B ⊆ A ∨ A ⊆ B) : (A ∪ B).card ≤ 2 := by
  rcases h with hsub | hsub
  · rwa [Finset.union_eq_left.2 hsub]
  · rwa [Finset.union_eq_right.2 hsub]

end Decomposition

open Decomposition

variable {t : Topology} {e f : ServiceEndPoint} {subs : List SubRequest}

/-- Node ids and edge point ids are distinct, and links join edge points of different nodes. -/
structure Topology.Tidy (t : Topology) : Prop where
  nodes : (t.nodes.map (·.id)).Nodup
  points : (t.nodes.flatMap fun n => n.edgePoints.map (·.id)).Nodup
  links : ∀ l ∈ t.links, (l.edgePoints.map (·.nodeId)).Nodup

theorem Topology.Tidy.unshared (h : t.Tidy) : t.Unshared :=
  unshared_of_nodup h.nodes h.points

/-- Two nodes that two links join, each of which carries traffic one way. -/
def oneWayLinks : Topology :=
  Sample.topology
    [Sample.directedNode "n1" [("n1:1", .bidirectional), ("n1:2", .output), ("n1:3", .input)],
      Sample.directedNode "n2" [("n2:1", .bidirectional), ("n2:2", .input), ("n2:3", .output)]]
    [Sample.link "n1:2" "n2:2" .enabled, Sample.link "n2:3" "n1:3" .enabled]

def betweenNodes : List ServiceEndPoint := [Sample.endPoint "n1:1", Sample.endPoint "n2:1"]

/-- Each node joins its endpoint with the ends of both links. -/
def bothLinksTaken : List SubRequest :=
  [⟨"n1", "n1", [⟨some (Sample.endPoint "n1:1"), some (Sample.ref "n1:1")⟩,
      ⟨none, some (Sample.ref "n1:2")⟩, ⟨none, some (Sample.ref "n1:3")⟩]⟩,
    ⟨"n2", "n2", [⟨some (Sample.endPoint "n2:1"), some (Sample.ref "n2:1")⟩,
      ⟨none, some (Sample.ref "n2:2")⟩, ⟨none, some (Sample.ref "n2:3")⟩]⟩]

theorem twoLinks_tidy : Graph.twoLinks.Tidy where
  nodes := by decide +kernel
  points := by decide +kernel
  links := by decide +kernel

theorem twoLinks_taken :
    decompose Graph.twoLinks betweenNodes = .ok (some bothLinksTaken) := by
  decide +kernel

/-- Two endpoints need multipoint targets where the ways between them take different links: of two
parallel links each way takes the one that leaves by the lesser id, and of links that carry traffic
one way there is no choice. -/
theorem different_links_need_multipoint :
    Graph.twoLinks.Tidy ∧ decompose Graph.twoLinks betweenNodes = .ok (some bothLinksTaken) ∧
      oneWayLinks.Tidy ∧ decompose oneWayLinks betweenNodes = .ok (some bothLinksTaken) ∧
      bothLinksTaken.map (·.targetKind?) = [some .multipoint, some .multipoint] := by
  refine ⟨twoLinks_tidy, twoLinks_taken, ⟨?_, ?_, ?_⟩, ?_, rfl⟩ <;> decide +kernel

/-- A request of two endpoints needs a multipoint target on the devices that the way there and the
way back lead through by more than two edge points together. Each way alone has two of them at most
if traffic can enter and leave where it is to, so that this is only where neither way keeps to the
edge points of the other. It is nowhere if all edge points are bidirectional and there is one
shortest route. -/
theorem two_endpoints_multipoint_iff (ht : t.Unshared)
    (h : decompose t [e, f] = .ok (some subs)) :
    ∃ g v w forth back, Graph.ofTopology t = .ok g ∧ Ways g [e, f] v w forth back ∧
      (∀ s ∈ subs, s.targetKind? ≠ none ∧ (s.targetKind? = some .multipoint ↔
        2 < (crossed forth s.nodeId ∪ crossed back s.nodeId).card)) ∧
      (Capable g [e, f] →
        (∀ node, (crossed forth node).card ≤ 2 ∧ (crossed back node).card ≤ 2) ∧
        ∀ s ∈ subs, s.targetKind? = some .multipoint →
          ¬ crossed back s.nodeId ⊆ crossed forth s.nodeId ∧
            ¬ crossed forth s.nodeId ⊆ crossed back s.nodeId) ∧
      (t.Bidirectional →
        g.shortestRoutes v.edgePointId w.edgePointId = {forth.map (·.edgePointId)} →
          ∀ s ∈ subs, s.targetKind? ≠ some .multipoint) := by
  obtain ⟨g, hg, hanswered⟩ := decompose_eq_ok h
  have hwf := Graph.ofTopology_wellFormed hg
  obtain ⟨hconnected, vertices, hmem, rfl⟩ := hanswered.connected_of_some
  obtain ⟨v, w, forth, back, hways⟩ := exists_ways hwf hconnected
  have hkind : ∀ s ∈ subRequests [e, f] vertices, s.targetKind? ≠ none ∧
      (s.targetKind? = some .multipoint ↔
        2 < (crossed forth s.nodeId ∪ crossed back s.nodeId).card) := by
    intro s hs
    rw [← hways.crossed_eq hmem, ← length_endpoints_eq_card hwf hmem hs]
    exact (ordered_of_mem_subRequests hs).targetKind?_eq
  -- if one way kept to the edge points of the other, there would be two of them at most
  have hdiffer : Capable g [e, f] → ∀ s ∈ subRequests [e, f] vertices,
      s.targetKind? = some .multipoint →
        ¬ (crossed back s.nodeId ⊆ crossed forth s.nodeId ∨
          crossed forth s.nodeId ⊆ crossed back s.nodeId) := by
    intro hcapable s hs hmulti hsub
    obtain ⟨hforth, hback⟩ := hways.card_le ht hg hcapable s.nodeId
    have hmany := (hkind s hs).2.1 hmulti
    have hfew := card_union_le_two hforth hback hsub
    omega
  refine ⟨g, v, w, forth, back, hg, hways, hkind, fun hcapable => ⟨?_, ?_⟩, ?_⟩
  · exact hways.card_le ht hg hcapable
  · intro s hs hmulti
    exact not_or.1 (hdiffer hcapable s hs hmulti)
  · intro hb honly s hs hmulti
    apply hdiffer (capable_of_bidirectional hb hg) s hs hmulti
    exact .inl (hways.crossed_back_subset hb hg honly s.nodeId)

/-- Of two parallel links each way takes another one. -/
theorem twoLinks_ways_differ :
    Graph.twoLinks.Unshared ∧ decompose Graph.twoLinks betweenNodes = .ok (some bothLinksTaken) ∧
      ∃ g v w forth back, Graph.ofTopology Graph.twoLinks = .ok g ∧
        Ways g betweenNodes v w forth back ∧
        2 < (crossed forth "n1" ∪ crossed back "n1").card ∧
        ¬ crossed back "n1" ⊆ crossed forth "n1" ∧ ¬ crossed forth "n1" ⊆ crossed back "n1" := by
  have ht : Graph.twoLinks.Unshared := twoLinks_tidy.unshared
  have hb : Graph.twoLinks.Bidirectional := by
    unfold Topology.Bidirectional
    decide +kernel
  obtain ⟨g, v, w, forth, back, hg, hways, hkind, hcapable, -⟩ :=
    two_endpoints_multipoint_iff ht twoLinks_taken
  have hfirst : bothLinksTaken.head (List.cons_ne_nil _ _) ∈ bothLinksTaken := List.head_mem _
  have hdiffer := (hcapable (capable_of_bidirectional hb hg)).2 _ hfirst rfl
  exact ⟨ht, twoLinks_taken, g, v, w, forth, back, hg, hways, (hkind _ hfirst).2.1 rfl, hdiffer⟩

end Connectivity
