import Connectivity.Decomposition.Basic
import Connectivity.Proofs.Collections

/-!
# Vertices grouped into sub-requests

Each vertex goes to the group of its node. A group tells of each edge point once, as the first
vertex with that id has it, so that no two endpoints of the sub-requests are on one edge point.
-/
namespace Connectivity

namespace Decomposition

variable {endpoints : List ServiceEndPoint}

/-- What the groups tell of an edge point at a node. -/
def pointAt? (groups : Std.TreeMap NodeId Group) (node : NodeId) (id : EdgePointId) :
    Option EndPoint :=
  groups[node]?.bind fun group => group.points[id]?

/-- The groups of some vertices. -/
def groupsOf (endpoints : List ServiceEndPoint) (vertices : List Vertex) :
    Std.TreeMap NodeId Group :=
  vertices.foldl (addToGroups endpoints) ∅

theorem pointAt?_addToGroups (groups : Std.TreeMap NodeId Group) (v : Vertex) (node : NodeId)
    (id : EdgePointId) :
    pointAt? (addToGroups endpoints groups v) node id =
      (pointAt? groups node id).or
        (if v.nodeId = node ∧ v.edgePointId = id then some (endPointAt endpoints v) else none) := by
  unfold pointAt? addToGroups
  by_cases hnode : v.nodeId = node
  · subst hnode
    simp only [Std.TreeMap.getElem?_insert_self, Option.bind_some, Std.TreeMap.getElem?_insertIfNew,
      Std.LawfulEqOrd.compare_eq_iff_eq, Std.TreeMap.getD_eq_getD_getElem?,
      Std.TreeMap.mem_iff_isSome_getElem?, true_and]
    cases groups[v.nodeId]? with
    | none => by_cases hid : v.edgePointId = id <;> simp [hid]
    | some group =>
        by_cases hid : v.edgePointId = id
        · subst hid
          cases hpoint : group.points[v.edgePointId]? <;> simp [hpoint]
        · simp [hid]
  · simp [Std.TreeMap.getElem?_insert, hnode]

/-- Of the vertices with one node and one id the first one counts. -/
theorem pointAt?_groupsOf (vertices : List Vertex) (node : NodeId) (id : EdgePointId) :
    pointAt? (groupsOf endpoints vertices) node id =
      (vertices.find? fun v => v.nodeId = node ∧ v.edgePointId = id).map
        (endPointAt endpoints) := by
  suffices general : ∀ groups, pointAt? (vertices.foldl (addToGroups endpoints) groups) node id =
      (pointAt? groups node id).or ((vertices.find? fun v =>
        v.nodeId = node ∧ v.edgePointId = id).map (endPointAt endpoints)) by
    exact (general ∅).trans (by simp [pointAt?])
  intro groups
  induction vertices generalizing groups with
  | nil => simp
  | cons v vertices ih =>
      rw [List.foldl_cons, ih, pointAt?_addToGroups, List.find?_cons, Option.or_assoc]
      by_cases h : v.nodeId = node ∧ v.edgePointId = id <;> simp [h]

/-- Of each vertex something is told: what the first one with its node and its id has. -/
theorem exists_pointAt?_of_mem (endpoints : List ServiceEndPoint) {vertices : List Vertex}
    {v : Vertex} (hv : v ∈ vertices) :
    ∃ w ∈ vertices, w.edgePointId = v.edgePointId ∧
      pointAt? (groupsOf endpoints vertices) v.nodeId v.edgePointId =
        some (endPointAt endpoints w) := by
  have hfound : (vertices.find? fun w =>
      w.nodeId = v.nodeId ∧ w.edgePointId = v.edgePointId).isSome := by
    rw [List.find?_isSome]
    exact ⟨v, hv, by simp⟩
  obtain ⟨w, hw⟩ := Option.isSome_iff_exists.1 hfound
  have hid : w.nodeId = v.nodeId ∧ w.edgePointId = v.edgePointId := by
    simpa using List.find?_some hw
  refine ⟨w, List.mem_of_find?_eq_some hw, hid.2, ?_⟩
  rw [pointAt?_groupsOf, hw, Option.map_some]

theorem mem_groupsOf (vertices : List Vertex) (node : NodeId) :
    node ∈ groupsOf endpoints vertices ↔ ∃ v ∈ vertices, v.nodeId = node := by
  suffices general : ∀ groups : Std.TreeMap NodeId Group,
      node ∈ vertices.foldl (addToGroups endpoints) groups ↔
        node ∈ groups ∨ ∃ v ∈ vertices, v.nodeId = node by
    exact (general ∅).trans (or_iff_right Std.TreeMap.not_mem_emptyc)
  intro groups
  induction vertices generalizing groups with
  | nil => simp
  | cons v vertices ih =>
      rw [List.foldl_cons, ih, addToGroups, Std.TreeMap.mem_insert,
        Std.LawfulEqOrd.compare_eq_iff_eq, List.exists_mem_cons_iff, @or_comm (v.nodeId = node),
        or_assoc]

theorem driverId_addToGroups (groups : Std.TreeMap NodeId Group) (v : Vertex) (node : NodeId) :
    (addToGroups endpoints groups v)[node]?.map (·.driverId) =
      (groups[node]?.map (·.driverId)).or
        (if v.nodeId = node then some v.driverId else none) := by
  unfold addToGroups
  by_cases hnode : v.nodeId = node
  · subst hnode
    simp only [Std.TreeMap.getElem?_insert_self, Std.TreeMap.getD_eq_getD_getElem?, Option.map_some]
    cases groups[v.nodeId]? <;> simp
  · simp [Std.TreeMap.getElem?_insert, hnode]

/-- A group has the driver family of the first vertex of its node. -/
theorem driverId_groupsOf (endpoints : List ServiceEndPoint) (vertices : List Vertex)
    (node : NodeId) :
    (groupsOf endpoints vertices)[node]?.map (·.driverId) =
      (vertices.find? fun v => v.nodeId = node).map (·.driverId) := by
  suffices general : ∀ groups : Std.TreeMap NodeId Group,
      (vertices.foldl (addToGroups endpoints) groups)[node]?.map (·.driverId) =
        (groups[node]?.map (·.driverId)).or
          ((vertices.find? fun v => v.nodeId = node).map (·.driverId)) by
    exact (general ∅).trans (by simp)
  intro groups
  induction vertices generalizing groups with
  | nil => simp
  | cons v vertices ih =>
      rw [List.foldl_cons, ih, driverId_addToGroups, List.find?_cons, Option.or_assoc]
      by_cases h : v.nodeId = node <;> simp [h]

theorem mem_subRequests {vertices : List Vertex} {s : SubRequest} :
    s ∈ subRequests endpoints vertices ↔
      ∃ group, (groupsOf endpoints vertices)[s.nodeId]? = some group ∧
        s.driverId = group.driverId ∧ s.endpoints = group.points.values := by
  rw [subRequests, List.mem_map]
  constructor
  · rintro ⟨⟨node, group⟩, hgroup, rfl⟩
    exact ⟨group, Std.TreeMap.mem_toList_iff_getElem?_eq_some.1 hgroup, rfl, rfl⟩
  · rintro ⟨group, hgroup, hdriver, hpoints⟩
    refine ⟨(s.nodeId, group), Std.TreeMap.mem_toList_iff_getElem?_eq_some.2 hgroup, ?_⟩
    cases s
    simp only at hdriver hpoints ⊢
    rw [hdriver, hpoints]

/-- A node has one sub-request. -/
theorem eq_of_nodeId {vertices : List Vertex} {s s' : SubRequest}
    (hs : s ∈ subRequests endpoints vertices) (hs' : s' ∈ subRequests endpoints vertices)
    (hnode : s.nodeId = s'.nodeId) : s = s' := by
  obtain ⟨group, hgroup, hdriver, hpoints⟩ := mem_subRequests.1 hs
  obtain ⟨group', hgroup', hdriver', hpoints'⟩ := mem_subRequests.1 hs'
  have hsame : group = group' := by
    rw [hnode, hgroup'] at hgroup
    exact (Option.some.inj hgroup).symm
  cases s
  cases s'
  simp_all only

theorem subRequests_eq_nil_iff {vertices : List Vertex} :
    subRequests endpoints vertices = [] ↔ vertices = [] := by
  constructor
  · intro h
    refine List.eq_nil_iff_forall_not_mem.2 fun v hv => ?_
    have hnode : v.nodeId ∈ groupsOf endpoints vertices := (mem_groupsOf vertices _).2 ⟨v, hv, rfl⟩
    rw [Std.TreeMap.mem_iff_isSome_getElem?, Option.isSome_iff_exists] at hnode
    obtain ⟨group, hgroup⟩ := hnode
    have hs : (⟨v.nodeId, group.driverId, group.points.values⟩ : SubRequest) ∈
        subRequests endpoints vertices := mem_subRequests.2 ⟨group, hgroup, rfl, rfl⟩
    rw [h] at hs
    exact nomatch hs
  · rintro rfl
    rfl

/-- A group tells of edge points of its node under their own ids. -/
theorem point_of_getElem? {vertices : List Vertex} {node : NodeId} {group : Group}
    (hgroup : (groupsOf endpoints vertices)[node]? = some group) {id : EdgePointId} {p : EndPoint}
    (hp : group.points[id]? = some p) :
    ∃ v ∈ vertices, v.nodeId = node ∧ v.edgePointId = id ∧ endPointAt endpoints v = p := by
  have hpoint : pointAt? (groupsOf endpoints vertices) node id = some p := by
    rw [pointAt?, hgroup]
    exact hp
  rw [pointAt?_groupsOf] at hpoint
  obtain ⟨v, hv, rfl⟩ := Option.map_eq_some_iff.1 hpoint
  obtain ⟨hnode, hid⟩ : v.nodeId = node ∧ v.edgePointId = id := by simpa using List.find?_some hv
  exact ⟨v, List.mem_of_find?_eq_some hv, hnode, hid, rfl⟩

/-- Where vertices with one id are equal, the sub-requests tell of all of them, and of nothing
else. -/
theorem exists_subRequest_iff {vertices : List Vertex}
    (hids : ∀ v ∈ vertices, ∀ w ∈ vertices, v.edgePointId = w.edgePointId → v = w)
    {node : NodeId} {p : EndPoint} :
    (∃ s ∈ subRequests endpoints vertices, s.nodeId = node ∧ p ∈ s.endpoints) ↔
      ∃ v ∈ vertices, v.nodeId = node ∧ endPointAt endpoints v = p := by
  constructor
  · rintro ⟨s, hs, rfl, hp⟩
    obtain ⟨group, hgroup, -, hpoints⟩ := mem_subRequests.1 hs
    rw [hpoints] at hp
    obtain ⟨id, hid⟩ := mem_values.1 hp
    obtain ⟨v, hv, hnode, -, heq⟩ := point_of_getElem? hgroup hid
    exact ⟨v, hv, hnode, heq⟩
  · rintro ⟨v, hv, rfl, rfl⟩
    obtain ⟨w, hw, hid, hpoint⟩ := exists_pointAt?_of_mem endpoints hv
    rw [hids w hw v hv hid] at hpoint
    obtain ⟨group, hgroup, hid⟩ := Option.bind_eq_some_iff.1 hpoint
    exact ⟨⟨v.nodeId, group.driverId, group.points.values⟩,
      mem_subRequests.2 ⟨group, hgroup, rfl, rfl⟩, rfl, mem_values.2 ⟨_, hid⟩⟩

/-- A sub-request tells of the vertices of its node. -/
theorem mem_endpoints_iff {vertices : List Vertex}
    (hids : ∀ v ∈ vertices, ∀ w ∈ vertices, v.edgePointId = w.edgePointId → v = w)
    {s : SubRequest} (hs : s ∈ subRequests endpoints vertices) {p : EndPoint} :
    p ∈ s.endpoints ↔ ∃ v ∈ vertices, v.nodeId = s.nodeId ∧ endPointAt endpoints v = p := by
  rw [← exists_subRequest_iff hids]
  constructor
  · intro hp
    exact ⟨s, hs, rfl, hp⟩
  · rintro ⟨s', hs', hnode, hp⟩
    rwa [← eq_of_nodeId hs' hs hnode]

/-- No two endpoints of the sub-requests are on one edge point. -/
theorem points_pairwise_ne (endpoints : List ServiceEndPoint) (vertices : List Vertex) :
    ((subRequests endpoints vertices).flatMap (·.endpoints)).Pairwise
      fun p q => p.point ≠ q.point := by
  have hnode : ∀ s ∈ subRequests endpoints vertices, ∀ p ∈ s.endpoints,
      ∃ id, p.point = some ⟨s.nodeId, id⟩ := by
    intro s hs p hp
    obtain ⟨group, hgroup, -, hpoints⟩ := mem_subRequests.1 hs
    rw [hpoints] at hp
    obtain ⟨id, hid⟩ := mem_values.1 hp
    obtain ⟨v, -, hv, -, rfl⟩ := point_of_getElem? hgroup hid
    exact ⟨v.edgePointId, by rw [← hv]; rfl⟩
  rw [List.pairwise_flatMap]
  constructor
  · intro s hs
    obtain ⟨group, hgroup, -, hpoints⟩ := mem_subRequests.1 hs
    rw [hpoints, values_eq_map_toList, List.pairwise_map]
    refine (toList_keys_ne group.points).imp_of_mem fun {x y} hx hy hne heq => hne ?_
    obtain ⟨v, -, -, hv, hvx⟩ :=
      point_of_getElem? hgroup (Std.TreeMap.mem_toList_iff_getElem?_eq_some.1 hx)
    obtain ⟨w, -, -, hw, hwy⟩ :=
      point_of_getElem? hgroup (Std.TreeMap.mem_toList_iff_getElem?_eq_some.1 hy)
    rw [← hvx, ← hwy] at heq
    rw [← hv, ← hw]
    exact congrArg EdgePointRef.edgePointId (Option.some.inj heq)
  · rw [subRequests, List.pairwise_map]
    refine (toList_keys_ne (groupsOf endpoints vertices)).imp_of_mem
      fun {x y} hx hy hne p hp q hq heq => hne ?_
    obtain ⟨i, hi⟩ := hnode _ (List.mem_map_of_mem hx) p hp
    obtain ⟨j, hj⟩ := hnode _ (List.mem_map_of_mem hy) q hq
    rw [hi, hj] at heq
    exact congrArg EdgePointRef.nodeId (Option.some.inj heq)

end Decomposition

end Connectivity
