import Connectivity.Proofs.Decomposition.Grouping
import Connectivity.Proofs.Driver.Target

/-!
# The order of sub-requests

Sub-requests come by ascending nodes. Each is on edge points of its own node, at least one, and
these come by ascending ids.
-/
namespace Connectivity

/-- A sub-request is on edge points of its node, by ascending ids. -/
structure SubRequest.Ordered (s : SubRequest) : Prop where
  nonempty : s.endpoints ≠ []
  resolved : ∀ p ∈ s.endpoints, p.nodeId? = some s.nodeId
  ascending : (s.endpoints.filterMap (·.edgePointId?)).Pairwise (· < ·)

/-- A driver can be asked for on the edge points of such a sub-request. -/
theorem SubRequest.Ordered.exists_target {s : SubRequest} (h : s.Ordered) :
    ∃ target, Target.ofSubRequest? s = some target ∧
      target.points.length = s.endpoints.length ∧
      (target.kind = .multipoint ↔ 2 < s.endpoints.length) := by
  apply Target.exists_ofSubRequest? h.nonempty
  intro p hp
  have hnode := h.resolved p hp
  cases hpoint : p.point with
  | some => rfl
  | none =>
      rw [EndPoint.nodeId?, hpoint] at hnode
      exact nomatch hnode

/-- Its number of edge points tells whether it needs a multipoint target. -/
theorem SubRequest.Ordered.targetKind?_eq {s : SubRequest} (h : s.Ordered) :
    s.targetKind? ≠ none ∧ (s.targetKind? = some .multipoint ↔ 2 < s.endpoints.length) := by
  obtain ⟨target, htarget, -, hkind⟩ := h.exists_target
  rw [targetKind?, htarget, Option.map_some, Option.some.injEq]
  exact ⟨nofun, hkind⟩

namespace Decomposition

variable {endpoints : List ServiceEndPoint} {vertices : List Vertex} {node : NodeId} {group : Group}

theorem subRequests_ascending (endpoints : List ServiceEndPoint) (vertices : List Vertex) :
    ((subRequests endpoints vertices).map (·.nodeId)).Pairwise (· < ·) := by
  rw [subRequests, List.map_map, List.pairwise_map]
  exact toList_keys_ascending _

/-- A group is made for a vertex, of which it tells. -/
theorem values_ne_nil_of_group (hgroup : (groupsOf endpoints vertices)[node]? = some group) :
    group.points.values ≠ [] := by
  have hnode : node ∈ groupsOf endpoints vertices := by
    rw [Std.TreeMap.mem_iff_isSome_getElem?, hgroup]
    rfl
  obtain ⟨v, hv, rfl⟩ := (mem_groupsOf vertices node).1 hnode
  obtain ⟨w, -, -, hpoint⟩ := exists_pointAt?_of_mem endpoints hv
  rw [pointAt?, hgroup] at hpoint
  exact List.ne_nil_of_mem (mem_values.2 ⟨v.edgePointId, hpoint⟩)

/-- An edge point is told of under its own id, so that the order of the ids is that of the keys. -/
theorem edgePointIds_of_group (hgroup : (groupsOf endpoints vertices)[node]? = some group) :
    group.points.values.filterMap (·.edgePointId?) = group.points.toList.map (·.1) := by
  rw [values_eq_map_toList, List.filterMap_map, ← List.filterMap_eq_map]
  refine List.filterMap_congr fun x hx => ?_
  obtain ⟨v, -, -, hid, hp⟩ :=
    point_of_getElem? hgroup (Std.TreeMap.mem_toList_iff_getElem?_eq_some.1 hx)
  rw [Function.comp_apply, Function.comp_apply, ← hp, ← hid]
  rfl

theorem ordered_of_mem_subRequests {s : SubRequest} (hs : s ∈ subRequests endpoints vertices) :
    s.Ordered := by
  obtain ⟨group, hgroup, -, hpoints⟩ := mem_subRequests.1 hs
  constructor
  case nonempty =>
    rw [hpoints]
    exact values_ne_nil_of_group hgroup
  case resolved =>
    intro p hp
    rw [hpoints] at hp
    obtain ⟨id, hid⟩ := mem_values.1 hp
    obtain ⟨v, -, hnode, -, rfl⟩ := point_of_getElem? hgroup hid
    exact congrArg some hnode
  case ascending =>
    rw [hpoints, edgePointIds_of_group hgroup, List.pairwise_map]
    exact toList_keys_ascending _

end Decomposition

end Connectivity
