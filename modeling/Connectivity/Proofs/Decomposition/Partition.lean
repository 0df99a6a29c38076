import Connectivity.Proofs.Decomposition.Ordering
import Connectivity.Proofs.Decomposition.Placement
import Connectivity.Proofs.Graph.Resolution

/-!
# Sub-requests as a partition

The paths of all pairs may have many vertices in common. The sub-requests still have each vertex
once, under the node that owns it and with a driver family that this node declares. So every
sub-request is ready for a driver to be selected.
-/
namespace Connectivity

namespace Decomposition

variable {t : Topology} {g : Graph} {endpoints : List ServiceEndPoint}

/-- A sub-request has the driver family of a vertex of its node. -/
theorem exists_owner_of_mem_subRequests {vertices : List Vertex} {s : SubRequest}
    (hs : s ∈ subRequests endpoints vertices) :
    ∃ v ∈ vertices, v.nodeId = s.nodeId ∧ v.driverId = s.driverId := by
  obtain ⟨group, hgroup, hdriver, -⟩ := mem_subRequests.1 hs
  have hfirst := driverId_groupsOf endpoints vertices s.nodeId
  rw [hgroup, Option.map_some] at hfirst
  obtain ⟨v, hv, hfamily⟩ := Option.map_eq_some_iff.1 hfirst.symm
  have hnode : v.nodeId = s.nodeId := by simpa using List.find?_some hv
  exact ⟨v, List.mem_of_find?_eq_some hv, hnode, by rw [hfamily, hdriver]⟩

/-- The sub-requests have all vertices on the paths, by nodes and in each by edge points, and
nothing else. -/
structure Partitions (t : Topology) (g : Graph) (endpoints : List ServiceEndPoint)
    (subs : List SubRequest) : Prop where
  connected : ∀ v w, RolePair g endpoints v w →
    ∃ path, g.shortestPath v.edgePointId w.edgePointId = some path
  ascending : (subs.map (·.nodeId)).Pairwise (· < ·)
  ordered : ∀ s ∈ subs, s.Ordered
  covers : ∃ vertices : List Vertex, vertices.Nodup ∧ (∀ v, v ∈ vertices ↔ OnPath g endpoints v) ∧
    ((subs.flatMap (·.endpoints)).map (·.point)).Perm (vertices.map fun v => some v.ref)
  declared : ∀ s ∈ subs, ∃ n ∈ t.nodes, n.id = s.nodeId ∧ n.driverId = s.driverId

/-- However often a vertex is on a path, its ref is that of one endpoint. -/
theorem points_perm (hg : g.WellFormed) {vertices : List Vertex}
    (hmem : ∀ v, v ∈ vertices ↔ OnPath g endpoints v) :
    (((subRequests endpoints vertices).flatMap (·.endpoints)).map (·.point)).Perm
      (vertices.dedup.map fun v => some v.ref) := by
  have hpoints : (((subRequests endpoints vertices).flatMap (·.endpoints)).map (·.point)).Nodup :=
    List.pairwise_map.2 (points_pairwise_ne endpoints vertices)
  have hrefs : (vertices.dedup.map fun v => some v.ref).Nodup := by
    refine (List.nodup_dedup vertices).map_on fun v hv w hw heq => ?_
    rw [List.mem_dedup, hmem] at hv hw
    exact hv.eq_of_ref hg hw (Option.some.inj heq)
  rw [List.perm_ext_iff_of_nodup hpoints hrefs]
  intro point
  simp only [List.mem_map, mem_points_iff_onPath hg hmem, List.mem_dedup, hmem]
  constructor
  · rintro ⟨p, ⟨v, hv, rfl⟩, rfl⟩
    exact ⟨v, hv, rfl⟩
  · rintro ⟨v, hv, rfl⟩
    exact ⟨_, ⟨v, hv, rfl⟩, rfl⟩

theorem partitions_of_connected (hg : Graph.ofTopology t = .ok g) (h : Connected g endpoints)
    {vertices : List Vertex} (hmem : ∀ v, v ∈ vertices ↔ OnPath g endpoints v) :
    Partitions t g endpoints (subRequests endpoints vertices) := by
  have hwf := Graph.ofTopology_wellFormed hg
  constructor
  case connected =>
    intro v w hpair
    exact (hpair.exists_path_iff hwf).2 (h.reaches v w hpair)
  case ascending => exact subRequests_ascending endpoints vertices
  case ordered => exact fun s hs => ordered_of_mem_subRequests hs
  case covers =>
    refine ⟨vertices.dedup, List.nodup_dedup vertices, fun v => ?_, points_perm hwf hmem⟩
    rw [List.mem_dedup, hmem]
  case declared =>
    intro s hs
    obtain ⟨v, hv, hnode, hdriver⟩ := exists_owner_of_mem_subRequests hs
    obtain ⟨n, hn, hvn⟩ := Graph.exists_node_of_kept hg (((hmem v).1 hv).kept hwf)
    obtain ⟨hid, hfamily⟩ := Node.owner_of_mem_vertices hvn
    exact ⟨n, hn, hid.symm.trans hnode, hfamily.symm.trans hdriver⟩

end Decomposition

open Decomposition

variable {t : Topology} {endpoints : List ServiceEndPoint} {subs : List SubRequest}

/-- A decomposition divides the vertices on the paths of all pairs among the nodes. Each part has a
target, so that its driver is only refused where no builder offers one or several do. -/
theorem decompose_partitions (h : decompose t endpoints = .ok (some subs)) :
    ∃ g, Graph.ofTopology t = .ok g ∧ Partitions t g endpoints subs ∧
      ∀ s ∈ subs, ∃ target, Target.ofSubRequest? s = some target ∧
        ∀ {ε : Type} (r : Registry ε) (slot : Nat) (context : Context) (error : Error),
          (r.select slot s context).result = .error error → error.isSelectionError = true := by
  obtain ⟨g, hg, hanswered⟩ := decompose_eq_ok h
  obtain ⟨hconnected, vertices, hmem, rfl⟩ := hanswered.connected_of_some
  have hpartitions := partitions_of_connected hg hconnected hmem
  refine ⟨g, hg, hpartitions, fun s hs => ?_⟩
  obtain ⟨target, htarget, -⟩ := (hpartitions.ordered s hs).exists_target
  exact ⟨target, htarget, fun r slot context error herror =>
    Registry.isSelectionError_of_select htarget herror⟩

/-- Three endpoints behind a hub, which the paths of all pairs cross. -/
def aroundHub : List ServiceEndPoint :=
  [Sample.endPoint "n1:2", Sample.endPoint "n2:2", Sample.endPoint "n3:2"]

def hubParts : List SubRequest :=
  [⟨"n0", "n0", [⟨none, some (Sample.ref "n0:1")⟩, ⟨none, some (Sample.ref "n0:2")⟩,
      ⟨none, some (Sample.ref "n0:3")⟩]⟩,
    ⟨"n1", "n1", [⟨none, some (Sample.ref "n1:1")⟩,
      ⟨some (Sample.endPoint "n1:2"), some (Sample.ref "n1:2")⟩]⟩,
    ⟨"n2", "n2", [⟨none, some (Sample.ref "n2:1")⟩,
      ⟨some (Sample.endPoint "n2:2"), some (Sample.ref "n2:2")⟩]⟩,
    ⟨"n3", "n3", [⟨none, some (Sample.ref "n3:1")⟩,
      ⟨some (Sample.endPoint "n3:2"), some (Sample.ref "n3:2")⟩]⟩]

theorem hub_partitioned :
    decompose Sample.star aroundHub = .ok (some hubParts) ∧
      ∃ g, Graph.ofTopology Sample.star = .ok g ∧ Partitions Sample.star g aroundHub hubParts ∧
        ∀ s ∈ hubParts, ∃ target, Target.ofSubRequest? s = some target ∧
          ∀ {ε : Type} (r : Registry ε) (slot : Nat) (context : Context) (error : Error),
            (r.select slot s context).result = .error error → error.isSelectionError = true := by
  have hsubs : decompose Sample.star aroundHub = .ok (some hubParts) := by decide +kernel
  exact ⟨hsubs, decompose_partitions hsubs⟩

end Connectivity
