import Connectivity.Proofs.Decomposition.Partition
import Connectivity.Proofs.Decomposition.SameAnswer

/-!
# The set of requested endpoints

In which order a request has its endpoints and how often decides what pairs are looked at first, and
so the order in which vertices come to their groups. But a group has its edge points by their ids,
and each is told with the one endpoint that asks for its sip. So the sub-requests depend on the set
of endpoints alone, except that a node which is listed several times, with different driver
families, is served by the family that comes first.
-/
namespace Connectivity

/-- Nodes of one id declare one driver family. -/
def Topology.FamiliesAgree (t : Topology) : Prop :=
  ∀ n ∈ t.nodes, ∀ n' ∈ t.nodes, n.id = n'.id → n.driverId = n'.driverId

namespace Decomposition

variable {g : Graph} {t : Topology} {es fs : List ServiceEndPoint} {vs ws : List Vertex}
  {u v w : Vertex} {node : NodeId}

section Requests

theorem RolePair.mono (hsub : ∀ e ∈ es, e ∈ fs) (h : RolePair g es v w) : RolePair g fs v w := by
  obtain ⟨⟨i, hi, hinput⟩, ⟨o, ho, houtput⟩, hapart⟩ := h
  exact ⟨⟨i, hsub i hi, hinput⟩, ⟨o, hsub o ho, houtput⟩, hapart⟩

theorem OnPath.mono (hsub : ∀ e ∈ es, e ∈ fs) (h : OnPath g es u) : OnPath g fs u := by
  obtain ⟨v, w, path, hpair, hpath⟩ := h
  exact ⟨v, w, path, hpair.mono hsub, hpath⟩

variable (hsame : ∀ e, e ∈ es ↔ e ∈ fs)
include hsame

theorem malformed_congr : Malformed g es ↔ Malformed g fs := by
  simp only [Malformed, hsame]

theorem Connected.of_same (h : Connected g es) : Connected g fs where
  admissible := by
    refine ⟨fun e he => h.admissible.fits e ((hsame e).2 he), fun e he f hf => ?_⟩
    exact h.admissible.distinct e ((hsame e).2 he) f ((hsame f).2 hf)
  paired := by
    obtain ⟨v, w, hpair⟩ := h.paired
    exact ⟨v, w, hpair.mono fun e => (hsame e).1⟩
  reaches v w hpair := h.reaches v w (hpair.mono fun e => (hsame e).2)

theorem onPath_congr : OnPath g es u ↔ OnPath g fs u :=
  ⟨OnPath.mono fun e => (hsame e).1, OnPath.mono fun e => (hsame e).2⟩

/-- Where endpoints with one sip are equal, it does not matter which of them is found first. -/
theorem endPointAt_congr (hdistinct : ∀ e ∈ es, ∀ f ∈ es, e.sip = f.sip → e = f) :
    endPointAt es = endPointAt fs := by
  have hfind : ∀ sip : SipId,
      (es.find? fun e => e.sip = sip) = fs.find? fun e => e.sip = sip := by
    intro sip
    have hfound := map_find?_congr (f := id) (P := fun e => decide (e.sip = sip)) hsame ?_
    · rwa [Option.map_id_fun, id, id] at hfound
    · intro e he f hf hesip hfsip
      exact hdistinct e he f hf ((of_decide_eq_true hesip).trans (of_decide_eq_true hfsip).symm)
  funext v
  simp only [endPointAt, hfind]

end Requests

section Groups

variable (hpoints : endPointAt es = endPointAt fs) (hmem : ∀ v, v ∈ vs ↔ v ∈ ws)
  (hids : ∀ v ∈ vs, ∀ w ∈ vs, v.edgePointId = w.edgePointId → v = w)
include hpoints hmem hids

/-- Whichever vertex comes first, the groups tell the same of each edge point. -/
theorem pointAt?_congr (node : NodeId) (id : EdgePointId) :
    pointAt? (groupsOf es vs) node id = pointAt? (groupsOf fs ws) node id := by
  rw [pointAt?_groupsOf, pointAt?_groupsOf, ← hpoints]
  refine map_find?_congr hmem fun v hv w hw hvid hwid => congrArg _ ?_
  have hvid := of_decide_eq_true hvid
  have hwid := of_decide_eq_true hwid
  exact hids v hv w hw (hvid.2.trans hwid.2.symm)

theorem values_groupsOf_congr (node : NodeId) :
    (groupsOf es vs)[node]?.map (·.points.values) =
      (groupsOf fs ws)[node]?.map (·.points.values) := by
  have hnode : node ∈ groupsOf es vs ↔ node ∈ groupsOf fs ws := by
    simp only [mem_groupsOf, hmem]
  have hat := pointAt?_congr hpoints hmem hids node
  simp only [Std.TreeMap.mem_iff_isSome_getElem?] at hnode
  unfold pointAt? at hat
  cases hgroup : (groupsOf es vs)[node]? <;> cases hgroup' : (groupsOf fs ws)[node]? <;>
    simp only [hgroup, hgroup', Option.isSome_some, Option.isSome_none, iff_true, true_iff,
      Bool.false_eq_true] at hnode
  case none.none => rfl
  case some.some group group' =>
    refine congrArg some (values_congr fun id => ?_)
    simpa only [hgroup, hgroup', Option.bind_some] using hat id

/-- The sub-requests are for the same nodes, with the same endpoints. -/
theorem subRequests_parts_congr :
    ((subRequests es vs).map fun s => (s.nodeId, s.endpoints)) =
      (subRequests fs ws).map fun s => (s.nodeId, s.endpoints) := by
  rw [subRequests, subRequests, List.map_map, List.map_map]
  refine map_toList_congr (f := fun node (group : Group) => (node, group.points.values))
    fun node => ?_
  have hvalues := congrArg (Option.map (Prod.mk node))
    (values_groupsOf_congr hpoints hmem hids node)
  rwa [Option.map_map, Option.map_map] at hvalues

/-- If the vertices of a node tell one driver family, the sub-requests are the same. -/
theorem subRequests_congr
    (hfamilies : ∀ v ∈ vs, ∀ w ∈ vs, v.nodeId = w.nodeId → v.driverId = w.driverId) :
    subRequests es vs = subRequests fs ws := by
  refine map_toList_congr
    (f := fun node (group : Group) => SubRequest.mk node group.driverId group.points.values)
    fun node => ?_
  have hvalues := values_groupsOf_congr hpoints hmem hids node
  have hdriver : (groupsOf es vs)[node]?.map (·.driverId) =
      (groupsOf fs ws)[node]?.map (·.driverId) := by
    rw [driverId_groupsOf, driverId_groupsOf]
    refine map_find?_congr hmem fun v hv w hw hvnode hwnode => ?_
    exact hfamilies v hv w hw ((of_decide_eq_true hvnode).trans (of_decide_eq_true hwnode).symm)
  change (groupsOf es vs)[node]?.map _ = (groupsOf fs ws)[node]?.map _
  cases hgroup : (groupsOf es vs)[node]? with
  | none =>
      rw [hgroup, Option.map_none, eq_comm, Option.map_eq_none_iff] at hvalues
      rw [hvalues, Option.map_none]
  | some group =>
      rw [hgroup, Option.map_some, eq_comm, Option.map_eq_some_iff] at hvalues
      obtain ⟨group', hgroup', hpoints'⟩ := hvalues
      rw [hgroup, hgroup', Option.map_some, Option.map_some, Option.some.injEq] at hdriver
      rw [hgroup', Option.map_some, Option.map_some, hpoints', hdriver]

end Groups

/-- Vertices tell the driver families of their nodes. -/
theorem driverId_eq_of_familiesAgree (ht : t.FamiliesAgree) (hg : Graph.ofTopology t = .ok g)
    (hv : g.vertex? v.edgePointId = some v) (hw : g.vertex? w.edgePointId = some w)
    (hnode : v.nodeId = w.nodeId) : v.driverId = w.driverId := by
  obtain ⟨n, hn, hvn⟩ := Graph.exists_node_of_kept hg hv
  obtain ⟨n', hn', hwn⟩ := Graph.exists_node_of_kept hg hw
  obtain ⟨hid, hfamily⟩ := Node.owner_of_mem_vertices hvn
  obtain ⟨hid', hfamily'⟩ := Node.owner_of_mem_vertices hwn
  rw [hfamily, hfamily']
  exact ht n hn n' hn' (by rw [← hid, ← hid', hnode])

end Decomposition

open Decomposition

/-- Requests with the same set of endpoints are answered alike. If they are decomposed, then into
the same endpoints on the same nodes, and also for the same driver families unless the topology has
nodes of one id with different ones. -/
theorem decompose_of_same_endpoints (t : Topology) {es fs : List ServiceEndPoint}
    (hes : 2 ≤ es.length) (hfs : 2 ≤ fs.length) (hsame : ∀ e, e ∈ es ↔ e ∈ fs) :
    AnsweredAlike
      (fun subs subs' =>
        ((subs.map fun s => (s.nodeId, s.endpoints)) =
          subs'.map fun s => (s.nodeId, s.endpoints)) ∧
        (t.FamiliesAgree → subs = subs'))
      (decompose t es) (decompose t fs) := by
  by_cases hnodes : t.nodes = []
  · rw [decompose_of_no_nodes hes hnodes, decompose_of_no_nodes hfs hnodes]
    exact .refused rfl
  obtain ⟨g, hg⟩ := (Graph.exists_ofTopology_eq_ok_iff t).2 hnodes
  have hwf := Graph.ofTopology_wellFormed hg
  rw [decompose_of_graph hes hg, decompose_of_graph hfs hg]
  refine (inGraph_answered hwf es).alike (inGraph_answered hwf fs) (by simp only [hsame])
    (malformed_congr hsame)
    ⟨fun h => h.of_same hsame, fun h => h.of_same fun e => (hsame e).symm⟩
    fun hconnected vs ws hvs hws => ?_
  have hpoints := endPointAt_congr hsame hconnected.admissible.distinct
  have hmem : ∀ v, v ∈ vs ↔ v ∈ ws := fun v => by rw [hvs, hws, onPath_congr hsame]
  have hids : ∀ v ∈ vs, ∀ w ∈ vs, v.edgePointId = w.edgePointId → v = w := fun v hv w hw =>
    ((hvs v).1 hv).eq_of_id hwf ((hvs w).1 hw)
  refine ⟨subRequests_parts_congr hpoints hmem hids, fun hfamilies => ?_⟩
  refine subRequests_congr hpoints hmem hids fun v hv w hw => ?_
  exact driverId_eq_of_familiesAgree hfamilies hg (((hvs v).1 hv).kept hwf)
    (((hvs w).1 hw).kept hwf)

/-- The endpoints behind the hub in another order, and one of them twice. -/
def aroundHubAgain : List ServiceEndPoint :=
  [Sample.endPoint "n3:2", Sample.endPoint "n1:2", Sample.endPoint "n3:2", Sample.endPoint "n2:2"]

theorem aroundHubAgain_decomposed :
    2 ≤ aroundHub.length ∧ 2 ≤ aroundHubAgain.length ∧
      (∀ e, e ∈ aroundHub ↔ e ∈ aroundHubAgain) ∧ Sample.star.FamiliesAgree ∧
      decompose Sample.star aroundHub = .ok (some hubParts) ∧
      decompose Sample.star aroundHubAgain = .ok (some hubParts) := by
  have htwo : 2 ≤ aroundHub.length := by decide
  have htwo' : 2 ≤ aroundHubAgain.length := by decide
  have hsame : ∀ e, e ∈ aroundHub ↔ e ∈ aroundHubAgain := by
    intro e
    simp only [aroundHub, aroundHubAgain, List.mem_cons, List.not_mem_nil, or_false]
    tauto
  have hfamilies : Sample.star.FamiliesAgree := by
    unfold Topology.FamiliesAgree
    decide
  have hsubs : decompose Sample.star aroundHub = .ok (some hubParts) := by decide +kernel
  have halike := decompose_of_same_endpoints Sample.star htwo htwo' hsame
  rw [hsubs] at halike
  obtain ⟨subs, hanswer, -, heq⟩ := halike.of_some
  rw [← heq hfamilies] at hanswer
  exact ⟨htwo, htwo', hsame, hfamilies, hsubs, hanswer⟩

/-- A node that is listed twice, with two driver families, and two links to another one. -/
def listedTwice : Topology :=
  Sample.topology
    [Sample.nodeWithDriver "n1" "d1" ["n1:1"], Sample.nodeWithDriver "n1" "d2" ["n1:2"],
      Sample.node "n2" ["n2:1"]]
    [Sample.link "n1:1" "n2:1" .enabled, Sample.link "n1:2" "n2:1" .enabled]

-- Whichever of its two endpoints comes first decides for the node.
example :
    decompose listedTwice [Sample.directedEndPoint "n1:1" .input,
        Sample.directedEndPoint "n1:2" .input, Sample.directedEndPoint "n2:1" .output] ≠
      decompose listedTwice [Sample.directedEndPoint "n1:2" .input,
        Sample.directedEndPoint "n1:1" .input, Sample.directedEndPoint "n2:1" .output] := by
  decide +kernel

end Connectivity
