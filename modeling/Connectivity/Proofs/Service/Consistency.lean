import Connectivity.Proofs.Decomposition.Placement
import Connectivity.Proofs.Service.History
import Connectivity.Proofs.Service.Replacement
import Connectivity.Proofs.Service.Success

/-!
# Stored services are consistent

A service has the caller's endpoints twice: in its list, and on edge points in its connections. A
creation puts every endpoint of the request on an edge point and no others, and a change rewrites
both places by one function. So they have the same endpoints whatever happens to the service.
-/
namespace Connectivity

open Decomposition

/-- The parts of a service fit together. -/
structure Service.Consistent (s : Service) : Prop where
  connected : s.connections ≠ []
  ascending : (s.connections.map (·.nodeId)).Pairwise (· < ·)
  named : ∀ c ∈ s.connections, c.id = s.id ++ ":" ++ c.nodeId
  ordered : ∀ c ∈ s.connections, c.toSubRequest.Ordered
  callers : ∀ e, e ∈ s.callers ↔ e ∈ s.endpoints

namespace Service

variable {s : Service}

theorem Consistent.mapEndpoints (h : s.Consistent) (f : ServiceEndPoint → ServiceEndPoint) :
    (s.mapEndpoints f).Consistent := by
  constructor
  case connected => exact mt List.map_eq_nil_iff.1 h.connected
  case ascending =>
    have hnodes : (s.mapEndpoints f).connections.map (·.nodeId) = s.connections.map (·.nodeId) := by
      simp [Service.mapEndpoints]
    rw [hnodes]
    exact h.ascending
  case named =>
    intro c' hc'
    obtain ⟨c, hc, rfl⟩ := List.mem_map.1 hc'
    exact h.named c hc
  case ordered =>
    intro c' hc'
    obtain ⟨c, hc, rfl⟩ := List.mem_map.1 hc'
    exact (h.ordered c hc).of_layout_eq Connection.layout_mapEndpoints
  case callers =>
    intro e
    rw [callers_mapEndpoints, List.mem_map]
    simp only [h.callers]
    exact List.mem_map.symm

theorem Consistent.replaceEndpoint (h : s.Consistent) (e : ServiceEndPoint) :
    (s.replaceEndpoint e).Consistent := by
  rw [replaceEndpoint_eq_mapEndpoints]
  exact h.mapEndpoints e.inPlaceOf

end Service

section Creation

variable {t : Topology} {endpoints : List ServiceEndPoint} {subs : List SubRequest}

/-- A decomposition tells of the caller's endpoints, of all and of no others. -/
theorem mem_callers_iff_of_decompose (h : decompose t endpoints = .ok (some subs))
    (e : ServiceEndPoint) :
    (∃ s ∈ subs, ∃ p ∈ s.endpoints, p.endpoint = some e) ↔ e ∈ endpoints := by
  obtain ⟨g, hg, hanswered⟩ := decompose_eq_ok h
  have hwf := Graph.ofTopology_wellFormed hg
  obtain ⟨hconnected, vertices, hmem, rfl⟩ := hanswered.connected_of_some
  constructor
  · rintro ⟨s, hs, p, hp, he⟩
    obtain ⟨v, -, -, rfl⟩ := (exists_subRequest_iff_onPath hwf hmem).1 ⟨s, hs, rfl, hp⟩
    exact (sip_of_endPointAt he).1
  · intro he
    obtain ⟨v, hv, -⟩ := hconnected.admissible.fits e he
    have hat := endPointAt_of_resolved hwf hconnected.admissible he hv
    obtain ⟨s, hs, -, hp⟩ := (exists_subRequest_iff_onPath hwf hmem).2
      ⟨v, hconnected.onPath hwf he hv, rfl, hat⟩
    exact ⟨s, hs, _, hp, rfl⟩

theorem consistent_recordOf {r : CreateRequest} (h : decompose t r.endpoints = .ok (some subs))
    (id : ServiceId) (now : Instant) : (Manager.recordOf id now r subs).Consistent := by
  obtain ⟨g, -, hanswered⟩ := decompose_eq_ok h
  have hcallers := mem_callers_iff_of_decompose h
  have hne := hanswered.ne_nil_of_some
  obtain ⟨-, vertices, -, hsubs⟩ := hanswered.connected_of_some
  constructor
  case connected => exact mt List.map_eq_nil_iff.1 hne
  case ascending =>
    have hnodes : (Manager.recordOf id now r subs).connections.map (·.nodeId) =
        subs.map (·.nodeId) := List.map_map
    rw [hnodes, hsubs]
    exact subRequests_ascending r.endpoints vertices
  case named =>
    intro c hc
    obtain ⟨s, -, rfl⟩ := List.mem_map.1 hc
    rfl
  case ordered =>
    intro c hc
    obtain ⟨s, hs, rfl⟩ := List.mem_map.1 hc
    rw [Connection.toSubRequest_ofSubRequest]
    exact ordered_of_mem_subRequests (hsubs ▸ hs)
  case callers =>
    intro e
    refine Iff.trans ?_ (hcallers e)
    simp only [Service.callers, Connection.callers, Manager.recordOf, List.mem_flatMap,
      List.mem_map, List.mem_filterMap, exists_exists_and_eq_and]
    rfl

end Creation

section Runs

variable {ε : Type} {store : Store}

/-- A creation makes a consistent service, and it stays so. -/
theorem Store.consistent_runAll (hempty : ∀ id, store.getService id = none)
    (steps : List (Step ε)) :
    ∀ id s, (store.runAll steps).getService id = some s → s.Consistent := by
  refine stored_runAll (P := fun _ s => s.Consistent) (R := fun _ _ => True)
    (throughout_of_forall fun _ _ _ => trivial) (filed_of_none hempty)
    (forall_stored_of_none hempty) ?_ ?_
  · intro config registry store id now r subs s _ hcreated
    obtain ⟨t, -, hdecomposed⟩ := hcreated.decomposition
    rw [hcreated.record]
    exact consistent_recordOf hdecomposed id now
  · intro step store id e old _ _ _ hold
    exact hold.replaceEndpoint e

/-- Whatever a run does, every service that is stored in the end is consistent, and is stored under
its own id. -/
theorem stored_service_consistent (hempty : ∀ id, store.getService id = none)
    (steps : List (Step ε)) {id : ServiceId} {s : Service}
    (h : (store.runAll steps).getService id = some s) : s.id = id ∧ s.Consistent :=
  ⟨Store.runAll_filed (Store.filed_of_none hempty) steps id s h,
    Store.consistent_runAll hempty steps id s h⟩

end Runs

/-- A configuration that lets endpoints share a local id. -/
def lenient : Config := { validation := { rejectDuplicateLocalIds := false } }

/-- An endpoint that has its local id in common with others. -/
def namesake (point : EdgePointId) : ServiceEndPoint :=
  { Sample.endPoint point with localId := some "a" }

/-- A request for two endpoints of one local id. -/
def namesakes : CreateRequest := betweenPair (namesake "n1:1") (namesake "n2:1")

def namesakesApart : List SubRequest := pairParts (namesake "n1:1") (namesake "n2:1")

def namesakesService : Service := Manager.recordOf "s" .epoch namesakes namesakesApart

theorem namesakes_created :
    Manager.Created (.new lenient obliging) (.ofTopology (Sample.linkedPair .enabled)) "s" .epoch
      namesakes namesakesApart namesakesService := by
  have hdecomposed : decompose (Sample.linkedPair .enabled) namesakes.endpoints =
      .ok (some namesakesApart) := by decide +kernel
  exact created_of_obliging (by decide) (by rfl) hdecomposed "s" .epoch

/-- The first endpoint as it is to be. -/
def changedNamesake : ServiceEndPoint := (namesake "n1:1").withAttribute "vlan" "200"

/-- A change, a deletion that finds no driver, and the loss of the link. -/
def upheaval : List (Step Notice) :=
  [.command {} obliging (.updateEndpoint "s" changedNamesake),
    .command {} .empty (.delete "s"), .writeTopology Sample.isolatedNodes]

/-- Endpoints of one local id: after all that, the service is as consistent as before. -/
theorem namesakes_consistent :
    ∃ s, ((Store.ofTopology (Sample.linkedPair .enabled)).runAll
      (.command lenient obliging (.create "s" .epoch namesakes) :: upheaval)).getService "s" =
        some s ∧ s.connections.length = 2 ∧ s.id = "s" ∧ s.Consistent := by
  have hstored : (((Store.ofTopology (Sample.linkedPair .enabled)).runAll
      (.command lenient obliging (.create "s" .epoch namesakes) :: upheaval)).getService "s").map
        (·.connections.length) = some 2 := by
    rw [Store.runAll_created namesakes_created]
    decide +kernel
  obtain ⟨s, hs, hlength⟩ := Option.map_eq_some_iff.1 hstored
  exact ⟨s, hs, hlength, stored_service_consistent (Store.getService_ofTopology _) _ hs⟩

end Connectivity
