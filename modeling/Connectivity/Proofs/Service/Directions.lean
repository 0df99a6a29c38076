import Connectivity.Proofs.Decomposition.Directions
import Connectivity.Proofs.Service.Consistency

/-!
# Directions of stored services

A creation compares the directions of its endpoints with those of their vertices, and a change does
not. So the directions of what is stored are accepted, if and only if those of all changes are.
-/
namespace Connectivity

open Decomposition

/-- All endpoints may ask for their directions. -/
def Service.Admitted (t : Topology) (s : Service) : Prop := ∀ f ∈ s.endpoints, t.Admits f

/-- The step leaves the topology as it is, and a command works over it. -/
def Step.Over {ε : Type} (topologyId : TopologyId) : Step ε → Prop
  | .command config _ _ => config.topologyId = topologyId
  | .writeTopology t => t.id ≠ topologyId

section Change

variable {t : Topology} {g : Graph} {s : Service} {e : ServiceEndPoint}

theorem Service.Admitted.replaceEndpoint (h : s.Admitted t) (he : t.Admits e) :
    (s.replaceEndpoint e).Admitted t := by
  intro f' hf'
  rw [Service.endpoints_replaceEndpoint] at hf'
  obtain ⟨f, hf, rfl⟩ := List.mem_map.1 hf'
  rcases e.inPlaceOf_eq_or f with hnew | hold
  · rw [hnew]
    exact he
  · rw [hold]
    exact h f hf

/-- The endpoint of a change has the sip of one that it replaces, so that the service is on known
sips afterwards, and endpoints with one sip are equal. -/
theorem Decomposition.Located.replaceEndpoint (h : Located g s.endpoints)
    (he : (s.checkUpdate e).toExcept = .ok ()) : Located g (s.replaceEndpoint e).endpoints := by
  obtain ⟨localId, existing, hlocal, hexisting, hid, hsip⟩ := Service.of_checkUpdate_ok he
  rw [Service.endpoints_replaceEndpoint]
  -- an endpoint that has the sip afterwards is the one that was checked, and gives way
  have hsame : ∀ f ∈ s.endpoints, (e.inPlaceOf f).sip = e.sip → e.inPlaceOf f = e := by
    intro f hf hfsip
    rcases e.inPlaceOf_eq_or f with hnew | hold
    · exact hnew
    · rw [hold] at hfsip
      cases h.distinct f hf existing hexisting (hfsip.trans hsip.symm)
      exact ServiceEndPoint.inPlaceOf_of_eq hlocal hid
  constructor
  case two =>
    rw [List.length_map]
    exact h.two
  case known =>
    rintro f' hf'
    obtain ⟨f, hf, rfl⟩ := List.mem_map.1 hf'
    rcases e.inPlaceOf_eq_or f with hnew | hold
    · rw [hnew, ← hsip]
      exact h.known existing hexisting
    · rw [hold]
      exact h.known f hf
  case distinct =>
    intro f' hf' o' ho' heq
    obtain ⟨f, hf, rfl⟩ := List.mem_map.1 hf'
    obtain ⟨o, ho, rfl⟩ := List.mem_map.1 ho'
    rcases e.inPlaceOf_eq_or f with hf' | hf'
    · rw [hf'] at heq ⊢
      exact (hsame o ho heq.symm).symm
    · rcases e.inPlaceOf_eq_or o with ho' | ho'
      · rw [ho'] at heq ⊢
        exact hsame f hf heq
      · rw [hf', ho'] at heq ⊢
        exact h.distinct f hf o ho heq

end Change

section Run

variable {ε : Type} {step : Step ε} {store : Store} {topologyId : TopologyId} {t : Topology}

theorem Step.Over.not_writes (h : step.Over topologyId) : ¬ step.Writes topologyId := by
  cases step with
  | command => exact not_false
  | writeTopology t => exact h

/-- A service that is created over the topology decomposes in it. -/
theorem Step.Over.decomposition {config : Config} {registry : Registry ε} {id : ServiceId}
    {now : Instant} {r : CreateRequest} {subs : List SubRequest} {s : Service}
    (h : (Step.command config registry (.create id now r)).Over topologyId)
    (ht : store.readTopology topologyId = .ok t)
    (hcreated : Manager.Created (.new config registry) store id now r subs s) :
    decompose t s.endpoints = .ok (some subs) := by
  obtain ⟨t', ht', hdecomposed⟩ := hcreated.decomposition
  rw [show config.topologyId = topologyId from h, ht] at ht'
  cases ht'
  rw [hcreated.record]
  exact hdecomposed

/-- A step leaves only accepted directions in the store if its change, where it is one, asks for an
accepted one. -/
theorem Step.admitted_after_iff (hover : step.Over topologyId)
    (h : store.Filed ∧ store.readTopology topologyId = .ok t)
    (hadmitted : ∀ id s, store.getService id = some s → s.Admitted t) :
    (∀ id s, (step.after store).getService id = some s → s.Admitted t) ↔
      ∀ id e, step.CarriesOut (.updateEndpoint id e) store → t.Admits e := by
  constructor
  · intro hafter id e hcarried
    obtain ⟨old, -, hvalid, hnew⟩ := hcarried.replaces h.1
    exact hafter id _ hnew e (Service.mem_replaceEndpoint hvalid)
  · intro hchange
    refine Step.stored_after (P := fun _ s => s.Admitted t) h.1 hadmitted ?_ ?_
    · rintro config registry id now r subs s rfl hcreated
      obtain ⟨g, -, -, hadmits⟩ := located_of_decompose (hover.decomposition h.2 hcreated)
      exact hadmits
    · intro id e old hcarried _ hold
      exact hold.replaceEndpoint (hchange id e hcarried)

/-- All endpoints of all services that are stored in a run ask for accepted directions, if and only
if all changes in it do. The endpoints of a service do, if and only if a new decomposition of them
does not fail for a direction. -/
theorem stored_directions_admitted_iff (hempty : ∀ id, store.getService id = none)
    (ht : store.readTopology topologyId = .ok t) {steps : List (Step ε)}
    (hsteps : ∀ step ∈ steps, step.Over topologyId) :
    ((∀ before, before <+: steps → ∀ id s, (store.runAll before).getService id = some s →
        ∀ f ∈ s.endpoints, t.Admits f) ↔
      Store.Throughout (fun step store => ∀ id e, step.CarriesOut (.updateEndpoint id e) store →
        t.Admits e) steps store) ∧
    ∀ id s, (store.runAll steps).getService id = some s →
      ((∀ f ∈ s.endpoints, t.Admits f) ↔
        ¬ ∃ error, decompose t s.endpoints = .error error ∧
          ∃ f ∈ s.endpoints, f.DirectionError error) := by
  have hinitial : store.Filed ∧ store.readTopology topologyId = .ok t :=
    ⟨Store.filed_of_none hempty, ht⟩
  have hkept : ∀ step ∈ steps, ∀ store : Store,
      store.Filed ∧ store.readTopology topologyId = .ok t →
        (step.after store).Filed ∧ (step.after store).readTopology topologyId = .ok t := by
    rintro step hstep store ⟨hfiled, ht⟩
    refine ⟨Step.filed_after hfiled, ?_⟩
    rw [Step.readTopology_after (hsteps step hstep).not_writes, ht]
  constructor
  · exact Store.forall_prefix_iff_throughout hinitial (Store.forall_stored_of_none hempty) hkept
      fun step hstep store h hadmitted => Step.admitted_after_iff (hsteps step hstep) h hadmitted
  · have hlocated : ∀ id s, (store.runAll steps).getService id = some s →
        ∃ g, Graph.ofTopology t = .ok g ∧ Located g s.endpoints := by
      have hthroughout := (Store.throughout_of_forall fun step hstep (_ : Store) =>
        hsteps step hstep).and (Store.throughout_of_kept hinitial hkept)
      refine Store.stored_runAll (P := fun _ s => ∃ g, Graph.ofTopology t = .ok g ∧
        Located g s.endpoints) hthroughout hinitial.1 (Store.forall_stored_of_none hempty) ?_ ?_
      · rintro config registry store id now r subs s ⟨hover, -, ht⟩ hcreated
        obtain ⟨g, hg, hlocated, -⟩ := located_of_decompose (hover.decomposition ht hcreated)
        exact ⟨g, hg, hlocated⟩
      · rintro step store id e old - - hvalid ⟨g, hg, hold⟩
        exact ⟨g, hg, hold.replaceEndpoint hvalid⟩
    intro id s hs
    obtain ⟨g, hg, hlocated⟩ := hlocated id s hs
    exact hlocated.admits_iff_no_directionError hg

end Run

/-- A service between two nodes, and a change of the direction of its first endpoint. -/
def turned (direction : Direction) : List (Step Notice) :=
  [.command {} obliging (.create "s" .epoch pairRequest),
    .command {} obliging (.updateEndpoint "s" (Sample.directedEndPoint "n1:1" direction))]

/-- A bidirectional edge point may be asked for one direction only. -/
theorem turned_to_input_admitted :
    ∃ s, ((Store.ofTopology (Sample.linkedPair .enabled)).runAll (turned .input)).getService "s" =
        some s ∧ s.endpoints.map (·.direction) = [.input, .bidirectional] ∧
      ∀ f ∈ s.endpoints, (Sample.linkedPair .enabled).Admits f := by
  obtain ⟨g, hg⟩ := (Graph.exists_ofTopology_eq_ok_iff (Sample.linkedPair .enabled)).2 nofun
  have haccepts : (Graph.ofTopology (Sample.linkedPair .enabled)).toOption.any (fun g =>
      (g.vertexOfSip? (Sample.sip "n1:1")).map (·.direction.accepts .input) = some true) =
        true := by
    decide +kernel
  rw [hg] at haccepts
  obtain ⟨v, hv, haccepts⟩ := Option.map_eq_some_iff.1 (of_decide_eq_true haccepts)
  have hstored : (((Store.ofTopology (Sample.linkedPair .enabled)).runAll
      (turned .input)).getService "s").map (fun s => s.endpoints.map (·.direction)) =
        some [.input, .bidirectional] := by
    rw [turned, Store.runAll_created pair_created]
    decide +kernel
  obtain ⟨s, hs, hdirections⟩ := Option.map_eq_some_iff.1 hstored
  have hread : (Store.ofTopology (Sample.linkedPair .enabled)).readTopology systemTopology =
      .ok (Sample.linkedPair .enabled) := by rfl
  have hover : ∀ step ∈ turned .input, step.Over systemTopology := by simp [turned, Step.Over]
  have hiff := (stored_directions_admitted_iff (Store.getService_ofTopology _) hread hover).1
  refine ⟨s, hs, hdirections, hiff.2 ⟨?_, ?_, trivial⟩ _ (List.prefix_refl _) "s" s hs⟩
  · rintro id e ⟨_, _, _, heq, -⟩
    exact nomatch heq
  · rintro id e ⟨_, _, _, heq, -⟩
    cases heq
    exact ⟨g, v, hg, hv, nofun, haccepts⟩

/-- An endpoint without a direction is stored by a change, and refused by a new decomposition. -/
theorem turned_to_unknown_stored :
    ∃ s, ((Store.ofTopology (Sample.linkedPair .enabled)).runAll (turned .unknown)).getService "s" =
        some s ∧
      (∃ f ∈ s.endpoints, ¬ (Sample.linkedPair .enabled).Admits f) ∧
      decompose (Sample.linkedPair .enabled) s.endpoints =
        .error (.illegalArgument "Port direction for n1:1 not specified") := by
  refine ⟨pairService.replaceEndpoint (Sample.directedEndPoint "n1:1" .unknown), ?_,
    ⟨Sample.directedEndPoint "n1:1" .unknown, by decide, ?_⟩, by decide +kernel⟩
  · rw [turned, Store.runAll_created pair_created]
    decide +kernel
  · rintro ⟨g, v, -, -, hknown, -⟩
    exact hknown rfl

end Connectivity
