import Connectivity.Proofs.Service.Consistency

/-!
# The release of what was activated

A creation makes the connections of a service from the sub-requests that it activates, and a
deletion makes its sub-requests from the connections. In between only the caller's endpoints on the
edge points change. So a deletion releases the devices that were activated, with the same edge
points in the same order, whatever has become of the topology.
-/
namespace Connectivity

namespace Service

/-- The sub-requests that a deletion of the service releases. -/
def subRequests (s : Service) : List SubRequest := s.connections.map Connection.toSubRequest

/-- What drivers are told when the service is deleted, apart from the caller's endpoints. -/
def release (s : Service) : Context × List (NodeId × String × List (Option EdgePointRef)) :=
  (Manager.contextOf s, s.subRequests.map SubRequest.layout)

/-- The connections keep the sub-requests that were activated. -/
theorem subRequests_recordOf (id : ServiceId) (now : Instant) (r : CreateRequest)
    (subs : List SubRequest) : (Manager.recordOf id now r subs).subRequests = subs := by
  simp only [subRequests, Manager.recordOf, List.map_map]
  exact List.map_id subs

theorem release_replaceEndpoint (s : Service) (e : ServiceEndPoint) :
    (s.replaceEndpoint e).release = s.release := by
  have hcontext : Manager.contextOf (s.replaceEndpoint e) = Manager.contextOf s := by
    rw [replaceEndpoint_eq_mapEndpoints]
    rfl
  have hlayouts := s.layouts_replaceEndpoint e
  simp only [release, subRequests, List.map_map, hcontext]
  exact congrArg _ hlayouts

end Service

section Release

variable {ε : Type} {config : Config} {registry : Registry ε} {store later : Store}
  {id : ServiceId} {now : Instant} {r : CreateRequest} {created : Service}
  {between : List (Step ε)}

/-- A service that is created and not deleted since is stored, with all that a deletion releases. If
no endpoint of it is changed, it is as it was created. -/
theorem exists_released (hfiled : store.Filed) (hs : store.getService id = some created)
    (hbetween : Store.Throughout
      (fun step store => ¬ step.Creates id ∧ ¬ step.CarriesOut (.delete id) store) between store) :
    ∃ s, (store.runAll between).getService id = some s ∧ s.release = created.release ∧
      (Store.Throughout (fun step store => ∀ e, ¬ step.CarriesOut (.updateEndpoint id e) store)
        between store → s = created) := by
  obtain ⟨s, hs', hrelease⟩ := Store.kept_runAll (P := fun s => s.release = created.release)
    (R := fun _ _ => True) hbetween (Store.throughout_of_forall fun _ _ _ => trivial) hfiled hs rfl
    fun _ _ e old _ _ hold => (old.release_replaceEndpoint e).trans hold
  refine ⟨s, hs', hrelease, fun hunchanged => ?_⟩
  obtain ⟨s', hs'', rfl⟩ := Store.kept_runAll (P := fun s => s = created) hbetween hunchanged hfiled
    hs rfl fun _ _ e _ hnot hcarried _ => absurd hcarried (hnot e)
  exact Option.some.inj (hs'.symm.trans hs'')

/-- A deletion releases what the creation activated: the sub-requests have the same nodes, driver
families and edge points in the same order, and are the same unless an endpoint was changed in
between. -/
theorem deletion_releases_activated (hstore : store.Reachable ε)
    (hcreate : (((Manager.new config registry).creation id now r).run store).1.result = .ok created)
    (hbetween : Store.Throughout
      (fun step store => ¬ step.Creates id ∧ ¬ step.CarriesOut (.delete id) store) between
      (((Manager.new config registry).creation id now r).run store).2)
    (hlater : (((Manager.new config registry).creation id now r).run store).2.runAll between = later)
    (config' : Config) (registry' : Registry ε) :
    ∃ t activated s, store.readTopology config.topologyId = .ok t ∧
      decompose t r.endpoints = .ok (some activated) ∧
      (((Manager.new config registry).creation id now r).run store).1 =
        ((Manager.new config registry : Manager Store ε).drive id
          ⟨some id, r.exclusive, r.effectiveType⟩ .activate activated).andThen
            (fun _ => .ofExcept (.ok created)) ∧
      later.getService id = some s ∧
      (((Manager.new config' registry').deletion id).run later).1 =
        ((Manager.new config' registry' : Manager Store ε).drive id
          ⟨some id, r.exclusive, r.effectiveType⟩ .deactivate s.subRequests).andThen
            (fun _ => .ofExcept (.ok s)) ∧
      s.subRequests.map SubRequest.layout = activated.map SubRequest.layout ∧
      (Store.Throughout (fun step store => ∀ e, ¬ step.CarriesOut (.updateEndpoint id e) store)
        between (((Manager.new config registry).creation id now r).run store).2 →
          s.subRequests = activated) := by
  obtain ⟨subs, hcreated⟩ := Manager.of_creation_ok hcreate
  obtain ⟨t, ht, hdecomposed⟩ := hcreated.decomposition
  have hrecord := hcreated.record
  have hid : created.id = id := congrArg Service.id hrecord
  have hsubs : created.subRequests = subs := by rw [hrecord, Service.subRequests_recordOf]
  have hfiled := hstore.filed.putService created
  have hstored : (store.putService created).getService id = some created := by
    rw [Store.getService_putService, if_pos hid]
  subst hlater
  simp only [hcreated.outcome] at hbetween ⊢
  obtain ⟨s, hs, hrelease, hunchanged⟩ := exists_released hfiled hstored hbetween
  obtain ⟨hcontext, hlayouts⟩ := Prod.mk.inj hrelease
  rw [hsubs] at hlayouts
  have hne : s.connections ≠ [] := by
    intro hnil
    have hnone : subs = [] := by
      rw [Service.subRequests, hnil] at hlayouts
      exact List.map_eq_nil_iff.1 hlayouts.symm
    obtain ⟨g, -, hanswered⟩ := decompose_eq_ok hdecomposed
    exact hanswered.ne_nil_of_some hnone
  have hcourse := Manager.course_deletion (m := .new config' registry') hs hne
  rw [hcontext, Store.runAll_filed hfiled between id s hs] at hcourse
  refine ⟨t, subs, s, ht, hdecomposed, rfl, hs, ?_, hlayouts, fun h => ?_⟩
  · rw [hcourse, hrecord]
    rfl
  · rw [hunchanged h, hsubs]

end Release

/-- The first endpoint has changed and the link is lost, but the two devices are released with the
edge points that were activated. -/
theorem namesakes_released :
    ∃ s, ((Store.ofTopology (Sample.linkedPair .enabled)).runAll
        (.command lenient obliging (.create "s" .epoch namesakes) :: upheaval)).getService "s" =
          some s ∧
      (((Manager.new {} obliging).deletion "s").run
        ((Store.ofTopology (Sample.linkedPair .enabled)).runAll
          (.command lenient obliging (.create "s" .epoch namesakes) :: upheaval))).1 =
        ((Manager.new {} obliging : Manager Store Notice).drive "s" ⟨some "s", false, .pointToPoint⟩
          .deactivate s.subRequests).andThen (fun _ => .ofExcept (.ok s)) ∧
      s.subRequests.map SubRequest.layout = namesakesApart.map SubRequest.layout ∧
      s.subRequests ≠ namesakesApart := by
  have hbetween : Store.Throughout
      (fun step store => ¬ step.Creates "s" ∧ ¬ step.CarriesOut (.delete "s") store) upheaval
      ((Store.ofTopology (Sample.linkedPair .enabled)).putService namesakesService) := by
    refine ⟨⟨id, ?_⟩, ⟨id, Step.not_carriesOut_of_error (by decide +kernel) _⟩, ⟨id, ?_⟩, trivial⟩
    · rintro ⟨_, _, _, heq, -⟩
      exact nomatch heq
    · rintro ⟨_, _, _, heq, -⟩
      exact nomatch heq
  have hchanged : ((((Store.ofTopology (Sample.linkedPair .enabled)).putService
      namesakesService).runAll upheaval).getService "s").map Service.subRequests ≠
        some namesakesApart := by decide +kernel
  rw [Store.runAll_created namesakes_created]
  obtain ⟨t, activated, s, ht, hactivated, -, hs, hcourse, hlayouts, -⟩ :=
    deletion_releases_activated (Store.reachable_ofTopology _) namesakes_created.result
      (by rw [namesakes_created.outcome]; exact hbetween) rfl {} obliging
  obtain ⟨t', ht', hdecomposed⟩ := namesakes_created.decomposition
  cases Except.ok.inj (ht.symm.trans ht')
  cases Option.some.inj (Except.ok.inj (hactivated.symm.trans hdecomposed))
  rw [namesakes_created.outcome] at hs hcourse
  rw [hs] at hchanged
  exact ⟨s, hs, hcourse, hlayouts, fun hsame => hchanged (congrArg some hsame)⟩

end Connectivity
