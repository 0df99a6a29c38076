import Connectivity.Proofs.Decomposition.Placement
import Connectivity.Proofs.Graph.Resolution
import Connectivity.Proofs.Service.History
import Connectivity.Proofs.Service.Replacement
import Connectivity.Proofs.Service.Success

/-!
# The edge point that an update drives

A creation finds the edge point of a sip in the graph, an update in the topology. The record of a
service keeps what the graph found, through all changes of its endpoints. So an update drives the
edge point that was activated if the graph takes the first one that the topology has for the sip,
and drives another one if it does not.
-/
namespace Connectivity

open Decomposition

/-- A connection has the endpoint on the edge point of the vertex. -/
def Service.HasAt (s : Service) (f : ServiceEndPoint) (v : Vertex) : Prop :=
  ∃ c ∈ s.connections, c.nodeId = v.nodeId ∧ (⟨some f, some v.ref⟩ : EndPoint) ∈ c.endpoints

/-- Every endpoint is in a connection, on the edge point that its sip resolves to. -/
def Service.Placed (g : Graph) (s : Service) : Prop :=
  ∀ f ∈ s.endpoints, ∃ v, g.vertexOfSip? f.sip = some v ∧ s.HasAt f v

namespace Service

variable {g : Graph} {s : Service} {e : ServiceEndPoint}

theorem HasAt.replaceEndpoint {localId : String} {f : ServiceEndPoint} {v : Vertex}
    (h : s.HasAt f v) (he : e.localId = some localId) :
    (s.replaceEndpoint e).HasAt (substitute localId e f) v := by
  obtain ⟨c, hc, hnode, hmem⟩ := h
  simp only [HasAt, Service.replaceEndpoint, he]
  exact ⟨_, List.mem_map_of_mem hc, hnode, List.mem_map_of_mem hmem⟩

/-- The new endpoint stands where the old one was, so it is on the edge point of its sip. -/
theorem Placed.replaceEndpoint (h : s.Placed g) (he : (s.checkUpdate e).toExcept = .ok ()) :
    (s.replaceEndpoint e).Placed g := by
  obtain ⟨localId, existing, hlocal, hexisting, hid, hsip⟩ := of_checkUpdate_ok he
  intro f' hf'
  simp only [Service.replaceEndpoint, hlocal] at hf'
  obtain ⟨f, hf, rfl⟩ := List.mem_map.1 hf'
  by_cases hsame : f.localId = some localId
  · -- of several endpoints of that local id, the one that was checked has the sip of the new one
    obtain ⟨v, hv, hat⟩ := h existing hexisting
    have hnew := hat.replaceEndpoint hlocal
    rw [substitute, if_pos hid] at hnew
    rw [substitute, if_pos hsame]
    exact ⟨v, by rw [← hsip, hv], hnew⟩
  · obtain ⟨v, hv, hat⟩ := h f hf
    have hold := hat.replaceEndpoint hlocal
    rw [substitute, if_neg hsame] at hold ⊢
    exact ⟨v, hv, hold⟩

/-- The endpoint that is changed is in a connection, on the edge point of its sip. -/
theorem Placed.of_checkUpdate_ok (h : s.Placed g) (he : (s.checkUpdate e).toExcept = .ok ()) :
    ∃ f v, f.sip = e.sip ∧ g.vertexOfSip? e.sip = some v ∧ s.HasAt f v := by
  obtain ⟨-, existing, -, hexisting, -, hsip⟩ := Service.of_checkUpdate_ok he
  obtain ⟨v, hv, hat⟩ := h existing hexisting
  exact ⟨existing, v, hsip, by rw [← hsip, hv], hat⟩

end Service

/-- A service is created with its endpoints on the edge points that their sips resolve to. -/
theorem placed_recordOf {t : Topology} {g : Graph} (hg : Graph.ofTopology t = .ok g)
    {r : CreateRequest} {subs : List SubRequest} (h : decompose t r.endpoints = .ok (some subs))
    (id : ServiceId) (now : Instant) : (Manager.recordOf id now r subs).Placed g := by
  obtain ⟨g', hg', hanswered⟩ := decompose_eq_ok h
  cases Except.ok.inj (hg.symm.trans hg')
  obtain ⟨hconnected, vertices, hmem, rfl⟩ := hanswered.connected_of_some
  have hwf := Graph.ofTopology_wellFormed hg
  intro f hf
  obtain ⟨v, hv, -⟩ := hconnected.admissible.fits f hf
  have hat := endPointAt_of_resolved hwf hconnected.admissible hf hv
  obtain ⟨sub, hsub, hnode, hpoint⟩ := (exists_subRequest_iff_onPath hwf hmem).2
    ⟨v, hconnected.onPath hwf hf hv, rfl, hat⟩
  exact ⟨v, hv, .ofSubRequest id sub, List.mem_map_of_mem hsub, hnode, hpoint⟩

namespace Manager

variable {ε : Type} {m : Manager Store ε}

/-- One driver is bound for one sub-request. -/
theorem assignments_drive_singleton {σ : Type} {m : Manager σ ε} {serviceId : ServiceId}
    {context : Context} {op : Operation} {sub : SubRequest}
    (h : (m.drive serviceId context op [sub]).result = .ok ()) :
    ∃ i, (m.drive serviceId context op [sub]).assignments =
      [(i, ⟨sub.endpoints, serviceId, context⟩)] := by
  obtain ⟨drivers, hengaged, hdriven⟩ := m.drive_driven serviceId context op [sub]
  rw [h] at hdriven
  obtain ⟨i, rfl⟩ := List.length_eq_one_iff.1 hdriven.length_of_ok
  exact ⟨i.id, hengaged.assigned⟩

theorem of_endpointRequest_ok {t : Topology} {e : ServiceEndPoint} {sub : SubRequest}
    (h : endpointRequest t e = .ok sub) :
    ∃ n p, t.findSip? e.sip = some (n, p) ∧
      sub = ⟨n.id, n.driverId, [⟨some e, some ⟨n.id, p.id⟩⟩]⟩ := by
  unfold endpointRequest at h
  split at h
  case h_1 => exact nomatch h
  case h_2 n p hfound =>
    cases h
    exact ⟨n, p, hfound, rfl⟩

/-- An update hands one driver one endpoint, on the first edge point that its sip is mapped to. -/
theorem Updated.assignments {store : Store} {id : ServiceId} {e : ServiceEndPoint}
    {old s : Service} {t : Topology} {sub : SubRequest} (h : Updated m store id e old t sub s) :
    ∃ i n p, t.findSip? e.sip = some (n, p) ∧ ((m.update id e).run store).1.assignments =
      [(i, ⟨[⟨some e, some ⟨n.id, p.id⟩⟩], old.id, contextOf old⟩)] := by
  obtain ⟨n, p, hfound, hsub⟩ := of_endpointRequest_ok h.located
  obtain ⟨i, hassigned⟩ := assignments_drive_singleton h.driven
  refine ⟨i, n, p, hfound, ?_⟩
  rw [h.outcome, (Activity.Shows.andThen ⟨rfl, hassigned⟩ h.driven _
    (Activity.shows_ofExcept _)).assignments, hsub]
  rfl

end Manager

section Update

variable {ε : Type} {config config' : Config} {registry registry' : Registry ε}
  {store later : Store} {id : ServiceId} {t : Topology} {g : Graph}

/-- As long as its topology stays, the endpoints of a service that was created are where the graph
finds them. -/
theorem placed_later (hstore : store.Filed)
    (ht : store.readTopology config.topologyId = .ok t) (hg : Graph.ofTopology t = .ok g)
    {now : Instant} {r : CreateRequest} {created : Service}
    (hcreate : (((Manager.new config registry).creation id now r).run store).1.result = .ok created)
    {between : List (Step ε)} (hbetween : ∀ step ∈ between, ¬ step.Creates id) {s : Service}
    (hs : ((((Manager.new config registry).creation id now r).run store).2.runAll
      between).getService id = some s) : s.Placed g := by
  obtain ⟨subs, hcreated⟩ := Manager.of_creation_ok hcreate
  obtain ⟨t', ht', hdecomposed⟩ := hcreated.decomposition
  cases Except.ok.inj (ht.symm.trans ht')
  have hplaced : ∀ s, (store.putService created).getService id = some s → s.Placed g := by
    intro s hs
    have hid : created.id = id := congrArg Service.id hcreated.record
    rw [Store.getService_putService, if_pos hid] at hs
    cases hs
    rw [hcreated.record]
    exact placed_recordOf hg hdecomposed id now
  rw [hcreated.outcome] at hs
  exact Store.service_runAll (hstore.putService created) hbetween
    (fun _ _ he hold => hold.replaceEndpoint he) hplaced s hs

/-- Over the topology that a service was created over, an update drives the edge point where the
endpoint was activated if the graph takes, for its sip, the first edge point that it is mapped to.
If not, it drives another one, unless a node lists one edge point twice. -/
theorem update_drives_activated (hstore : store.Reachable ε)
    (ht : store.readTopology config.topologyId = .ok t) (hg : Graph.ofTopology t = .ok g)
    {now : Instant} {r : CreateRequest} {created : Service}
    (hcreate : (((Manager.new config registry).creation id now r).run store).1.result = .ok created)
    {between : List (Step ε)}
    (hbetween : ∀ step ∈ between, ¬ step.Writes config.topologyId ∧ ¬ step.Creates id)
    (hlater : (((Manager.new config registry).creation id now r).run store).2.runAll between =
      later)
    (hconfig : config'.topologyId = config.topologyId) {e : ServiceEndPoint} {updated : Service}
    (hupdate : (((Manager.new config' registry').update id e).run later).1.result = .ok updated) :
    ∃ s f v n p i, later.getService id = some s ∧ f.sip = e.sip ∧ g.vertexOfSip? e.sip = some v ∧
      s.HasAt f v ∧ t.findSip? e.sip = some (n, p) ∧
      (((Manager.new config' registry').update id e).run later).1.assignments =
        [(i, ⟨[⟨some e, some ⟨n.id, p.id⟩⟩], id, Manager.contextOf s⟩)] ∧
      (g.Takes e.sip n p → v.ref = ⟨n.id, p.id⟩) ∧
      (t.RefsDistinct → v.ref = ⟨n.id, p.id⟩ → g.Takes e.sip n p) := by
  obtain ⟨s, t', sub, hupdated⟩ := Manager.of_update_ok hupdate
  have hfiled := hstore.filed
  have htopology : later.readTopology config.topologyId = .ok t := by
    obtain ⟨subs, hcreated⟩ := Manager.of_creation_ok hcreate
    rw [← hlater, Store.readTopology_runAll fun step hstep => (hbetween step hstep).1,
      hcreated.outcome]
    exact ht
  have hsame : t' = t := by
    have hread := hupdated.topology
    rw [show (Manager.new config' registry').config.topologyId = config.topologyId from hconfig,
      htopology] at hread
    exact (Except.ok.inj hread).symm
  cases hsame
  have hplaced : s.Placed g := placed_later hfiled ht hg hcreate
    (fun step hstep => (hbetween step hstep).2) (hlater ▸ hupdated.stored)
  have hid : s.id = id := by
    have hafter : later.Filed := by
      rw [← hlater]
      exact Store.runAll_filed
        ((Manager.perform_effect (.new config registry) (.create id now r) store).filed hfiled) _
    exact hafter id s hupdated.stored
  obtain ⟨f, v, hsip, hv, hat⟩ := hplaced.of_checkUpdate_ok hupdated.valid
  obtain ⟨i, n, p, hfound, hassigned⟩ := hupdated.assignments
  rw [hid] at hassigned
  refine ⟨s, f, v, n, p, i, hupdated.stored, hsip, hv, hat, hfound, hassigned, ?_, ?_⟩
  · intro htakes
    have heq := (Graph.vertexOfSip?_eq_vertexAt_iff hg hfound).2 htakes
    rw [Option.some.inj (hv.symm.trans heq)]
    rfl
  · intro hdistinct href
    refine (Graph.vertexOfSip?_eq_vertexAt_iff hg hfound).1 ?_
    rw [hv, Graph.eq_vertexAt_of_ref hg hdistinct hfound hv href]

end Update

/-- The creation of a service between the edge points of one node, and a change of the first. -/
def creationWithin : Routine Store Notice Service :=
  (Manager.new {} obliging).creation "s" .epoch
    ⟨[Sample.endPoint "n1:1", Sample.endPoint "n1:2"], none, false⟩

def updateOfFirst : Routine Store Notice Service :=
  (Manager.new {} obliging).update "s" (Sample.endPoint "n1:1")

/-- A node of two edge points. -/
def loneNode : Topology := Sample.topology [Sample.node "n1" ["n1:1", "n1:2"]] []

/-- Before the node there is another one, whose edge point is of no known direction and is mapped to
the first sip too. -/
def mappedTwice : Topology :=
  Sample.topology [⟨"n0", "n0", [⟨"n0:1", .unknown, [Sample.sip "n1:1"]⟩]⟩,
    Sample.node "n1" ["n1:1", "n1:2"]] []

/-- On one node the edge point updated is the one activated, also after a change of the other. -/
theorem loneNode_update_drives_activated :
    ∃ g v later, Graph.ofTopology loneNode = .ok g ∧
      g.vertexOfSip? (Sample.sip "n1:1") = some v ∧
      (creationWithin.run (Store.ofTopology loneNode)).2.runAll
        [.command {} obliging
          (.updateEndpoint "s" (Sample.directedEndPoint "n1:2" .input))] = later ∧
      (updateOfFirst.run later).1.result.isOk = true ∧
      (updateOfFirst.run later).1.assignments.map (·.2.endpoints) =
        [[⟨some (Sample.endPoint "n1:1"), some v.ref⟩]] := by
  obtain ⟨g, hg⟩ := (Graph.exists_ofTopology_eq_ok_iff loneNode).2 (by decide)
  have hkept : (Graph.ofTopology loneNode).toOption.any (fun g => g.vertex? "n1:1" =
      some ((Sample.node "n1" ["n1:1", "n1:2"]).vertexAt
        (Sample.edgePoint "n1:1" .bidirectional))) = true := by decide +kernel
  rw [hg] at hkept
  have hfound : loneNode.findSip? (Sample.sip "n1:1") = some (Sample.node "n1" ["n1:1", "n1:2"],
      Sample.edgePoint "n1:1" .bidirectional) := by decide +kernel
  obtain ⟨created, hcreated⟩ : ∃ s, (creationWithin.run (Store.ofTopology loneNode)).1.result =
      .ok s := exists_of_isOk (by decide +kernel)
  generalize hlater : (creationWithin.run (Store.ofTopology loneNode)).2.runAll
    [.command {} obliging
      (.updateEndpoint "s" (Sample.directedEndPoint "n1:2" .input))] = later
  have hok : (updateOfFirst.run later).1.result.isOk = true := by
    rw [← hlater]
    decide +kernel
  obtain ⟨updated, hupdated⟩ := exists_of_isOk hok
  obtain ⟨s, f, v, n, p, i, -, -, hv, -, hnp, hassigned, htakes, -⟩ :=
    update_drives_activated (Store.reachable_ofTopology loneNode) (by rfl) hg hcreated
      (by simp [Step.Writes, Step.Creates]) hlater rfl hupdated
  cases Option.some.inj (hnp.symm.trans hfound)
  have href := htakes ⟨by decide, rfl, of_decide_eq_true hkept⟩
  refine ⟨g, v, later, hg, hv, rfl, hok, ?_⟩
  rw [updateOfFirst, hassigned, href]
  rfl

/-- The edge point that is found for the sip is not the one that was activated. -/
theorem mappedTwice_update_drives_other :
    ∃ g v, Graph.ofTopology mappedTwice = .ok g ∧
      g.vertexOfSip? (Sample.sip "n1:1") = some v ∧ v.ref = ⟨"n1", "n1:1"⟩ ∧
      (creationWithin.run (Store.ofTopology mappedTwice)).1.result.isOk = true ∧
      (updateOfFirst.run (creationWithin.run (Store.ofTopology mappedTwice)).2).1.result.isOk =
        true ∧
      (updateOfFirst.run (creationWithin.run (Store.ofTopology mappedTwice)).2).1.assignments.map
        (·.2.endpoints) = [[⟨some (Sample.endPoint "n1:1"), some ⟨"n0", "n0:1"⟩⟩]] := by
  obtain ⟨g, hg⟩ := (Graph.exists_ofTopology_eq_ok_iff mappedTwice).2 (by decide)
  have hresolved : (Graph.ofTopology mappedTwice).toOption.any (fun g =>
      (g.vertexOfSip? (Sample.sip "n1:1")).map Vertex.ref = some ⟨"n1", "n1:1"⟩) = true := by
    decide +kernel
  rw [hg] at hresolved
  obtain ⟨v, hv, href⟩ := Option.map_eq_some_iff.1 (of_decide_eq_true hresolved)
  exact ⟨g, v, hg, hv, href, by decide +kernel, by decide +kernel, by decide +kernel⟩

end Connectivity
