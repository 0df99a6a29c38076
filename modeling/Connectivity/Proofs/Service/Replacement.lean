import Connectivity.Proofs.Decomposition.Ordering
import Connectivity.Service.Validation

/-!
# The replacement of an endpoint

A change puts an endpoint in the place of all that have its local id, in the list of the service and
in its connections alike. So it is one function that is mapped over all endpoints. What a connection
is apart from the caller's endpoints stays as it was.
-/
namespace Connectivity

/-- A sub-request without the caller's endpoints: its node, its driver family, its edge points. -/
def SubRequest.layout (s : SubRequest) : NodeId × String × List (Option EdgePointRef) :=
  (s.nodeId, s.driverId, s.endpoints.map (·.point))

/-- The order of a sub-request is that of its edge points. -/
theorem SubRequest.Ordered.of_layout_eq {s s' : SubRequest} (h : s.Ordered)
    (heq : s'.layout = s.layout) : s'.Ordered := by
  obtain ⟨hnode, -, hpoints⟩ : s'.nodeId = s.nodeId ∧ s'.driverId = s.driverId ∧
      s'.endpoints.map (·.point) = s.endpoints.map (·.point) := by
    simpa only [layout, Prod.mk.injEq] using heq
  have hids : ∀ s : SubRequest, s.endpoints.filterMap (·.edgePointId?) =
      (s.endpoints.map (·.point)).filterMap (Option.map EdgePointRef.edgePointId) := by
    intro s
    rw [List.filterMap_map]
    rfl
  constructor
  case nonempty =>
    intro hnil
    rw [hnil, List.map_nil] at hpoints
    exact h.nonempty (List.map_eq_nil_iff.1 hpoints.symm)
  case resolved =>
    intro p' hp'
    have hmem := List.mem_map_of_mem hp' (f := fun p : EndPoint => p.point)
    rw [hpoints] at hmem
    obtain ⟨p, hp, hpoint⟩ := List.mem_map.1 hmem
    rw [hnode, ← h.resolved p hp, EndPoint.nodeId?, ← hpoint]
    rfl
  case ascending =>
    rw [hids, hpoints, ← hids]
    exact h.ascending

/-- The endpoint itself in the place of one with its local id, and no change to any other. -/
def ServiceEndPoint.inPlaceOf (e old : ServiceEndPoint) : ServiceEndPoint :=
  if e.localId.isSome ∧ old.localId = e.localId then e else old

namespace ServiceEndPoint

variable {e e' old : ServiceEndPoint}

theorem inPlaceOf_of_eq {localId : String} (h : e.localId = some localId)
    (hold : old.localId = some localId) : e.inPlaceOf old = e := by
  simp [inPlaceOf, h, hold]

theorem inPlaceOf_of_ne (h : old.localId ≠ e.localId) : e.inPlaceOf old = old :=
  if_neg fun hboth => h hboth.2

theorem inPlaceOf_eq_or (e old : ServiceEndPoint) :
    e.inPlaceOf old = e ∨ e.inPlaceOf old = old := by
  unfold inPlaceOf
  split
  case isTrue => exact .inl rfl
  case isFalse => exact .inr rfl

@[simp] theorem localId_inPlaceOf (e old : ServiceEndPoint) :
    (e.inPlaceOf old).localId = old.localId := by
  unfold inPlaceOf
  split
  case isTrue h => exact h.2.symm
  case isFalse => rfl

/-- Endpoints of different local ids take the places of different ones. -/
theorem inPlaceOf_comm (h : e.localId ≠ e'.localId) (old : ServiceEndPoint) :
    e'.inPlaceOf (e.inPlaceOf old) = e.inPlaceOf (e'.inPlaceOf old) := by
  by_cases hold : old.localId = e.localId
  · have hne : old.localId ≠ e'.localId := fun heq => h (hold.symm.trans heq)
    have hkept : (e.inPlaceOf old).localId ≠ e'.localId := by rwa [localId_inPlaceOf]
    rw [inPlaceOf_of_ne hne, inPlaceOf_of_ne hkept]
  · have hkept : (e'.inPlaceOf old).localId ≠ e.localId := by rwa [localId_inPlaceOf]
    rw [inPlaceOf_of_ne hold, inPlaceOf_of_ne hkept]

/-- What another endpoint does not take the place of is left as it is, or as it was put. -/
theorem inPlaceOf_inPlaceOf_eq_iff (h : e.localId ≠ e'.localId) :
    e'.inPlaceOf (e.inPlaceOf old) = e'.inPlaceOf old ↔ e.inPlaceOf old = old := by
  constructor
  · intro heq
    by_cases hold : old.localId = e.localId
    · have hne : old.localId ≠ e'.localId := fun heq => h (hold.symm.trans heq)
      have hkept : (e.inPlaceOf old).localId ≠ e'.localId := by rwa [localId_inPlaceOf]
      rwa [inPlaceOf_of_ne hne, inPlaceOf_of_ne hkept] at heq
    · exact inPlaceOf_of_ne hold
  · intro heq
    rw [heq]

end ServiceEndPoint

namespace Connection

variable {f g : ServiceEndPoint → ServiceEndPoint} {c : Connection}

/-- The connection with a function applied to the caller's endpoints. -/
def mapEndpoints (f : ServiceEndPoint → ServiceEndPoint) (c : Connection) : Connection :=
  { c with endpoints := c.endpoints.map fun p => { p with endpoint := p.endpoint.map f } }

/-- The caller's endpoints of a connection. -/
def callers (c : Connection) : List ServiceEndPoint := c.endpoints.filterMap (·.endpoint)

@[simp] theorem nodeId_mapEndpoints : (c.mapEndpoints f).nodeId = c.nodeId := rfl

@[simp] theorem layout_mapEndpoints :
    (c.mapEndpoints f).toSubRequest.layout = c.toSubRequest.layout := by
  simp [SubRequest.layout, toSubRequest, mapEndpoints]

theorem callers_mapEndpoints : (c.mapEndpoints f).callers = c.callers.map f := by
  simp only [callers, mapEndpoints, List.filterMap_map, List.map_filterMap]
  rfl

theorem mapEndpoints_mapEndpoints :
    (c.mapEndpoints f).mapEndpoints g = c.mapEndpoints (g ∘ f) := by
  simp [mapEndpoints]

theorem mapEndpoints_congr (h : ∀ e ∈ c.callers, f e = g e) :
    c.mapEndpoints f = c.mapEndpoints g := by
  have hpoints : ∀ p ∈ c.endpoints, p.endpoint.map f = p.endpoint.map g := by
    intro p hp
    refine Option.map_congr fun e he => h e ?_
    exact List.mem_filterMap.2 ⟨p, hp, he⟩
  simp only [mapEndpoints]
  congr 1
  refine List.map_congr_left fun p hp => ?_
  rw [hpoints p hp]

end Connection

namespace Service

variable {f g : ServiceEndPoint → ServiceEndPoint} {s : Service} {e e' : ServiceEndPoint}

/-- The service with a function applied to all endpoints, in its list and in its connections. -/
def mapEndpoints (f : ServiceEndPoint → ServiceEndPoint) (s : Service) : Service :=
  { s with
    endpoints := s.endpoints.map f
    connections := s.connections.map (Connection.mapEndpoints f) }

/-- The caller's endpoints in the connections. -/
def callers (s : Service) : List ServiceEndPoint := s.connections.flatMap Connection.callers

theorem callers_mapEndpoints : (s.mapEndpoints f).callers = s.callers.map f := by
  simp only [callers, mapEndpoints, List.flatMap_map, List.map_flatMap,
    Connection.callers_mapEndpoints]

theorem layouts_mapEndpoints :
    (s.mapEndpoints f).connections.map (·.toSubRequest.layout) =
      s.connections.map (·.toSubRequest.layout) := by
  simp [mapEndpoints]

theorem mapEndpoints_mapEndpoints : (s.mapEndpoints f).mapEndpoints g = s.mapEndpoints (g ∘ f) := by
  simp [mapEndpoints, Connection.mapEndpoints_mapEndpoints]

theorem mapEndpoints_self : (s.mapEndpoints fun e => e) = s := by
  have hconnection : (Connection.mapEndpoints fun e => e) = fun c => c := by
    funext c
    simp [Connection.mapEndpoints]
  simp [mapEndpoints, hconnection]

/-- The function matters only at the endpoints that there are, in the list or in the connections. -/
theorem mapEndpoints_congr (hlist : ∀ e ∈ s.endpoints, f e = g e)
    (hcallers : ∀ e ∈ s.callers, f e = g e) : s.mapEndpoints f = s.mapEndpoints g := by
  have hconnections : ∀ c ∈ s.connections, c.mapEndpoints f = c.mapEndpoints g := fun c hc =>
    Connection.mapEndpoints_congr fun e he => hcallers e (List.mem_flatMap.2 ⟨c, hc, he⟩)
  simp only [mapEndpoints, List.map_congr_left hlist, List.map_congr_left hconnections]

theorem mapEndpoints_eq_iff : s.mapEndpoints f = s.mapEndpoints g ↔
    (∀ e ∈ s.endpoints, f e = g e) ∧ ∀ e ∈ s.callers, f e = g e := by
  constructor
  · intro h
    have hcallers := congrArg callers h
    rw [callers_mapEndpoints, callers_mapEndpoints] at hcallers
    exact ⟨List.map_inj_left.1 (congrArg endpoints h), List.map_inj_left.1 hcallers⟩
  · rintro ⟨hlist, hcallers⟩
    exact mapEndpoints_congr hlist hcallers

/-- The list and the connections are rewritten by one function. -/
theorem replaceEndpoint_eq_mapEndpoints (s : Service) (e : ServiceEndPoint) :
    s.replaceEndpoint e = s.mapEndpoints e.inPlaceOf := by
  cases h : e.localId with
  | none =>
      have hself : e.inPlaceOf = fun old => old := by
        funext old
        simp [ServiceEndPoint.inPlaceOf, h]
      rw [hself, mapEndpoints_self]
      simp only [replaceEndpoint, h]
  | some localId =>
      have hsubstitute : e.inPlaceOf = substitute localId e := by
        funext old
        simp [substitute, ServiceEndPoint.inPlaceOf, h]
      simp only [replaceEndpoint, mapEndpoints, h, hsubstitute]
      rfl

theorem replaceEndpoint_replaceEndpoint (s : Service) (e e' : ServiceEndPoint) :
    (s.replaceEndpoint e).replaceEndpoint e' = s.mapEndpoints (e'.inPlaceOf ∘ e.inPlaceOf) := by
  rw [replaceEndpoint_eq_mapEndpoints, replaceEndpoint_eq_mapEndpoints, mapEndpoints_mapEndpoints]

/-- Endpoints of different local ids are replaced in either order. -/
theorem replaceEndpoint_comm (h : e.localId ≠ e'.localId) :
    (s.replaceEndpoint e).replaceEndpoint e' = (s.replaceEndpoint e').replaceEndpoint e := by
  rw [replaceEndpoint_replaceEndpoint, replaceEndpoint_replaceEndpoint]
  congr 1
  exact funext (ServiceEndPoint.inPlaceOf_comm h)

/-- A replacement beside that of another local id makes no difference only if it makes none by
itself. -/
theorem replaceEndpoint_replaceEndpoint_eq_iff (h : e.localId ≠ e'.localId) :
    (s.replaceEndpoint e).replaceEndpoint e' = s.replaceEndpoint e' ↔ s.replaceEndpoint e = s := by
  have hself : s.replaceEndpoint e = s ↔
      s.mapEndpoints e.inPlaceOf = s.mapEndpoints fun old => old := by
    rw [replaceEndpoint_eq_mapEndpoints, mapEndpoints_self]
  rw [hself, replaceEndpoint_replaceEndpoint, replaceEndpoint_eq_mapEndpoints s e',
    mapEndpoints_eq_iff, mapEndpoints_eq_iff]
  simp only [Function.comp_apply, ServiceEndPoint.inPlaceOf_inPlaceOf_eq_iff h]

theorem id_replaceEndpoint (s : Service) (e : ServiceEndPoint) :
    (s.replaceEndpoint e).id = s.id := by
  rw [replaceEndpoint_eq_mapEndpoints]
  rfl

theorem endpoints_replaceEndpoint (s : Service) (e : ServiceEndPoint) :
    (s.replaceEndpoint e).endpoints = s.endpoints.map e.inPlaceOf := by
  rw [replaceEndpoint_eq_mapEndpoints]
  rfl

theorem layouts_replaceEndpoint (s : Service) (e : ServiceEndPoint) :
    (s.replaceEndpoint e).connections.map (·.toSubRequest.layout) =
      s.connections.map (·.toSubRequest.layout) := by
  rw [replaceEndpoint_eq_mapEndpoints, layouts_mapEndpoints]

theorem localIds_replaceEndpoint (s : Service) (e : ServiceEndPoint) :
    (s.replaceEndpoint e).endpoints.filterMap (·.localId) =
      s.endpoints.filterMap (·.localId) := by
  rw [endpoints_replaceEndpoint, List.filterMap_map]
  exact List.filterMap_congr fun f _ => ServiceEndPoint.localId_inPlaceOf e f

theorem endpoint?_replaceEndpoint_of_ne {localId : String} (h : e.localId ≠ some localId) :
    (s.replaceEndpoint e).endpoint? localId = s.endpoint? localId := by
  unfold endpoint?
  rw [endpoints_replaceEndpoint, List.find?_map]
  simp only [Function.comp_def, ServiceEndPoint.localId_inPlaceOf]
  cases hfound : s.endpoints.find? fun old => old.localId = some localId with
  | none => rfl
  | some old =>
      have hold : old.localId = some localId := by simpa using List.find?_some hfound
      have hne : old.localId ≠ e.localId := by rw [hold]; exact h.symm
      rw [Option.map_some, ServiceEndPoint.inPlaceOf_of_ne hne]

/-- Whether an endpoint may be changed does not depend on those of other local ids. -/
theorem checkUpdate_replaceEndpoint_of_ne (h : e.localId ≠ e'.localId) :
    (s.replaceEndpoint e).checkUpdate e' = s.checkUpdate e' := by
  unfold checkUpdate
  cases hlocal : e'.localId with
  | none => simp only [id_replaceEndpoint]
  | some localId => simp only [endpoint?_replaceEndpoint_of_ne (hlocal ▸ h), id_replaceEndpoint]

/-- A change that is accepted is that of an endpoint with the same sip. -/
theorem of_checkUpdate_ok (h : (s.checkUpdate e).toExcept = .ok ()) :
    ∃ localId existing, e.localId = some localId ∧ existing ∈ s.endpoints ∧
      existing.localId = some localId ∧ existing.sip = e.sip := by
  unfold checkUpdate at h
  cases hlocal : e.localId with
  | none =>
      simp only [hlocal] at h
      exact nomatch h
  | some localId =>
      simp only [hlocal] at h
      cases hexisting : s.endpoint? localId with
      | none =>
          simp only [hexisting] at h
          exact nomatch h
      | some existing =>
          simp only [hexisting] at h
          refine ⟨localId, existing, rfl, List.mem_of_find?_eq_some hexisting, ?_, ?_⟩
          · simpa using List.find?_some hexisting
          · by_contra hne
            rw [Validation.problemIf, if_pos (by simpa using hne)] at h
            exact nomatch h

/-- The endpoint of a change that is accepted stands in the list afterwards. -/
theorem mem_replaceEndpoint (h : (s.checkUpdate e).toExcept = .ok ()) :
    e ∈ (s.replaceEndpoint e).endpoints := by
  obtain ⟨localId, existing, hlocal, hexisting, hid, -⟩ := of_checkUpdate_ok h
  rw [endpoints_replaceEndpoint]
  exact List.mem_map.2 ⟨existing, hexisting, ServiceEndPoint.inPlaceOf_of_eq hlocal hid⟩

end Service

end Connectivity
