import Connectivity.Proofs.Service.Drive

/-!
# Commands, and what they have done if they succeed

The three operations of a manager that change a store are commands. One that succeeds has read what
it decides from, driven its devices to the end and written to the store. The course of it is that of
the devices; nothing else happens.
-/
namespace Connectivity

/-- What a manager is asked to do. The id and the time of a new service are given to it. -/
inductive Command where
  | create (id : ServiceId) (now : Instant) (request : CreateRequest)
  | updateEndpoint (id : ServiceId) (endpoint : ServiceEndPoint)
  | delete (id : ServiceId)
  deriving DecidableEq, Repr

/-- The course of a command, and the store after it. -/
def Manager.perform {σ ε : Type} [DataStore σ] (m : Manager σ ε) : Command → Routine σ ε Service
  | .create id now request => m.creation id now request
  | .updateEndpoint id endpoint => m.update id endpoint
  | .delete id => m.deletion id

theorem Routine.of_read_andThen_ok {σ ε α β : Type} {look : σ → Except Error α}
    {next : α → Routine σ ε β} {store : σ} {y : β}
    (h : (((Routine.read look).andThen next).run store).1.result = .ok y) :
    ∃ x, look store = .ok x ∧
      ((Routine.read look).andThen next).run store = (next x).run store := by
  cases hlook : look store with
  | error e =>
      rw [Routine.run_read_andThen_of_error hlook] at h
      exact nomatch h
  | ok x => exact ⟨x, rfl, Routine.run_read_andThen_of_ok hlook next⟩

namespace Manager

section CarryOut

variable {σ ε α : Type} {m : Manager σ ε} {serviceId : ServiceId} {context : Context}
  {op : Operation} {subs : List SubRequest}

/-- The devices were driven to the end, before the store was changed. -/
theorem of_carryOut_ok {change : σ → Except Error σ} {store after : σ} {x y : α}
    (h : (((m.carryOut serviceId context op subs change).andThen fun _ => pure x).run
      store).1.result = .ok y) (hchange : change store = .ok after) :
    (m.drive serviceId context op subs).result = .ok () ∧
      ((m.carryOut serviceId context op subs change).andThen fun _ => pure x).run store =
        ((m.drive serviceId context op subs).andThen fun _ => .ofExcept (.ok x), after) := by
  cases hdrive : (m.drive serviceId context op subs).result with
  | error e =>
      rw [m.run_carryOut_of_error serviceId context hdrive, Activity.andThen_of_error hdrive] at h
      exact nomatch h
  | ok => exact ⟨rfl, m.run_carryOut_of_ok serviceId context hdrive hchange x⟩

end CarryOut

variable {ε : Type} {m : Manager Store ε} {store : Store} {id : ServiceId} {s : Service}

/-- A service was created: its sub-requests are activated, and its record is in the store. -/
structure Created (m : Manager Store ε) (store : Store) (id : ServiceId) (now : Instant)
    (r : CreateRequest) (subs : List SubRequest) (s : Service) : Prop where
  valid : (m.config.validation.checkCreate r).toExcept = .ok ()
  decomposed : m.decomposer store r.endpoints = .ok (some subs)
  record : s = recordOf id now r subs
  driven : (m.drive id ⟨some id, r.exclusive, r.effectiveType⟩ .activate subs).result = .ok ()
  outcome : (m.creation id now r).run store =
    ((m.drive id ⟨some id, r.exclusive, r.effectiveType⟩ .activate subs).andThen
      fun _ => .ofExcept (.ok s), store.putService s)

theorem Created.result {now : Instant} {r : CreateRequest} {subs : List SubRequest}
    (h : Created m store id now r subs s) : ((m.creation id now r).run store).1.result = .ok s := by
  rw [h.outcome, Activity.result_andThen_of_ok h.driven]
  rfl

/-- A decomposition is one over the topology that the store has at that moment. -/
theorem of_decomposeOver_ok {topologyId : TopologyId} {endpoints : List ServiceEndPoint}
    {result : Option (List SubRequest)}
    (h : decomposeOver topologyId store endpoints = .ok result) :
    ∃ t, store.readTopology topologyId = .ok t ∧ decompose t endpoints = .ok result := by
  unfold decomposeOver at h
  cases hcount : Decomposition.checkCount endpoints with
  | error e =>
      rw [hcount] at h
      exact nomatch h
  | ok =>
      rw [hcount] at h
      cases ht : store.readTopology topologyId with
      | error e =>
          have hread : DataStore.readTopology store topologyId = .error e := ht
          rw [hread] at h
          exact nomatch h
      | ok t =>
          have hread : DataStore.readTopology store topologyId = .ok t := ht
          rw [hread] at h
          exact ⟨t, rfl, h⟩

/-- The sub-requests of a service that was created decompose its endpoints. -/
theorem Created.decomposition {config : Config} {registry : Registry ε} {now : Instant}
    {r : CreateRequest} {subs : List SubRequest}
    (h : Created (.new config registry) store id now r subs s) :
    ∃ t, store.readTopology config.topologyId = .ok t ∧
      decompose t r.endpoints = .ok (some subs) := of_decomposeOver_ok h.decomposed

theorem of_requireConnected_ok {σ : Type} {m : Manager σ ε} {store : σ}
    {endpoints : List ServiceEndPoint} {subs : List SubRequest}
    (h : m.requireConnected store endpoints = .ok subs) :
    m.decomposer store endpoints = .ok (some subs) := by
  unfold requireConnected at h
  cases hdecomposed : m.decomposer store endpoints with
  | error e =>
      rw [hdecomposed] at h
      exact nomatch h
  | ok result =>
      rw [hdecomposed] at h
      cases result with
      | none => exact nomatch h
      | some _ =>
          cases h
          rfl

theorem creation_eq (m : Manager Store ε) (id : ServiceId) (now : Instant) (r : CreateRequest) :
    m.creation id now r =
      (Routine.read fun _ => (m.config.validation.checkCreate r).toExcept).andThen fun _ =>
        (Routine.read fun store => m.requireConnected store r.endpoints).andThen fun subs =>
          (m.carryOut id ⟨some id, r.exclusive, r.effectiveType⟩ .activate subs fun store =>
            DataStore.putService store (recordOf id now r subs)).andThen
              fun _ => pure (recordOf id now r subs) := rfl

theorem of_creation_ok {now : Instant} {r : CreateRequest}
    (h : ((m.creation id now r).run store).1.result = .ok s) :
    ∃ subs, Created m store id now r subs s := by
  rw [creation_eq] at h
  obtain ⟨_, hvalid, hchecked⟩ := Routine.of_read_andThen_ok h
  rw [hchecked] at h
  obtain ⟨subs, hsubs, hconnected⟩ := Routine.of_read_andThen_ok h
  rw [hconnected] at h
  obtain ⟨hdriven, hcarried⟩ := of_carryOut_ok h rfl
  rw [hcarried, Activity.result_andThen_of_ok hdriven] at h
  cases h
  exact ⟨subs, hvalid, of_requireConnected_ok hsubs, rfl, hdriven,
    by rw [creation_eq, hchecked, hconnected, hcarried]⟩

/-- An endpoint was changed: one device is updated, and the record has the endpoint in place. -/
structure Updated (m : Manager Store ε) (store : Store) (id : ServiceId) (e : ServiceEndPoint)
    (old : Service) (t : Topology) (sub : SubRequest) (s : Service) : Prop where
  stored : store.getService id = some old
  valid : (old.checkUpdate e).toExcept = .ok ()
  topology : store.readTopology m.config.topologyId = .ok t
  located : endpointRequest t e = .ok sub
  record : s = old.replaceEndpoint e
  driven : (m.drive old.id (contextOf old) .update [sub]).result = .ok ()
  outcome : (m.update id e).run store =
    ((m.drive old.id (contextOf old) .update [sub]).andThen fun _ => .ofExcept (.ok s),
      store.putService s)

theorem Updated.result {e : ServiceEndPoint} {old : Service} {t : Topology} {sub : SubRequest}
    (h : Updated m store id e old t sub s) : ((m.update id e).run store).1.result = .ok s := by
  rw [h.outcome, Activity.result_andThen_of_ok h.driven]
  rfl

theorem update_eq (m : Manager Store ε) (id : ServiceId) (e : ServiceEndPoint) :
    m.update id e = (Routine.read fun store => require store id).andThen fun old =>
      m.updateRecord old e := rfl

theorem updateRecord_eq (m : Manager Store ε) (old : Service) (e : ServiceEndPoint) :
    m.updateRecord old e =
      (Routine.read fun _ => (old.checkUpdate e).toExcept).andThen fun _ =>
        (Routine.read fun store => DataStore.readTopology store m.config.topologyId).andThen
          fun t => (Routine.read fun _ => endpointRequest t e).andThen fun sub =>
            (m.carryOut old.id (contextOf old) .update [sub] fun store =>
              DataStore.putService store (old.replaceEndpoint e)).andThen
                fun _ => pure (old.replaceEndpoint e) := rfl

theorem of_require_ok (h : require store id = .ok s) : store.getService id = some s := by
  unfold require at h
  simp only [DataStore.getService] at h
  cases hstored : store.getService id with
  | none =>
      rw [hstored] at h
      exact nomatch h
  | some _ =>
      rw [hstored] at h
      cases h
      rfl

theorem require_of_stored (h : store.getService id = some s) : require store id = .ok s := by
  simp only [require, DataStore.getService, h]
  rfl

/-- An update whose device is driven is written to the store. -/
theorem run_updateRecord {old : Service} {e : ServiceEndPoint} {t : Topology} {sub : SubRequest}
    (hvalid : (old.checkUpdate e).toExcept = .ok ())
    (ht : store.readTopology m.config.topologyId = .ok t) (hsub : endpointRequest t e = .ok sub)
    (hdriven : (m.drive old.id (contextOf old) .update [sub]).result = .ok ()) :
    (m.updateRecord old e).run store =
      ((m.drive old.id (contextOf old) .update [sub]).andThen
        fun _ => .ofExcept (.ok (old.replaceEndpoint e)),
        store.putService (old.replaceEndpoint e)) := by
  rw [updateRecord_eq]
  refine (Routine.run_read_andThen_of_ok (x := ()) ?valid _).trans
    ((Routine.run_read_andThen_of_ok (x := t) ?read _).trans
      ((Routine.run_read_andThen_of_ok (x := sub) ?located _).trans ?driven))
  case valid => exact hvalid
  case read => exact ht
  case located => exact hsub
  case driven =>
    refine m.run_carryOut_of_ok old.id _ hdriven ?_ _
    rfl

/-- An update that succeeds, from the record that was read on, is valid, and its device is
driven. -/
theorem of_updateRecord_ok {old : Service} {e : ServiceEndPoint}
    (h : ((m.updateRecord old e).run store).1.result = .ok s) :
    ∃ t sub, (old.checkUpdate e).toExcept = .ok () ∧
      store.readTopology m.config.topologyId = .ok t ∧ endpointRequest t e = .ok sub ∧
      (m.drive old.id (contextOf old) .update [sub]).result = .ok () ∧
      s = old.replaceEndpoint e := by
  rw [updateRecord_eq] at h
  obtain ⟨_, hvalid, hchecked⟩ := Routine.of_read_andThen_ok h
  rw [hchecked] at h
  obtain ⟨t, ht, hread⟩ := Routine.of_read_andThen_ok h
  rw [hread] at h
  obtain ⟨sub, hsub, hlocated⟩ := Routine.of_read_andThen_ok h
  rw [hlocated] at h
  obtain ⟨hdriven, hcarried⟩ := of_carryOut_ok h rfl
  rw [hcarried, Activity.result_andThen_of_ok hdriven] at h
  cases h
  exact ⟨t, sub, hvalid, ht, hsub, hdriven, rfl⟩

theorem of_update_ok {e : ServiceEndPoint} (h : ((m.update id e).run store).1.result = .ok s) :
    ∃ old t sub, Updated m store id e old t sub s := by
  rw [update_eq] at h
  obtain ⟨old, hold, hrequired⟩ := Routine.of_read_andThen_ok h
  rw [hrequired] at h
  obtain ⟨t, sub, hvalid, ht, hsub, hdriven, rfl⟩ := of_updateRecord_ok h
  exact ⟨old, t, sub, of_require_ok hold, hvalid, ht, hsub, rfl, hdriven,
    by rw [update_eq, hrequired, run_updateRecord hvalid ht hsub hdriven]⟩

/-- A service was removed, with the devices of its connections released. -/
structure Removed (m : Manager Store ε) (store : Store) (id : ServiceId) (s : Service) :
    Prop where
  stored : store.getService id = some s
  released : s.connections ≠ [] → (m.drive s.id (contextOf s) .deactivate
    (s.connections.map Connection.toSubRequest)).result = .ok ()
  outcome : (m.deletion id).run store =
    (if s.connections.isEmpty then .ofExcept (.ok s)
      else (m.drive s.id (contextOf s) .deactivate
        (s.connections.map Connection.toSubRequest)).andThen fun _ => .ofExcept (.ok s),
      (store.removeService s.id).2)

theorem Removed.result (h : Removed m store id s) :
    ((m.deletion id).run store).1.result = .ok s := by
  rw [h.outcome]
  split
  case isTrue => rfl
  case isFalse hne =>
    rw [Activity.result_andThen_of_ok (h.released fun hnil => hne (List.isEmpty_iff.2 hnil))]
    rfl

theorem deletion_eq (m : Manager Store ε) (id : ServiceId) :
    m.deletion id = (Routine.read fun store => require store id).andThen fun s =>
      (m.dismantle s).andThen fun _ => pure s := rfl

theorem dismantle_eq (m : Manager Store ε) (h : s.connections ≠ []) :
    m.dismantle s = m.carryOut s.id (contextOf s) .deactivate
      (s.connections.map Connection.toSubRequest) fun store => dropService store s.id :=
  if_neg (mt List.isEmpty_iff.1 h)

/-- The course of a deletion is that of the devices of the connections, however it ends. -/
theorem course_deletion (hs : store.getService id = some s) (hne : s.connections ≠ []) :
    ((m.deletion id).run store).1 =
      (m.drive s.id (contextOf s) .deactivate (s.connections.map Connection.toSubRequest)).andThen
        fun _ => .ofExcept (.ok s) := by
  rw [deletion_eq]
  refine (congrArg Prod.fst (Routine.run_read_andThen_of_ok (x := s) ?stored _)).trans ?driven
  case stored => exact require_of_stored hs
  case driven =>
    rw [dismantle_eq m hne]
    refine m.course_carryOut _ _ ?_ s
    exact ⟨_, rfl⟩

/-- A service whose devices, if it has any, are driven is removed from the store. -/
theorem run_dismantle {old : Service} (hreleased : old.connections ≠ [] →
      (m.drive old.id (contextOf old) .deactivate
        (old.connections.map Connection.toSubRequest)).result = .ok ()) :
    ((m.dismantle old).andThen fun _ => pure old).run store =
      (if old.connections.isEmpty then .ofExcept (.ok old)
        else (m.drive old.id (contextOf old) .deactivate
          (old.connections.map Connection.toSubRequest)).andThen fun _ => .ofExcept (.ok old),
        (store.removeService old.id).2) := by
  by_cases hempty : old.connections = []
  · rw [dismantle, if_pos (List.isEmpty_iff.2 hempty), if_pos (List.isEmpty_iff.2 hempty)]
    rfl
  · rw [dismantle_eq m hempty, if_neg (mt List.isEmpty_iff.1 hempty)]
    refine m.run_carryOut_of_ok old.id _ (hreleased hempty) ?_ old
    rfl

/-- A removal that succeeds, from the record that was read on, has driven the devices if there are
any. -/
theorem of_dismantle_ok {old : Service}
    (h : (((m.dismantle old).andThen fun _ => pure old).run store).1.result = .ok s) :
    (old.connections ≠ [] → (m.drive old.id (contextOf old) .deactivate
        (old.connections.map Connection.toSubRequest)).result = .ok ()) ∧ s = old := by
  by_cases hempty : old.connections = []
  · rw [dismantle, if_pos (List.isEmpty_iff.2 hempty)] at h
    cases h
    exact ⟨fun hne => absurd hempty hne, rfl⟩
  · rw [dismantle_eq m hempty] at h
    obtain ⟨hdriven, hcarried⟩ := of_carryOut_ok h rfl
    rw [hcarried, Activity.result_andThen_of_ok hdriven] at h
    cases h
    exact ⟨fun _ => hdriven, rfl⟩

theorem of_deletion_ok (h : ((m.deletion id).run store).1.result = .ok s) :
    Removed m store id s := by
  rw [deletion_eq] at h
  obtain ⟨old, hold, hrequired⟩ := Routine.of_read_andThen_ok h
  rw [hrequired] at h
  obtain ⟨hreleased, rfl⟩ := of_dismantle_ok h
  exact ⟨of_require_ok hold, hreleased, by rw [deletion_eq, hrequired, run_dismantle hreleased]⟩

end Manager

end Connectivity
