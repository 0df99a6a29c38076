import Connectivity.Proofs.Service.ReplacementLaws
import Connectivity.Proofs.Service.Run
import Connectivity.Proofs.Service.Success
import Mathlib.Logic.Function.Basic

/-!
# What a session leaves in the store

A command that succeeds writes or removes the record of one service, and the version counts it; one
that fails leaves no trace. So a store is a map of services that the commands which succeeded are
entered in one after another, and its version is their number and that of the topologies written.
-/
namespace Connectivity

/-! ## The record of a new service -/

/-- The connection of a service that is made of a sub-request: it is named after both, and has the
node, the driver family and the endpoints of the sub-request. -/
structure Connection.MadeOf (serviceId : ServiceId) (sub : SubRequest) (c : Connection) : Prop where
  id : c.id = serviceId ++ ":" ++ sub.nodeId
  nodeId : c.nodeId = sub.nodeId
  driverId : c.driverId = sub.driverId
  endpoints : c.endpoints = sub.endpoints

/-- The record that is made of a request and its sub-requests. It says what the request says, with a
type that follows from the number of endpoints if none is asked for, and has one connection for each
sub-request, in their order. -/
structure Service.MadeOf (serviceId : ServiceId) (now : Instant) (r : CreateRequest)
    (subs : List SubRequest) (s : Service) : Prop where
  id : s.id = serviceId
  requestedType : ∀ requested, r.serviceType = some requested → s.serviceType = requested
  inferredType : r.serviceType = none →
    s.serviceType = if 2 < r.endpoints.length then .multiPoint else .pointToPoint
  exclusive : s.exclusive = r.exclusive
  endpoints : s.endpoints = r.endpoints
  connections : List.Forall₂ (Connection.MadeOf serviceId) subs s.connections
  createdAt : s.createdAt = now

theorem Connection.madeOf_iff (id : ServiceId) (sub : SubRequest) (c : Connection) :
    MadeOf id sub c ↔ c = .ofSubRequest id sub := by
  constructor
  · intro h
    cases c
    rw [ofSubRequest, Connection.mk.injEq]
    exact ⟨h.id, h.nodeId, h.driverId, h.endpoints⟩
  · rintro rfl
    exact ⟨rfl, rfl, rfl, rfl⟩

/-- The type is the one that is asked for, or the one that follows. -/
theorem CreateRequest.eq_effectiveType_iff (r : CreateRequest) (t : ServiceType) :
    t = r.effectiveType ↔ (∀ requested, r.serviceType = some requested → t = requested) ∧
      (r.serviceType = none →
        t = if 2 < r.endpoints.length then .multiPoint else .pointToPoint) := by
  rw [effectiveType]
  cases r.serviceType with
  | none => simp [ServiceType.ofEndpointCount]
  | some requested => simp

theorem Service.madeOf_iff {id : ServiceId} {now : Instant} {r : CreateRequest}
    {subs : List SubRequest} {s : Service} :
    MadeOf id now r subs s ↔ s = Manager.recordOf id now r subs := by
  constructor
  · intro h
    have htype := (r.eq_effectiveType_iff s.serviceType).2 ⟨h.requestedType, h.inferredType⟩
    have hconnections := (forall₂_iff_eq_map (Connection.madeOf_iff id)).1 h.connections
    cases s
    rw [Manager.recordOf, Service.mk.injEq]
    exact ⟨h.id, htype, h.exclusive, h.endpoints, hconnections, h.createdAt⟩
  · rintro rfl
    obtain ⟨hrequested, hinferred⟩ := (r.eq_effectiveType_iff r.effectiveType).1 rfl
    exact ⟨rfl, hrequested, hinferred, rfl, rfl,
      (forall₂_iff_eq_map (Connection.madeOf_iff id)).2 rfl, rfl⟩

/-! ## What a command does -/

namespace Command

/-- The id of the service that a command is about. -/
def target : Command → ServiceId
  | create id _ _ => id
  | updateEndpoint id _ => id
  | delete id => id

/-- What is stored under that id after a command that gives `s`. -/
def leaves (s : Service) : Command → Option Service
  | create _ _ _ => some s
  | updateEndpoint _ _ => some s
  | delete _ => none

/-- By how many services the store grows. -/
def growth : Command → Int
  | create _ _ _ => 1
  | updateEndpoint _ _ => 0
  | delete _ => -1

/-- The id of a service that is to be created is not taken. -/
def Fresh (store : Store) : Command → Prop
  | create id _ _ => store.getService id = none
  | _ => True

/-- The record that a command gives: one made of the request and its decomposition, the one stored
with the endpoint replaced, or the one stored. -/
def Gives {ε : Type} (m : Manager Store ε) (store : Store) (s : Service) : Command → Prop
  | create id now r => ∃ subs, m.decomposer store r.endpoints = .ok (some subs) ∧
      Service.MadeOf id now r subs s
  | updateEndpoint id e => ∃ old, store.getService id = some old ∧ old.Replaced e s
  | delete id => store.getService id = some s

/-- All that a command which gives `s` does to a store. -/
structure Done {ε : Type} (m : Manager Store ε) (store : Store) (c : Command) (s : Service)
    (after : Store) : Prop where
  given : c.Gives m store s
  services : after.getService = Function.update store.getService c.target (c.leaves s)
  size : c.Fresh store → (after.listServices.length : Int) = store.listServices.length + c.growth
  topologies : after.readTopology = store.readTopology
  version : after.version = store.version + 1

end Command

namespace Store

variable {store : Store} {id : ServiceId} {s : Service}

theorem length_listServices (store : Store) :
    store.listServices.length = store.services.size := by
  rw [listServices, values_eq_map_toList, List.length_map, Std.TreeMap.length_toList]

theorem contains_services (store : Store) (id : ServiceId) :
    store.services.contains id = (store.getService id).isSome :=
  Std.TreeMap.contains_eq_isSome_getElem?

theorem getService_putService_eq_update (store : Store) (s : Service) :
    (store.putService s).getService = Function.update store.getService s.id (some s) := by
  funext id
  rw [getService_putService, Function.update_apply]
  simp only [@eq_comm _ id]

theorem getService_removeService_eq_update (store : Store) (removed : ServiceId) :
    (store.removeService removed).2.getService =
      Function.update store.getService removed none := by
  funext id
  rw [getService_removeService, Function.update_apply]
  simp only [@eq_comm _ id]

theorem size_putService_of_new (h : store.getService s.id = none) :
    (store.putService s).services.size = store.services.size + 1 := by
  rw [putService, Std.TreeMap.size_insert, contains_services, h]
  rfl

theorem size_putService_of_stored {old : Service} (h : store.getService s.id = some old) :
    (store.putService s).services.size = store.services.size := by
  rw [putService, Std.TreeMap.size_insert, contains_services, h]
  rfl

theorem removeService_of_stored (h : store.getService id = some s) :
    (store.removeService id).2 =
      { store with services := store.services.erase id, version := store.version + 1 } := by
  have hfound : store.services[id]? = some s := h
  simp only [removeService, hfound]

theorem size_removeService_of_stored (h : store.getService id = some s) :
    (store.removeService id).2.services.size + 1 = store.services.size := by
  have hcontains : store.services.contains id = true := by rw [contains_services, h]; rfl
  have hlisted : s ∈ store.listServices := mem_values.2 ⟨id, h⟩
  have hpos := List.length_pos_of_mem hlisted
  rw [length_listServices] at hpos
  rw [removeService_of_stored h, Std.TreeMap.size_erase, if_pos hcontains]
  omega

theorem version_removeService_of_stored (h : store.getService id = some s) :
    (store.removeService id).2.version = store.version + 1 := by
  rw [removeService_of_stored h]

end Store

namespace Manager

variable {ε : Type} {m : Manager Store ε} {store : Store} {c : Command} {s : Service}

/-- A command that succeeds does what it is to do, and nothing else. -/
theorem done_of_ok (hfiled : store.Filed)
    (h : ((m.perform c).run store).1.result = .ok s) :
    c.Done m store s ((m.perform c).run store).2 := by
  cases c with
  | create id now r =>
      obtain ⟨subs, hcreated⟩ := of_creation_ok h
      have hid : s.id = id := congrArg Service.id hcreated.record
      have hafter : ((m.perform (.create id now r)).run store).2 = store.putService s :=
        congrArg Prod.snd hcreated.outcome
      rw [hafter]
      constructor
      case given => exact ⟨subs, hcreated.decomposed, Service.madeOf_iff.2 hcreated.record⟩
      case services => rw [Store.getService_putService_eq_update, hid]; rfl
      case size =>
        intro hfresh
        rw [Store.length_listServices, Store.length_listServices,
          Store.size_putService_of_new (hid ▸ hfresh)]
        rfl
      case topologies => rfl
      case version => rfl
  | updateEndpoint id e =>
      obtain ⟨old, t, sub, hupdated⟩ := of_update_ok h
      have hid : s.id = id := by
        rw [hupdated.record, Service.id_replaceEndpoint, hfiled id old hupdated.stored]
      have hafter : ((m.perform (.updateEndpoint id e)).run store).2 = store.putService s :=
        congrArg Prod.snd hupdated.outcome
      rw [hafter]
      constructor
      case given => exact ⟨old, hupdated.stored, Service.replaced_iff.2 hupdated.record⟩
      case services => rw [Store.getService_putService_eq_update, hid]; rfl
      case size =>
        intro _
        rw [Store.length_listServices, Store.length_listServices,
          Store.size_putService_of_stored (hid ▸ hupdated.stored)]
        exact (Int.add_zero _).symm
      case topologies => rfl
      case version => rfl
  | delete id =>
      have hremoved := of_deletion_ok h
      have hid : s.id = id := hfiled id s hremoved.stored
      have hafter : ((m.perform (.delete id)).run store).2 = (store.removeService id).2 :=
        hid ▸ congrArg Prod.snd hremoved.outcome
      rw [hafter]
      constructor
      case given => exact hremoved.stored
      case services => exact Store.getService_removeService_eq_update store id
      case size =>
        intro _
        have hsize := Store.size_removeService_of_stored hremoved.stored
        simp only [Store.length_listServices, Command.growth]
        omega
      case topologies => exact funext (store.readTopology_removeService id)
      case version => exact Store.version_removeService_of_stored hremoved.stored

end Manager

/-! ## What a session does -/

/-- The command that a step carries out with success, and the record that it gives. -/
def Step.success? {ε : Type} (step : Step ε) (store : Store) : Option (Command × Service) :=
  match step with
  | command config registry c =>
      (((Manager.new config registry).perform c).run store).1.result.toOption.map fun s => (c, s)
  | writeTopology _ => none

def Step.writesTopology {ε : Type} : Step ε → Bool
  | command _ _ _ => false
  | writeTopology _ => true

namespace Store

/-- Enters what a command leaves into a map of services. -/
def enter (services : ServiceId → Option Service) (entry : Command × Service) :
    ServiceId → Option Service :=
  Function.update services entry.1.target (entry.1.leaves entry.2)

/-- The commands of a run that succeed, with the records that they give. -/
def successes {ε : Type} : List (Step ε) → Store → List (Command × Service)
  | [], _ => []
  | step :: rest, store => (step.success? store).toList ++ successes rest (step.after store)

end Store

section Session

variable {ε : Type} {step : Step ε} {store : Store}

/-- A step enters its command if it succeeds, and counts it or the topology that it writes. -/
theorem Step.entered_after (hfiled : store.Filed) (step : Step ε) :
    (step.after store).getService =
        (step.success? store).toList.foldl Store.enter store.getService ∧
      (step.after store).version =
        store.version + (step.success? store).toList.length +
          [step].countP Step.writesTopology := by
  cases step with
  | writeTopology t => exact ⟨rfl, rfl⟩
  | command config registry c =>
      cases h : (((Manager.new config registry).perform c).run store).1.result with
      | error e =>
          have hsame := (perform_allOrNothing (.new config registry) c store e h).store_eq
          have hnone : (Step.command config registry c).success? store = none := by
            rw [Step.success?, h]
            rfl
          rw [hnone, Step.after, hsame]
          exact ⟨rfl, rfl⟩
      | ok s =>
          have hdone := Manager.done_of_ok hfiled h
          have hsome : (Step.command config registry c).success? store = some (c, s) := by
            rw [Step.success?, h]
            rfl
          rw [hsome]
          exact ⟨hdone.services, hdone.version⟩

/-- A run enters the commands that succeed one after another, and counts them and the topologies. -/
theorem Store.entered_runAll (hfiled : store.Filed) (steps : List (Step ε)) :
    (store.runAll steps).getService = (successes steps store).foldl enter store.getService ∧
      (store.runAll steps).version =
        store.version + (successes steps store).length + steps.countP Step.writesTopology := by
  induction steps generalizing store with
  | nil => exact ⟨rfl, rfl⟩
  | cons step rest ih =>
      obtain ⟨hservices, hversion⟩ := Step.entered_after hfiled step
      have hkept : (step.after store).Filed := Step.filed_after hfiled
      obtain ⟨hrest, hrestVersion⟩ := ih hkept
      have hrun : store.runAll (step :: rest) = (step.after store).runAll rest := rfl
      have hcount : (step :: rest).countP Step.writesTopology =
          [step].countP Step.writesTopology + rest.countP Step.writesTopology := by
        rw [← List.countP_append]
        rfl
      rw [hrun, hrest, hservices, hrestVersion, hversion, successes, List.foldl_append,
        List.length_append]
      exact ⟨rfl, by omega⟩

/-- In a store that a session has come to, a command that succeeds has its effect and no other; and
the session has entered the commands that succeeded, and counted them and the topologies written. -/
theorem session_entered (hfiled : store.Filed) (steps : List (Step ε)) :
    (∀ (m : Manager Store ε) (c : Command) (s : Service),
      ((m.perform c).run (store.runAll steps)).1.result = .ok s →
        c.Done m (store.runAll steps) s ((m.perform c).run (store.runAll steps)).2) ∧
    (store.runAll steps).getService =
      (Store.successes steps store).foldl Store.enter store.getService ∧
    (store.runAll steps).version =
      store.version + (Store.successes steps store).length +
        steps.countP Step.writesTopology :=
  ⟨fun _ _ _ h => Manager.done_of_ok (Store.runAll_filed hfiled steps) h,
    Store.entered_runAll hfiled steps⟩

end Session

/-- An update that succeeds, one that fails, and a topology without links. -/
def disturbance : List (Step Notice) :=
  [.command {} obliging (.updateEndpoint "s" (Sample.directedEndPoint "n1:1" .input)),
    .command {} .empty (.updateEndpoint "s" (Sample.endPoint "n2:1")),
    .writeTopology Sample.isolatedNodes]

/-- A service is created on two devices, and one without connections is deleted: no device is
driven, and all that is left of it is the count of its changes. -/
theorem pairInService_entered :
    let creation := ((Manager.new {} obliging).perform (.create "s" .epoch pairRequest)).run
      (Store.ofTopology (Sample.linkedPair .enabled))
    (pairInService.runAll disturbance).version = 4 ∧
      (∃ s, (((Manager.new {} obliging).perform (.delete "s")).run
          (pairInService.runAll disturbance)).1.result = .ok s ∧ s.connections = [] ∧
        (Command.delete "s").Done (.new {} obliging) (pairInService.runAll disturbance) s
          (((Manager.new {} obliging).perform (.delete "s")).run
            (pairInService.runAll disturbance)).2) ∧
      ∃ s, creation.1.result = .ok s ∧ s.connections.map (·.id) = ["s:n1", "s:n2"] ∧
        (Command.create "s" .epoch pairRequest).Done (.new {} obliging)
          (Store.ofTopology (Sample.linkedPair .enabled)) s creation.2 := by
  intro creation
  have hempty : (Store.ofTopology (Sample.linkedPair .enabled)).Filed :=
    Store.filed_of_none (Store.getService_ofTopology _)
  have hfiled : pairInService.Filed := hempty.putService _
  obtain ⟨hdone, -, hversion⟩ := session_entered hfiled disturbance
  have hsuccesses : (Store.successes disturbance pairInService).length = 1 := by decide +kernel
  refine ⟨?version, ?deleted, ?created⟩
  case version =>
    rw [hversion, hsuccesses]
    rfl
  case deleted =>
    obtain ⟨s, hs⟩ : ∃ s, (((Manager.new {} obliging).perform (.delete "s")).run
        (pairInService.runAll disturbance)).1.result = .ok s := exists_of_isOk (by decide +kernel)
    have hconnections : (((Manager.new {} obliging).perform (.delete "s")).run
        (pairInService.runAll disturbance)).1.result.toOption.map Service.connections =
          some [] := by
      decide +kernel
    rw [hs] at hconnections
    exact ⟨s, hs, Option.some.inj hconnections, hdone _ _ s hs⟩
  case created =>
    obtain ⟨hdone, -⟩ := session_entered (ε := Notice) hempty []
    have hcreated : creation.1.result = .ok pairService := pair_created.result
    exact ⟨pairService, hcreated, by decide, hdone _ _ pairService hcreated⟩

end Connectivity
