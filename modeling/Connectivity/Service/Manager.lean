import Connectivity.Decomposition.Basic
import Connectivity.Driver.Registry
import Connectivity.Service.Routine
import Connectivity.Service.StoreFile
import Connectivity.Service.Validation
import Connectivity.Transaction

/-!
# The service manager

Creates, updates and deletes services. To create one is to validate the request, decompose it, bind
a driver for each device, activate all of them in one transaction and keep the record. An update
drives the device of the changed endpoint only; a deletion drives the devices of the connections.
The store is written last, and only if all went well.
-/
namespace Connectivity

/-- A way to decompose requests over what a store holds. -/
abbrev Decomposer (σ : Type) := σ → List ServiceEndPoint → Except Error (Option (List SubRequest))

/-- Decomposes over a topology of the store, which is read anew for each request. -/
def decomposeOver {σ : Type} [DataStore σ] (topologyId : TopologyId) : Decomposer σ :=
  fun store endpoints => do
    Decomposition.checkCount endpoints
    let t ← DataStore.readTopology store topologyId
    decompose t endpoints

structure Manager (σ ε : Type) where
  config : Config
  registry : Registry ε
  decomposer : Decomposer σ

namespace Manager

variable {σ ε : Type} [DataStore σ]

/-- A manager that decomposes over the configured topology. -/
def new (config : Config) (registry : Registry ε) : Manager σ ε :=
  ⟨config, registry, decomposeOver config.topologyId⟩

/-- Selects a driver for a sub-request and binds it. -/
def prepareOne (m : Manager σ ε) (serviceId : ServiceId) (context : Context) (slot : Nat)
    (s : SubRequest) : Activity ε (Instance ε) := do
  let i ← m.registry.select slot s context
  i.bindTo s.nodeId ⟨s.endpoints, serviceId, context⟩
  return i

/-- Adds a bound driver for each sub-request to a transaction, from position `slot` on. -/
def prepareFrom (m : Manager σ ε) (serviceId : ServiceId) (context : Context) :
    Nat → List SubRequest → Transaction ε → Activity ε (Transaction ε)
  | _, [], t => return t
  | slot, s :: rest, t => do
      let i ← m.prepareOne serviceId context slot s
      let t ← Activity.ofExcept (t.add i)
      m.prepareFrom serviceId context (slot + 1) rest t

/-- A transaction with one bound driver for each sub-request. -/
def prepare (m : Manager σ ε) (serviceId : ServiceId) (context : Context)
    (subs : List SubRequest) : Activity ε (Transaction ε) :=
  m.prepareFrom serviceId context 0 subs (.ofConfig m.config)

/-- Binds drivers for some sub-requests and runs an operation on them. -/
def drive (m : Manager σ ε) (serviceId : ServiceId) (context : Context) (op : Operation)
    (subs : List SubRequest) : Activity ε Unit := do
  let t ← m.prepare serviceId context subs
  let outcome ← (t.run op).2
  Activity.ofExcept outcome.toExcept

/-- The record of a service whose sub-requests are activated. -/
def recordOf (id : ServiceId) (createdAt : Instant) (r : CreateRequest) (subs : List SubRequest) :
    Service where
  id := id
  serviceType := r.effectiveType
  exclusive := r.exclusive
  endpoints := r.endpoints
  connections := subs.map (.ofSubRequest id)
  createdAt := createdAt

/-- What drivers are told of an existing service. -/
def contextOf (s : Service) : Context := ⟨some s.id, s.exclusive, s.serviceType⟩

/-- The decomposition of a request that must have one. -/
def requireConnected (m : Manager σ ε) (store : σ) (endpoints : List ServiceEndPoint) :
    Except Error (List SubRequest) := do
  match ← m.decomposer store endpoints with
  | some subs => return subs
  | none => throw (.noPath "no path between the requested endpoints")

/-- Drives the devices of some sub-requests, and writes to the store once all have committed. -/
def carryOut (m : Manager σ ε) (serviceId : ServiceId) (context : Context) (op : Operation)
    (subs : List SubRequest) (change : σ → Except Error σ) : Routine σ ε Unit := do
  .ofActivity (m.drive serviceId context op subs)
  .write change

/-- The creation of a service under an id that is new. -/
def creation (m : Manager σ ε) (id : ServiceId) (now : Instant) (r : CreateRequest) :
    Routine σ ε Service := do
  .read fun _ => (m.config.validation.checkCreate r).toExcept
  let subs ← .read fun store => m.requireConnected store r.endpoints
  let service := recordOf id now r subs
  m.carryOut id ⟨some id, r.exclusive, r.effectiveType⟩ .activate subs
    fun store => DataStore.putService store service
  return service

/-- Creates a service. -/
def create (m : Manager σ ε) (store : σ) (id : ServiceId) (now : Instant) (r : CreateRequest) :
    Activity ε (Service × σ) := (m.creation id now r).toActivity store

/-- The record of a service that must exist. -/
def require (store : σ) (id : ServiceId) : Except Error Service := do
  match ← DataStore.getService store id with
  | some s => return s
  | none => throw (.failureResult ("Connectivity service " ++ id ++ " does not exist"))

/-- The sub-request of one endpoint, on the first edge point that its sip is mapped to. -/
def endpointRequest (t : Topology) (e : ServiceEndPoint) : Except Error SubRequest :=
  match t.findSip? e.sip with
  | none =>
      .error (.failureResult
        ("Service interface point " ++ e.sip ++ " not found in the system"))
  | some (n, p) => .ok ⟨n.id, n.driverId, [⟨some e, some ⟨n.id, p.id⟩⟩]⟩

/-- An update, from the record that was read on. -/
def updateRecord (m : Manager σ ε) (s : Service) (e : ServiceEndPoint) : Routine σ ε Service := do
  .read fun _ => (s.checkUpdate e).toExcept
  let t ← .read fun store => DataStore.readTopology store m.config.topologyId
  let sub ← .read fun _ => endpointRequest t e
  m.carryOut s.id (contextOf s) .update [sub]
    fun store => DataStore.putService store (s.replaceEndpoint e)
  return s.replaceEndpoint e

/-- The change of the endpoint of a service that has the local id of `e`. -/
def update (m : Manager σ ε) (id : ServiceId) (e : ServiceEndPoint) : Routine σ ε Service := do
  let s ← .read fun store => require store id
  m.updateRecord s e

/-- Changes an endpoint of a service. -/
def updateEndpoint (m : Manager σ ε) (store : σ) (id : ServiceId) (e : ServiceEndPoint) :
    Activity ε (Service × σ) := (m.update id e).toActivity store

/-- The store without a service. -/
def dropService (store : σ) (id : ServiceId) : Except Error σ :=
  (DataStore.removeService store id).map (·.2)

/-- Undoes what a service is: its devices first, if it has any, and then its record. -/
def dismantle (m : Manager σ ε) (s : Service) : Routine σ ε Unit :=
  if s.connections.isEmpty then .write fun store => dropService store s.id
  else
    m.carryOut s.id (contextOf s) .deactivate (s.connections.map Connection.toSubRequest)
      fun store => dropService store s.id

/-- The deletion of a service, which gives the record that was stored. -/
def deletion (m : Manager σ ε) (id : ServiceId) : Routine σ ε Service := do
  let s ← .read fun store => require store id
  m.dismantle s
  return s

/-- Deletes a service. -/
def delete (m : Manager σ ε) (store : σ) (id : ServiceId) : Activity ε (Service × σ) :=
  (m.deletion id).toActivity store

def get (store : σ) (id : ServiceId) : Except Error (Option Service) :=
  DataStore.getService store id

def list (store : σ) : Except Error (List Service) := DataStore.listServices store

end Manager

/-- The store after a change, which is the store before it if there was an error. -/
def Activity.storeAfter {σ ε : Type} (a : Activity ε (Service × σ)) (before : σ) : σ :=
  match a.result with
  | .ok (_, after) => after
  | .error _ => before

end Connectivity
