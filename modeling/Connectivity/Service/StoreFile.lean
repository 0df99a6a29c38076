import Std.Data.TreeMap
import Connectivity.Document.Basic
import Connectivity.Json.Parser
import Connectivity.Service.Basic
import Connectivity.Topology.Document

/-!
# Stores and the files they begin with

Where topologies and services are kept. `DataStore` is what the service manager asks of a store.
`Store` keeps everything in memory, with a version that counts the changes, and may begin with the
topology of a file in JSON; `FaultyStore` lets chosen operations of a store fail before they touch
it.
-/
namespace Connectivity

/-- The operations of a store that can fail. -/
inductive StoreOperation where
  | readTopology
  | writeTopology
  | putService
  | getService
  | removeService
  | listServices
  deriving DecidableEq, Repr

namespace StoreOperation

def name : StoreOperation → String
  | readTopology => "read_topology"
  | writeTopology => "write_topology"
  | putService => "put_service"
  | getService => "get_service"
  | removeService => "remove_service"
  | listServices => "list_services"

def all : List StoreOperation :=
  [readTopology, writeTopology, putService, getService, removeService, listServices]

def ofName? (s : String) : Option StoreOperation := all.find? fun op => op.name = s

end StoreOperation

/-- A store of topologies by id and services by id. A read does not change the store; a write gives
the store after it, or fails and leaves the store as it was. -/
class DataStore (σ : Type) where
  readTopology : σ → TopologyId → Except Error Topology
  writeTopology : σ → Topology → Except Error σ
  putService : σ → Service → Except Error σ
  getService : σ → ServiceId → Except Error (Option Service)
  removeService : σ → ServiceId → Except Error (Option Service × σ)
  listServices : σ → Except Error (List Service)
  version : σ → Nat

/-- A store in memory. -/
structure Store where
  topologies : Std.TreeMap TopologyId Topology
  services : Std.TreeMap ServiceId Service
  version : Nat

namespace Store

def empty : Store := ⟨∅, ∅, 0⟩

/-- A store that begins with one topology. -/
def ofTopology (t : Topology) : Store := ⟨(∅ : Std.TreeMap TopologyId Topology).insert t.id t, ∅, 1⟩

def readTopology (s : Store) (id : TopologyId) : Except Error Topology :=
  match s.topologies[id]? with
  | some t => .ok t
  | none => .error (.topologyUnavailable id "topology not found")

def writeTopology (s : Store) (t : Topology) : Store :=
  { s with topologies := s.topologies.insert t.id t, version := s.version + 1 }

def putService (s : Store) (service : Service) : Store :=
  { s with services := s.services.insert service.id service, version := s.version + 1 }

def getService (s : Store) (id : ServiceId) : Option Service := s.services[id]?

/-- The record removed, and the store after it; without a record nothing changes. -/
def removeService (s : Store) (id : ServiceId) : Option Service × Store :=
  match s.services[id]? with
  | some service =>
      (some service, { s with services := s.services.erase id, version := s.version + 1 })
  | none => (none, s)

@[simp] theorem getService_putService (s : Store) (service : Service) (id : ServiceId) :
    (s.putService service).getService id =
      if service.id = id then some service else s.getService id := by
  simp only [putService, getService, Std.TreeMap.getElem?_insert,
    Std.LawfulEqOrd.compare_eq_iff_eq]

@[simp] theorem getService_removeService (s : Store) (removed id : ServiceId) :
    (s.removeService removed).2.getService id =
      if removed = id then none else s.getService id := by
  simp only [removeService, getService]
  split
  case h_1 => simp only [Std.TreeMap.getElem?_erase, Std.LawfulEqOrd.compare_eq_iff_eq]
  case h_2 h =>
    split
    case isTrue heq => rw [← heq, h]
    case isFalse => rfl

/-- All services by ascending id. -/
def listServices (s : Store) : List Service := s.services.values

instance : DataStore Store where
  readTopology := readTopology
  writeTopology s t := .ok (s.writeTopology t)
  putService s service := .ok (s.putService service)
  getService s id := .ok (s.getService id)
  removeService s id := .ok (s.removeService id)
  listServices s := .ok s.listServices
  version := version

end Store

/-- A store with operations that fail, and the messages they fail with. -/
structure FaultyStore where
  store : Store
  faults : List (StoreOperation × String)

namespace FaultyStore

/-- Lets an operation fail with a message from now on, or work again. -/
def setFault (s : FaultyStore) (op : StoreOperation) (message : Option String) : FaultyStore :=
  let others := s.faults.filter fun fault => fault.1 ≠ op
  { s with faults := (message.map fun text => (op, text)).toList ++ others }

/-- Does an operation unless it is to fail. -/
def attempt {α : Type} (s : FaultyStore) (op : StoreOperation) (result : Except Error α) :
    Except Error α :=
  match s.faults.lookup op with
  | some message => .error (.dataStore op.name message)
  | none => result

instance : DataStore FaultyStore where
  readTopology s id := s.attempt .readTopology (s.store.readTopology id)
  writeTopology s t :=
    s.attempt .writeTopology (.ok { s with store := s.store.writeTopology t })
  putService s service :=
    s.attempt .putService (.ok { s with store := s.store.putService service })
  getService s id := s.attempt .getService (.ok (s.store.getService id))
  removeService s id :=
    let (removed, store) := s.store.removeService id
    s.attempt .removeService (.ok (removed, { s with store }))
  listServices s := s.attempt .listServices (.ok s.store.listServices)
  version s := s.store.version

end FaultyStore

/-- The store that begins with the topology of a file, named `path` in messages. -/
def Store.load (path : String) (file : FileContent) : Except Error Store := do
  let text ← file.text
  match (Json.parse? text).bind Topology.ofJson? with
  | some t => return .ofTopology t
  | none => throw (.topologyUnavailable path
      "Failed to parse topology file: it is not a topology in JSON")

end Connectivity
