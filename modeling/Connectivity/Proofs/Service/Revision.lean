import Connectivity.Proofs.Service.Ledger

/-!
# Changes of a stored service

An update and a deletion begin alike: they read the record of a service. From then on they work from
the record that was read, whatever becomes of the stored one in the meantime.
-/
namespace Connectivity

/-- What is to become of a stored service. -/
inductive Revision where
  | update (e : ServiceEndPoint)
  | removal
  deriving DecidableEq, Repr

namespace Revision

/-- The command that asks for it. -/
def command (id : ServiceId) : Revision → Command
  | update e => .updateEndpoint id e
  | removal => .delete id

/-- The record that the caller is given, of the one that was read. -/
def gives (old : Service) : Revision → Service
  | update e => old.replaceEndpoint e
  | removal => old

/-- What is left of the record that was read. -/
def leaves (old : Service) : Revision → Option Service
  | update e => some (old.replaceEndpoint e)
  | removal => none

/-- The change that is made to a store. -/
def write (old : Service) (store : Store) : Revision → Store
  | update e => store.putService (old.replaceEndpoint e)
  | removal => (store.removeService old.id).2

/-- Two that do not replace the same endpoint, and do not both remove the service. -/
def Apart : Revision → Revision → Prop
  | update e, update e' => e.localId ≠ e'.localId
  | removal, removal => False
  | _, _ => True

instance : (r r' : Revision) → Decidable (r.Apart r')
  | update e, update e' => inferInstanceAs (Decidable (e.localId ≠ e'.localId))
  | update _, removal => inferInstanceAs (Decidable True)
  | removal, update _ => inferInstanceAs (Decidable True)
  | removal, removal => inferInstanceAs (Decidable False)

variable {old : Service} {store : Store} {r r' : Revision}

theorem Apart.symm (h : r.Apart r') : r'.Apart r := by
  cases r with
  | update e =>
      cases r' with
      | update e' => exact Ne.symm h
      | removal => trivial
  | removal =>
      cases r' with
      | update e' => trivial
      | removal => exact h

theorem getService_write :
    (r.write old store).getService = Function.update store.getService old.id (r.leaves old) := by
  cases r with
  | update e => rw [write, Store.getService_putService_eq_update, Service.id_replaceEndpoint]; rfl
  | removal => exact Store.getService_removeService_eq_update store old.id

theorem readTopology_write : (r.write old store).readTopology = store.readTopology := by
  cases r with
  | update e => rfl
  | removal => exact funext (store.readTopology_removeService old.id)

end Revision

namespace Manager

variable {ε : Type}

/-- What is done about a service once its record is read. -/
def resume (m : Manager Store ε) (old : Service) : Revision → Routine Store ε Service
  | .update e => m.updateRecord old e
  | .removal => (m.dismantle old).andThen fun _ => pure old

/-- It can be done: the change is valid, and the devices do what they are asked to. -/
def CanRevise (m : Manager Store ε) (topologies : TopologyId → Except Error Topology)
    (old : Service) : Revision → Prop
  | .update e => (old.checkUpdate e).toExcept = .ok () ∧
      ∃ t sub, topologies m.config.topologyId = .ok t ∧ endpointRequest t e = .ok sub ∧
        (m.drive old.id (contextOf old) .update [sub]).result = .ok ()
  | .removal => old.connections ≠ [] →
      (m.drive old.id (contextOf old) .deactivate
        (old.connections.map Connection.toSubRequest)).result = .ok ()

variable {m : Manager Store ε} {store : Store} {id : ServiceId} {old s : Service} {r : Revision}
  {e e' : ServiceEndPoint}

theorem perform_revision (m : Manager Store ε) (id : ServiceId) (r : Revision) :
    m.perform (r.command id) =
      (Routine.read fun store => require store id).andThen fun old => m.resume old r := by
  cases r <;> rfl

theorem require_of_absent (h : store.getService id = none) : ∃ e, require store id = .error e := by
  simp only [require, DataStore.getService, h]
  exact ⟨_, rfl⟩

theorem run_perform_of_stored (h : store.getService id = some old) :
    (m.perform (r.command id)).run store = (m.resume old r).run store := by
  rw [perform_revision]
  refine Routine.run_read_andThen_of_ok ?_ _
  exact require_of_stored h

/-- Of a service that is not there nothing is done. -/
theorem run_perform_of_absent (h : store.getService id = none) :
    ∃ e, require store id = .error e ∧
      (m.perform (r.command id)).run store = (.ofExcept (.error e), store) := by
  obtain ⟨e, he⟩ := require_of_absent h
  refine ⟨e, he, ?_⟩
  rw [perform_revision]
  refine Routine.run_read_andThen_of_error ?_ _
  exact he

/-- A revision that succeeds could be carried out. -/
theorem canRevise_of_ok (h : ((m.resume old r).run store).1.result = .ok s) :
    m.CanRevise store.readTopology old r := by
  cases r with
  | update e =>
      obtain ⟨t, sub, hvalid, ht, hsub, hdriven, -⟩ := of_updateRecord_ok h
      exact ⟨hvalid, t, sub, ht, hsub, hdriven⟩
  | removal => exact (of_dismantle_ok h).1

/-- A revision that can be carried out succeeds, and makes its change to the store. -/
theorem run_resume (h : m.CanRevise store.readTopology old r) :
    ((m.resume old r).run store).1.result = .ok (r.gives old) ∧
      ((m.resume old r).run store).2 = r.write old store := by
  cases r with
  | update e =>
      obtain ⟨hvalid, t, sub, ht, hsub, hdriven⟩ := h
      rw [resume, run_updateRecord hvalid ht hsub hdriven, Activity.result_andThen_of_ok hdriven]
      exact ⟨rfl, rfl⟩
  | removal =>
      rw [resume, run_dismantle h]
      split
      case isTrue => exact ⟨rfl, rfl⟩
      case isFalse hne =>
        rw [Activity.result_andThen_of_ok (h (mt List.isEmpty_iff.2 hne))]
        exact ⟨rfl, rfl⟩

/-- Another endpoint of the service may be another by then. -/
theorem CanRevise.replaceEndpoint {topologies : TopologyId → Except Error Topology}
    (h : m.CanRevise topologies old (.update e')) (hne : e.localId ≠ e'.localId) :
    m.CanRevise topologies (old.replaceEndpoint e) (.update e') := by
  obtain ⟨hvalid, hdriven⟩ := h
  have hcontext : contextOf (old.replaceEndpoint e) = contextOf old := by
    rw [Service.replaceEndpoint_eq_mapEndpoints]
    rfl
  refine ⟨?_, ?_⟩
  · rwa [Service.checkUpdate_replaceEndpoint_of_ne hne]
  · rwa [hcontext, Service.id_replaceEndpoint]

end Manager

end Connectivity
