import Connectivity.Proofs.Service.Atomicity
import Connectivity.Proofs.Service.Effect
import Connectivity.Proofs.Service.Replacement

/-!
# Runs

What happens to a store: managers carry out commands, with whatever drivers are registered at that
moment, and topologies are written anew. A service is in the store since its creation, or since the
last change of one of its endpoints.
-/
namespace Connectivity

/-- Every service is stored under its own id. -/
def Store.Filed (store : Store) : Prop :=
  ∀ id s, store.getService id = some s → s.id = id

namespace Store

variable {store : Store}

theorem getService_empty (id : ServiceId) : empty.getService id = none := by
  simp [empty, getService]

theorem getService_ofTopology (t : Topology) (id : ServiceId) :
    (ofTopology t).getService id = none := by
  simp [ofTopology, getService]

theorem forall_stored_of_none {P : ServiceId → Service → Prop}
    (h : ∀ id, store.getService id = none) : ∀ id s, store.getService id = some s → P id s := by
  intro id s hs
  rw [h id] at hs
  exact nomatch hs

theorem filed_of_none (h : ∀ id, store.getService id = none) : store.Filed :=
  forall_stored_of_none h

theorem Filed.putService (h : store.Filed) (s : Service) : (store.putService s).Filed := by
  intro id s' hs'
  rw [getService_putService] at hs'
  split at hs'
  case isTrue heq =>
    cases hs'
    exact heq
  case isFalse => exact h id s' hs'

theorem Filed.removeService (h : store.Filed) (removed : ServiceId) :
    (store.removeService removed).2.Filed := by
  intro id s hs
  rw [getService_removeService] at hs
  split at hs
  case isTrue => exact nomatch hs
  case isFalse => exact h id s hs

theorem readTopology_removeService (store : Store) (removed : ServiceId) (id : TopologyId) :
    (store.removeService removed).2.readTopology id = store.readTopology id := by
  unfold removeService
  split <;> rfl

theorem topologies_writeTopology (store : Store) (t : Topology) (id : TopologyId) :
    (store.writeTopology t).topologies[id]? =
      if t.id = id then some t else store.topologies[id]? :=
  getElem?_insert store.topologies t.id id t

theorem readTopology_writeTopology (store : Store) (t : Topology) (id : TopologyId) :
    (store.writeTopology t).readTopology id =
      if t.id = id then .ok t else store.readTopology id := by
  simp only [readTopology, topologies_writeTopology]
  by_cases h : t.id = id <;> simp [h]

end Store

namespace Manager

variable {ε : Type} {m : Manager Store ε} {store : Store} {c : Command}

/-- A service that was changed is stored as it is now. -/
theorem Updated.stored_after {id : ServiceId} {e : ServiceEndPoint} {old s : Service} {t : Topology}
    {sub : SubRequest} (h : Updated m store id e old t sub s) (hfiled : store.Filed) :
    ((m.update id e).run store).2.getService id = some s := by
  have hid : s.id = id := by
    rw [h.record, Service.id_replaceEndpoint, hfiled id old h.stored]
  rw [h.outcome, Store.getService_putService, if_pos hid]

/-- What a command can do to the store: nothing, or write one service or remove it. -/
inductive Effect (m : Manager Store ε) (store : Store) : Command → Store → Prop where
  | nothing {c : Command} : Effect m store c store
  | created {id : ServiceId} {now : Instant} {r : CreateRequest} {subs : List SubRequest}
      {s : Service} (h : Created m store id now r subs s) :
      Effect m store (.create id now r) (store.putService s)
  | updated {id : ServiceId} {e : ServiceEndPoint} {old s : Service} {t : Topology}
      {sub : SubRequest} (h : Updated m store id e old t sub s) :
      Effect m store (.updateEndpoint id e) (store.putService s)
  | removed {id : ServiceId} {s : Service} (h : Removed m store id s) :
      Effect m store (.delete id) (store.removeService s.id).2

theorem perform_effect (m : Manager Store ε) (c : Command) (store : Store) :
    Effect m store c ((m.perform c).run store).2 := by
  cases h : ((m.perform c).run store).1.result with
  | error e =>
      rw [(perform_allOrNothing m c store e h).store_eq]
      exact .nothing
  | ok s =>
      cases c with
      | create id now r =>
          obtain ⟨subs, hcreated⟩ := of_creation_ok h
          have hstore : ((m.perform (.create id now r)).run store).2 = store.putService s :=
            congrArg Prod.snd hcreated.outcome
          rw [hstore]
          exact .created hcreated
      | updateEndpoint id e =>
          obtain ⟨old, t, sub, hupdated⟩ := of_update_ok h
          have hstore : ((m.perform (.updateEndpoint id e)).run store).2 = store.putService s :=
            congrArg Prod.snd hupdated.outcome
          rw [hstore]
          exact .updated hupdated
      | delete id =>
          have hremoved := of_deletion_ok h
          have hstore : ((m.perform (.delete id)).run store).2 = (store.removeService s.id).2 :=
            congrArg Prod.snd hremoved.outcome
          rw [hstore]
          exact .removed hremoved

namespace Effect

variable {after : Store}

theorem readTopology (h : Effect m store c after) (id : TopologyId) :
    after.readTopology id = store.readTopology id := by
  cases h with
  | nothing => rfl
  | created => rfl
  | updated => rfl
  | removed => exact store.readTopology_removeService _ id

theorem filed (h : Effect m store c after) (hfiled : store.Filed) : after.Filed := by
  cases h with
  | nothing => exact hfiled
  | created => exact hfiled.putService _
  | updated => exact hfiled.putService _
  | removed => exact hfiled.removeService _

/-- A service that is stored after a command was there before, or the command has written it. -/
theorem service_cases (h : Effect m store c after) (hfiled : store.Filed) {id : ServiceId}
    {s : Service} (hs : after.getService id = some s) :
    store.getService id = some s ∨
      (∃ now r subs, c = .create id now r ∧ Created m store id now r subs s) ∨
      ∃ e old t sub, c = .updateEndpoint id e ∧ Updated m store id e old t sub s := by
  cases h with
  | nothing => exact .inl hs
  | created hcreated =>
      rw [Store.getService_putService] at hs
      split at hs
      case isTrue heq =>
        cases hs
        have hid := congrArg Service.id hcreated.record
        cases heq.symm.trans hid
        exact .inr (.inl ⟨_, _, _, rfl, hcreated⟩)
      case isFalse => exact .inl hs
  | updated hupdated =>
      rw [Store.getService_putService] at hs
      split at hs
      case isTrue heq =>
        cases hs
        have hid := congrArg Service.id hupdated.record
        rw [Service.id_replaceEndpoint, hfiled _ _ hupdated.stored] at hid
        cases heq.symm.trans hid
        exact .inr (.inr ⟨_, _, _, _, rfl, hupdated⟩)
      case isFalse => exact .inl hs
  | removed hremoved =>
      rw [Store.getService_removeService] at hs
      split at hs
      case isTrue => exact nomatch hs
      case isFalse => exact .inl hs

end Effect

end Manager

/-- One step of a run. -/
inductive Step (ε : Type) where
  | command (config : Config) (registry : Registry ε) (c : Command)
  | writeTopology (t : Topology)

namespace Step

variable {ε : Type}

/-- The store after a step. -/
def after (step : Step ε) (store : Store) : Store :=
  match step with
  | command config registry c => (((Manager.new config registry).perform c).run store).2
  | writeTopology t => store.writeTopology t

/-- The step writes a topology of that id. -/
def Writes (topologyId : TopologyId) : Step ε → Prop
  | command _ _ _ => False
  | writeTopology t => t.id = topologyId

/-- The step asks for a new service of that id. -/
def Creates (id : ServiceId) : Step ε → Prop
  | command _ _ (.create id' _ _) => id' = id
  | _ => False

variable {step : Step ε} {store : Store}

theorem readTopology_after {id : TopologyId} (h : ¬ step.Writes id) :
    (step.after store).readTopology id = store.readTopology id := by
  cases step with
  | command config registry c =>
      exact (Manager.perform_effect (.new config registry) c store).readTopology id
  | writeTopology t => exact (store.readTopology_writeTopology t id).trans (if_neg h)

theorem filed_after (hfiled : store.Filed) : (step.after store).Filed := by
  cases step with
  | command config registry c =>
      exact (Manager.perform_effect (.new config registry) c store).filed hfiled
  | writeTopology t => exact hfiled

end Step

/-- The store after some steps. -/
def Store.runAll {ε : Type} (store : Store) (steps : List (Step ε)) : Store :=
  steps.foldl (fun store step => step.after store) store

/-- A store that some steps lead to. -/
def Store.Reachable (ε : Type) (store : Store) : Prop :=
  ∃ steps : List (Step ε), Store.empty.runAll steps = store

namespace Store

variable {ε : Type} {store : Store} {steps : List (Step ε)}

theorem runAll_filed (h : store.Filed) (steps : List (Step ε)) : (store.runAll steps).Filed :=
  List.foldlRecOn (motive := Filed) steps _ h fun _ h _ _ => Step.filed_after h

theorem runAll_created {config : Config} {registry : Registry ε} {id : ServiceId} {now : Instant}
    {r : CreateRequest} {subs : List SubRequest} {s : Service}
    (h : Manager.Created (.new config registry) store id now r subs s) (steps : List (Step ε)) :
    store.runAll (.command config registry (.create id now r) :: steps) =
      (store.putService s).runAll steps :=
  congrArg (fun outcome => outcome.2.runAll steps) h.outcome

theorem reachable_ofTopology (t : Topology) : (ofTopology t).Reachable ε :=
  ⟨[.writeTopology t], rfl⟩

theorem Reachable.filed (h : store.Reachable ε) : store.Filed := by
  obtain ⟨steps, rfl⟩ := h
  exact runAll_filed (filed_of_none getService_empty) steps

/-- A topology stays as it is until it is written anew. -/
theorem readTopology_runAll {id : TopologyId} (h : ∀ step ∈ steps, ¬ step.Writes id) :
    (store.runAll steps).readTopology id = store.readTopology id :=
  List.foldlRecOn (motive := fun after : Store => after.readTopology id = store.readTopology id)
    steps _ rfl fun _ hkept step hstep => (Step.readTopology_after (h step hstep)).trans hkept

end Store

end Connectivity
