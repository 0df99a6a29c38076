import Connectivity.Proofs.Service.Effect
import Connectivity.Proofs.Service.Engagement
import Connectivity.Topology.Sample

/-!
# All or nothing

A command decides from what it reads, then drives the devices, and writes to the store last. So an
error leaves the store as it was, and every device that was touched is rolled back.
-/
namespace Connectivity

/-- After an error the store is as it was, and no device is changed: none has committed, all that
were called are rolled back, and none was called unless the error is the failure of one. -/
structure Undone {σ ε α : Type} (store : σ) (outcome : Activity ε α × σ) (e : Error) : Prop where
  store_eq : outcome.2 = store
  not_committed : ∀ id, .commit ∉ outcome.1.callsOf id
  rolled_back : ∀ id (op : Operation), op.call ∈ outcome.1.callsOf id →
    (outcome.1.callsOf id).count .rollback = 1
  untouched : (∀ position source, e ≠ .activationFailed position source) →
    ∀ id, ∀ op ∈ outcome.1.callsOf id, op = .bind

/-- The outcome is free of error, or undone. -/
def AllOrNothing {σ ε α : Type} (store : σ) (outcome : Activity ε α × σ) : Prop :=
  ∀ e, outcome.1.result = .error e → Undone store outcome e

section AllOrNothing

variable {σ ε α β : Type} {store : σ}

/-- Where no driver is called there is nothing to undo. -/
theorem undone_of_no_calls {a : Activity ε α} (h : a.calls = []) (e : Error) :
    Undone store (a, store) e := by
  have hnone : ∀ id, a.callsOf id = [] := fun id => by rw [Activity.callsOf, h, List.filterMap_nil]
  constructor
  case store_eq => rfl
  all_goals simp [hnone]

theorem allOrNothing_read {look : σ → Except Error α} {next : α → Routine σ ε β}
    (h : ∀ x, look store = .ok x → AllOrNothing store ((next x).run store)) :
    AllOrNothing store (((Routine.read look).andThen next).run store) := by
  cases hlook : look store with
  | ok x =>
      rw [Routine.run_read_andThen_of_ok hlook]
      exact h x hlook
  | error e =>
      rw [Routine.run_read_andThen_of_error hlook]
      intro e' _
      exact undone_of_no_calls rfl e'

/-- A write that cannot fail is the last thing that is done. -/
theorem allOrNothing_write {change : σ → Except Error σ} (h : ∃ after, change store = .ok after)
    (x : α) :
    AllOrNothing store
      (((Routine.write change).andThen fun _ => pure x : Routine σ ε α).run store) := by
  obtain ⟨after, h⟩ := h
  have hwrite : ((Routine.write change : Routine σ ε Unit).run store).1.result = .ok () := by
    rw [Routine.run_write_of_ok h]
    rfl
  intro e he
  rw [Routine.run_andThen_of_ok hwrite, Activity.result_andThen_of_ok hwrite] at he
  exact nomatch he

variable (m : Manager σ ε) (serviceId : ServiceId) (context : Context) (op : Operation)
  (subs : List SubRequest)

/-- Drivers that are driven in vain are left unchanged. -/
theorem undone_of_drive {a : Activity ε α} {e : Error}
    (hcalls : a.calls = (m.drive serviceId context op subs).calls)
    (h : (m.drive serviceId context op subs).result = .error e) : Undone store (a, store) e := by
  obtain ⟨drivers, hengaged, hdriven⟩ := m.drive_driven serviceId context op subs
  rw [h, ← hcalls] at hdriven
  have hlife : ∀ id, Life (a.callsOf id) := by
    intro id
    rw [Activity.callsOf_eq_entriesOf]
    exact hdriven.life hengaged.nodup id
  have hcommit : ∀ id, .commit ∉ a.callsOf id := by
    intro id hmem
    rw [Activity.callsOf_eq_entriesOf, mem_entriesOf] at hmem
    exact hdriven.commit_notMem id hmem
  constructor
  case store_eq => rfl
  case not_committed => exact hcommit
  case rolled_back => exact fun id op hop => (hlife id).count_rollback hop (hcommit id)
  case untouched =>
    intro he id op hop
    rw [Activity.callsOf_eq_entriesOf, mem_entriesOf] at hop
    exact hdriven.eq_bind_of_call he hop

/-- The devices are driven first, and then the write cannot fail. -/
theorem allOrNothing_carryOut {change : σ → Except Error σ}
    (h : ∃ after, change store = .ok after) (x : α) :
    AllOrNothing store
      (((m.carryOut serviceId context op subs change).andThen fun _ => pure x).run store) := by
  obtain ⟨after, h⟩ := h
  intro e he
  cases hdrive : (m.drive serviceId context op subs).result with
  | ok =>
      rw [m.run_carryOut_of_ok serviceId context hdrive h,
        Activity.result_andThen_of_ok hdrive] at he
      exact nomatch he
  | error e' =>
      rw [m.run_carryOut_of_error serviceId context hdrive] at he ⊢
      rw [Activity.andThen_of_error hdrive] at he
      cases he
      exact undone_of_drive m serviceId context op subs
        (Activity.Shows.andThen_of_error ⟨rfl, rfl⟩ hdrive _).calls hdrive

end AllOrNothing

theorem perform_allOrNothing {ε : Type} (m : Manager Store ε) (c : Command) (store : Store) :
    AllOrNothing store ((m.perform c).run store) := by
  cases c with
  | create id now r =>
      simp only [Manager.perform, Manager.creation, Routine.bind_eq_andThen]
      refine allOrNothing_read fun _ _ => ?_
      refine allOrNothing_read fun subs _ => ?_
      refine allOrNothing_carryOut m _ _ _ _ ?_ _
      exact ⟨_, rfl⟩
  | updateEndpoint id e =>
      simp only [Manager.perform, Manager.update, Manager.updateRecord, Routine.bind_eq_andThen]
      refine allOrNothing_read fun s _ => ?_
      refine allOrNothing_read fun _ _ => ?_
      refine allOrNothing_read fun t _ => ?_
      refine allOrNothing_read fun sub _ => ?_
      refine allOrNothing_carryOut m _ _ _ _ ?_ _
      exact ⟨_, rfl⟩
  | delete id =>
      simp only [Manager.perform, Manager.deletion, Routine.bind_eq_andThen]
      refine allOrNothing_read fun s _ => ?_
      unfold Manager.dismantle
      split
      · refine allOrNothing_write ?_ s
        exact ⟨_, rfl⟩
      · refine allOrNothing_carryOut m _ _ _ _ ?_ _
        exact ⟨_, rfl⟩

/-- A command that fails leaves the store as it was and all devices unchanged. -/
theorem perform_undone {ε : Type} (m : Manager Store ε) (c : Command) (store : Store) {e : Error}
    (h : ((m.perform c).run store).1.result = .error e) :
    Undone store ((m.perform c).run store) e :=
  perform_allOrNothing m c store e h

/-- A manager whose drivers all fail to update. -/
def unableToUpdate : Manager Store Notice :=
  .new {} (Registry.empty.register
    (RecordingBuilder.toBuilder ⟨"r", none, TargetKind.all, 0, some .update, none⟩)).1

/-- Two linked nodes, and a service that no device knows of. -/
def pairInService : Store :=
  (Store.ofTopology (Sample.linkedPair .enabled)).putService
    ⟨"s", .pointToPoint, false, [Sample.endPoint "n1:1", Sample.endPoint "n2:1"], [], .epoch⟩

/-- The driver that fails is itself rolled back. -/
theorem failed_update_undone :
    ((unableToUpdate.perform (.updateEndpoint "s" (Sample.endPoint "n1:1"))).run
        pairInService).1.result =
      .error (.activationFailed 0 (.device "r@n1" "Update failed")) ∧
    .update ∈ ((unableToUpdate.perform (.updateEndpoint "s" (Sample.endPoint "n1:1"))).run
        pairInService).1.callsOf ⟨0, "r"⟩ ∧
    Undone pairInService
      ((unableToUpdate.perform (.updateEndpoint "s" (Sample.endPoint "n1:1"))).run pairInService)
      (.activationFailed 0 (.device "r@n1" "Update failed")) := by
  have hfailed : ((unableToUpdate.perform (.updateEndpoint "s" (Sample.endPoint "n1:1"))).run
      pairInService).1.result =
        .error (.activationFailed 0 (.device "r@n1" "Update failed")) := by decide +kernel
  refine ⟨hfailed, by decide +kernel, ?_⟩
  exact perform_undone unableToUpdate _ pairInService hfailed

end Connectivity
