import Connectivity.Proofs.Driver.Life
import Connectivity.Proofs.Driver.Selection
import Connectivity.Proofs.Driver.Target
import Connectivity.Proofs.Transaction.Course
import Connectivity.Service.Manager
import Mathlib.Data.List.Range

/-!
# Driving the devices of a service

Drivers are first found and bound, one for each sub-request; an error on the way comes before any
device is touched. Then they run in one transaction. So there are three ways in which this ends: it
is refused with drivers bound at most, it is undone on all devices, or it is done on all of them.
The drivers are told apart by the positions of their sub-requests. Each of them is the one that the
registry selects there, and is handed that sub-request and no other.
-/
namespace Connectivity

namespace Activity

variable {ε α β : Type} {a : Activity ε α} {x : α} {calls calls' : List (InstanceId × DriverOp)}
  {assigned assigned' : List (InstanceId × Assignment)}

theorem result_andThen_of_ok (h : a.result = .ok x) (next : α → Activity ε β) :
    (a.andThen next).result = (next x).result := by rw [andThen_of_ok h]

/-- All that drivers receive: their calls, and what they are handed. -/
structure Shows (a : Activity ε α) (calls : List (InstanceId × DriverOp))
    (assigned : List (InstanceId × Assignment)) : Prop where
  calls : a.calls = calls
  assignments : a.assignments = assigned

theorem shows_ofExcept (result : Except Error α) : (ofExcept result : Activity ε α).Shows [] [] :=
  ⟨rfl, rfl⟩

theorem Shows.andThen (ha : a.Shows calls assigned) (h : a.result = .ok x)
    (next : α → Activity ε β) (hnext : (next x).Shows calls' assigned') :
    (a.andThen next).Shows (calls ++ calls') (assigned ++ assigned') := by
  rw [andThen_of_ok h, ← ha.calls, ← ha.assignments, ← hnext.calls, ← hnext.assignments]
  exact ⟨List.filterMap_append, List.filterMap_append⟩

theorem Shows.andThen_of_error (ha : a.Shows calls assigned) {e : Error}
    (h : a.result = .error e) (next : α → Activity ε β) :
    (a.andThen next).Shows calls assigned := by
  rw [Activity.andThen_of_error h]
  exact ⟨ha.calls, ha.assignments⟩

end Activity

/-- The error does not come of running drivers. -/
def Error.BeforeRun (e : Error) : Prop :=
  ∀ position source, e ≠ .activationFailed position source

namespace Registry

variable {ε : Type} {r : Registry ε} {slot : Nat} {s : SubRequest} {context : Context}

/-- Builders are asked, but drivers receive nothing. -/
theorem selectFor_shows (r : Registry ε) (slot : Nat) (target : Target) (context : Context) :
    (r.selectFor slot target context).Shows [] [] := by
  have hnone : ∀ {β : Type} {read : Occurrence ε → Option β},
      (∀ builder, read (.probed slot builder) = none) →
      (∀ event, read (.emitted event) = none) →
      (r.selectFor slot target context).trace.filterMap read = [] := by
    intro β read hprobed hemitted
    refine List.filterMap_eq_nil_iff.2 fun o ho => ?_
    obtain ⟨answer, hanswer, ho⟩ := List.mem_flatMap.1 ho
    obtain ⟨b, -, rfl⟩ := List.mem_map.1 hanswer
    rcases List.mem_cons.1 ho with rfl | ho
    · exact hprobed b.id
    · obtain ⟨event, -, rfl⟩ := List.mem_map.1 ho
      exact hemitted event
  exact ⟨hnone (fun _ => rfl) fun _ => rfl, hnone (fun _ => rfl) fun _ => rfl⟩

theorem select_shows (r : Registry ε) (slot : Nat) (s : SubRequest) (context : Context) :
    (r.select slot s context).Shows [] [] := by
  unfold select
  split
  · exact Activity.shows_ofExcept _
  · exact r.selectFor_shows slot _ context

/-- The driver selected is an answer of some builder to this question. -/
theorem slot_of_select {i : Instance ε} (h : (r.select slot s context).result = .ok i) :
    i.id.slot = slot := by
  unfold select at h
  split at h
  case h_1 => exact nomatch h
  case h_2 target _ =>
    have hone : r.candidates slot target context = [i] := choose_eq_ok_iff.1 h
    obtain ⟨id, b, d, -, -, rfl⟩ := mem_candidates.1 (hone ▸ List.mem_singleton_self i)
    rfl

theorem beforeRun_of_select {e : Error} (h : (r.select slot s context).result = .error e) :
    e.BeforeRun := by
  rintro position source rfl
  unfold select at h
  split at h
  case h_1 => exact nomatch h
  case h_2 => exact nomatch isSelectionError_of_choose h

end Registry

namespace Instance

variable {ε : Type} (i : Instance ε) (node : NodeId) (a : Assignment)

theorem bindTo_shows : (i.bindTo node a).Shows [(i.id, .bind)] [(i.id, a)] where
  calls := by
    have hnone : ((i.driver.bind a).1.map Occurrence.emitted).filterMap Occurrence.call? = [] :=
      Occurrence.filterMap_emitted (fun _ => rfl) _
    exact congrArg ((i.id, DriverOp.bind) :: ·) hnone
  assignments := by
    have hnone : ((i.driver.bind a).1.map Occurrence.emitted).filterMap Occurrence.assignment? =
        [] := Occurrence.filterMap_emitted (fun _ => rfl) _
    exact congrArg ((i.id, a) :: ·) hnone

theorem bindTo_cases : (i.bindTo node a).result = .ok () ∨
    ∃ e : Error, (i.bindTo node a).result = .error e ∧ e.BeforeRun := by
  cases h : (i.driver.bind a).2 with
  | ok => exact .inl (by simp [bindTo, h, Except.mapError])
  | error source =>
      refine .inr ⟨.driverInitialization node source, ?_, nofun⟩
      simp [bindTo, h, Except.mapError]

end Instance

namespace Manager

variable {σ ε : Type} (m : Manager σ ε) (serviceId : ServiceId) (context : Context)

/-- Drivers are engaged for the first of some sub-requests, from position `slot` on, with what they
are assigned to. -/
structure Engaged (slot : Nat) (subs : List SubRequest)
    (assigned : List (InstanceId × Assignment)) (drivers : List (Instance ε)) : Prop where
  slots : drivers.map (·.id.slot) = List.range' slot drivers.length
  selected : List.Forall₂ (fun i s => (m.registry.select i.id.slot s context).result = .ok i)
    drivers (subs.take drivers.length)
  assigned : assigned =
    List.zipWith (fun i s => (i.id, ⟨s.endpoints, serviceId, context⟩)) drivers subs

variable {m serviceId context} in
theorem Engaged.nodup {slot : Nat} {subs : List SubRequest}
    {assigned : List (InstanceId × Assignment)} {drivers : List (Instance ε)}
    (h : Engaged m serviceId context slot subs assigned drivers) :
    (drivers.map (·.id)).Nodup := by
  -- drivers of different sub-requests differ in their positions, whatever their builders
  refine List.Nodup.of_map InstanceId.slot ?_
  rw [List.map_map]
  exact h.slots ▸ List.nodup_range'

theorem Engaged.none {slot : Nat} {subs : List SubRequest} :
    Engaged m serviceId context slot subs [] [] := ⟨rfl, .nil, rfl⟩

variable {m serviceId context} in
theorem Engaged.cons {slot : Nat} {s : SubRequest} {subs : List SubRequest} {i : Instance ε}
    {assigned : List (InstanceId × Assignment)} {drivers : List (Instance ε)}
    (hslot : i.id.slot = slot) (hselected : (m.registry.select slot s context).result = .ok i)
    (h : Engaged m serviceId context (slot + 1) subs assigned drivers) :
    Engaged m serviceId context slot (s :: subs)
      ((i.id, ⟨s.endpoints, serviceId, context⟩) :: assigned) (i :: drivers) where
  slots := by simp [h.slots, hslot, List.range'_succ]
  selected := by
    rw [List.length_cons, List.take_succ_cons]
    exact .cons (hslot ▸ hselected) h.selected
  assigned := by
    rw [h.assigned]
    rfl

/-- Either no driver is selected, or one is and it is bound, which it may refuse. -/
theorem prepareOne_engages (slot : Nat) (s : SubRequest) :
    ((m.prepareOne serviceId context slot s).Shows [] [] ∧
        ∃ e : Error, (m.prepareOne serviceId context slot s).result = .error e ∧ e.BeforeRun) ∨
      ∃ i, i.id.slot = slot ∧ (m.registry.select slot s context).result = .ok i ∧
        (m.prepareOne serviceId context slot s).Shows [(i.id, .bind)]
          [(i.id, ⟨s.endpoints, serviceId, context⟩)] ∧
        ((m.prepareOne serviceId context slot s).result = .ok i ∨
          ∃ e : Error, (m.prepareOne serviceId context slot s).result = .error e ∧
            e.BeforeRun) := by
  have hprepare : m.prepareOne serviceId context slot s =
      (m.registry.select slot s context).andThen fun i =>
        (i.bindTo s.nodeId ⟨s.endpoints, serviceId, context⟩).andThen fun _ =>
          .ofExcept (.ok i) := rfl
  rw [hprepare]
  have hquiet := m.registry.select_shows slot s context
  cases hselect : (m.registry.select slot s context).result with
  | error e =>
      refine .inl ⟨hquiet.andThen_of_error hselect _, e, ?_, Registry.beforeRun_of_select hselect⟩
      rw [Activity.andThen_of_error hselect]
  | ok i =>
      have hbound := i.bindTo_shows s.nodeId ⟨s.endpoints, serviceId, context⟩
      refine .inr ⟨i, Registry.slot_of_select hselect, rfl, ?_⟩
      rw [Activity.result_andThen_of_ok hselect]
      rcases i.bindTo_cases s.nodeId ⟨s.endpoints, serviceId, context⟩ with
        hbind | ⟨e, hbind, he⟩
      · refine ⟨hquiet.andThen hselect _ (hbound.andThen hbind _ (Activity.shows_ofExcept _)),
          .inl ?_⟩
        rw [Activity.result_andThen_of_ok hbind]
        rfl
      · refine ⟨hquiet.andThen hselect _ (hbound.andThen_of_error hbind _), .inr ⟨e, ?_, he⟩⟩
        rw [Activity.andThen_of_error hbind]

/-- Drivers are bound one after another until one is not found or refuses; then no device has been
touched. -/
theorem prepareFrom_engages {t : Transaction ε} (h : t.state = .building) (slot : Nat)
    (subs : List SubRequest) :
    ∃ drivers assigned, Engaged m serviceId context slot subs assigned drivers ∧
      (m.prepareFrom serviceId context slot subs t).Shows (callEach .bind drivers) assigned ∧
      ((m.prepareFrom serviceId context slot subs t).result =
          .ok { t with drivers := t.drivers ++ drivers } ∧ drivers.length = subs.length ∨
        ∃ e : Error, (m.prepareFrom serviceId context slot subs t).result = .error e ∧
          e.BeforeRun) := by
  induction subs generalizing slot t with
  | nil =>
      refine ⟨[], [], .none m serviceId context, Activity.shows_ofExcept _, .inl ⟨?_, rfl⟩⟩
      rw [List.append_nil]
      rfl
  | cons s subs ih =>
      have hprepare : m.prepareFrom serviceId context slot (s :: subs) t =
          (m.prepareOne serviceId context slot s).andThen fun i =>
            (Activity.ofExcept (t.add i)).andThen
              (m.prepareFrom serviceId context (slot + 1) subs) := rfl
      rw [hprepare]
      rcases m.prepareOne_engages serviceId context slot s with
        ⟨hshows, e, he, hbefore⟩ | ⟨i, hslot, hselected, hshows, hi | ⟨e, he, hbefore⟩⟩
      · refine ⟨[], [], .none m serviceId context, hshows.andThen_of_error he _,
          .inr ⟨e, ?_, hbefore⟩⟩
        rw [Activity.andThen_of_error he]
      · have hadded : (Activity.ofExcept (t.add i) : Activity ε _).result =
            .ok { t with drivers := t.drivers ++ [i] } := if_pos h
        obtain ⟨drivers, assigned, hengaged, hrest, hresult⟩ :=
          ih (t := { t with drivers := t.drivers ++ [i] }) h (slot + 1)
        rw [Activity.result_andThen_of_ok hi, Activity.result_andThen_of_ok hadded]
        refine ⟨i :: drivers, _, .cons hslot hselected hengaged,
          hshows.andThen hi _ ((Activity.shows_ofExcept _).andThen hadded _ hrest), ?_⟩
        refine hresult.imp_left fun ⟨hok, hlength⟩ => ⟨?_, congrArg (· + 1) hlength⟩
        rw [hok, List.append_assoc]
        rfl
      · refine ⟨[i], _, .cons hslot hselected (.none m serviceId context),
          hshows.andThen_of_error he _, .inr ⟨e, ?_, hbefore⟩⟩
        rw [Activity.andThen_of_error he]

end Manager

namespace Transaction

variable {ε : Type} {op : Operation} {deadline : Deadline}

theorem assignments_callAll (drivers : List (Instance ε)) (index : Nat) :
    (callAll op deadline index drivers).trace.filterMap Occurrence.assignment? = [] := by
  induction drivers generalizing index with
  | nil => rfl
  | cons i rest ih =>
      simp only [callAll]
      split
      · exact Occurrence.filterMap_called (fun _ => rfl) _ _ _
      · rw [List.filterMap_append, Occurrence.filterMap_called fun _ => rfl, ih (index + 1)]
        rfl

theorem assignments_settleAll (kind : Settlement) (drivers : List (Instance ε)) :
    (settleAll kind deadline drivers).trace.filterMap Occurrence.assignment? = [] := by
  induction drivers with
  | nil => rfl
  | cons i rest ih =>
      show (_ ++ (settleAll kind deadline rest).trace).filterMap Occurrence.assignment? = []
      rw [List.filterMap_append, Occurrence.filterMap_called fun _ => rfl, ih]
      rfl

/-- Drivers are handed nothing when they run. -/
theorem assignments_run (t : Transaction ε) (op : Operation) : (t.run op).2.assignments = [] := by
  unfold run
  split
  · rfl
  · split
    · rfl
    · simp only [finish]
      split <;>
        rw [Activity.assignments, List.filterMap_append, assignments_callAll,
          assignments_settleAll] <;>
        rfl

/-- The run of a transaction, which is an error if it is rolled back. -/
def conclusion (t : Transaction ε) (op : Operation) : Activity ε Unit :=
  (t.run op).2.andThen fun outcome => .ofExcept outcome.toExcept

theorem conclusion_of_ok {t : Transaction ε} {outcome : TransactionOutcome}
    (h : (t.run op).2.result = .ok outcome) :
    (t.conclusion op).result = outcome.toExcept ∧
      (t.conclusion op).Shows (t.run op).2.calls [] := by
  have hshows := Activity.Shows.andThen ⟨rfl, t.assignments_run op⟩ h
    (fun outcome => .ofExcept outcome.toExcept) (Activity.shows_ofExcept outcome.toExcept)
  rw [List.append_nil] at hshows
  exact ⟨Activity.result_andThen_of_ok h _, hshows⟩

end Transaction

/-- How drivers that were engaged for sub-requests are driven, with the calls that they receive from
the time they are bound: some driver was missing or refused, or they were run and rolled back after
the first failure, or all of `count` drivers have succeeded and committed. -/
inductive Driven {ε : Type} (deadline : Deadline) (op : Operation) (count : Nat)
    (drivers : List (Instance ε)) : Except Error Unit → List (InstanceId × DriverOp) → Prop where
  | refused {e : Error} (before : e.BeforeRun) :
      Driven deadline op count drivers (.error e) (callEach .bind drivers)
  | undone (order : RollbackOrder) (position : Nat) (e : DriverError) :
      Driven deadline op count drivers (.error (.activationFailed position e))
        (callEach .bind drivers ++
          (callEach op.call ((Transaction.executionOrder drivers).take (position + 1)) ++
            callEach .rollback (Transaction.rollbackSequence order
              (Transaction.executionOrder drivers))))
  | done (complete : drivers.length = count)
      (succeed : ∀ i ∈ drivers, i.driver.Succeeds op deadline) :
      Driven deadline op count drivers (.ok ())
        (callEach .bind drivers ++
          (callEach op.call (Transaction.executionOrder drivers) ++
            callEach .commit (Transaction.executionOrder drivers)))

theorem Driven.length_of_ok {ε : Type} {deadline : Deadline} {op : Operation} {count : Nat}
    {drivers : List (Instance ε)} {calls : List (InstanceId × DriverOp)}
    (h : Driven deadline op count drivers (.ok ()) calls) : drivers.length = count := by
  cases h with
  | done complete => exact complete

/-- Once they are bound drivers are run, unless there are none. -/
theorem driven_conclusion {ε : Type} {t : Transaction ε} (h : t.state = .building)
    (op : Operation) :
    ∃ calls, (t.conclusion op).Shows calls [] ∧
      Driven t.deadline op t.drivers.length t.drivers (t.conclusion op).result
        (callEach .bind t.drivers ++ calls) := by
  by_cases hne : t.drivers = []
  · have hempty : t.run op =
        (t, .ofExcept (.error (.illegalState "at least one driver required"))) := by
      simp [Transaction.run, h, hne]
    have hconclusion : t.conclusion op =
        .ofExcept (.error (.illegalState "at least one driver required")) := by
      rw [Transaction.conclusion, hempty]
      rfl
    rw [hconclusion]
    refine ⟨[], Activity.shows_ofExcept _, ?_⟩
    rw [List.append_nil]
    exact .refused fun _ _ => Error.noConfusion
  · rcases Transaction.succeed_or_firstFailure op t.deadline
      (Transaction.executionOrder t.drivers) with hall | ⟨position, i, e, hfirst⟩
    · have hcommits := Transaction.commits_of_success h hne hall
      obtain ⟨hresult, hshows⟩ := Transaction.conclusion_of_ok hcommits.outcome
      rw [hcommits.calls] at hshows
      rw [hresult]
      refine ⟨_, hshows, .done rfl fun i hi => hall i ?_⟩
      exact (Transaction.executionOrder_perm t.drivers).mem_iff.2 hi
    · have hrolls := Transaction.rollsBack_of_firstFailure h hne hfirst
      obtain ⟨hresult, hshows⟩ := Transaction.conclusion_of_ok hrolls.outcome
      rw [hrolls.calls] at hshows
      rw [hresult]
      exact ⟨_, hshows, .undone t.rollbackOrder position e⟩

namespace Manager

variable {σ ε : Type} (m : Manager σ ε) (serviceId : ServiceId) (context : Context)

/-- The drivers that are engaged for sub-requests, and how they are driven. -/
theorem drive_driven (op : Operation) (subs : List SubRequest) :
    ∃ drivers, Engaged m serviceId context 0 subs
        (m.drive serviceId context op subs).assignments drivers ∧
      Driven m.config.deadline op subs.length drivers (m.drive serviceId context op subs).result
        (m.drive serviceId context op subs).calls := by
  have hdrive : m.drive serviceId context op subs =
      (m.prepareFrom serviceId context 0 subs (.ofConfig m.config)).andThen
        fun t => t.conclusion op := rfl
  obtain ⟨drivers, assigned, hengaged, hprepared, ⟨hok, hlength⟩ | ⟨e, he, hbefore⟩⟩ :=
    m.prepareFrom_engages serviceId context (t := .ofConfig m.config) rfl 0 subs
  · obtain ⟨calls, hshows, hdriven⟩ := driven_conclusion (t := { Transaction.ofConfig m.config with
      drivers := (Transaction.ofConfig m.config).drivers ++ drivers }) rfl op
    have hall := hprepared.andThen hok (fun t => t.conclusion op) hshows
    rw [List.append_nil] at hall
    rw [hdrive, hall.calls, hall.assignments, Activity.result_andThen_of_ok hok, ← hlength]
    exact ⟨drivers, hengaged, hdriven⟩
  · have hall := hprepared.andThen_of_error he fun t => t.conclusion op
    rw [hdrive, hall.calls, hall.assignments, Activity.andThen_of_error he]
    exact ⟨drivers, hengaged, .refused hbefore⟩

section CarryOut

variable {op : Operation} {subs : List SubRequest} {store : σ} {α : Type}

/-- The store is changed after the devices, if they have all committed. -/
theorem run_carryOut_of_ok (hdrive : (m.drive serviceId context op subs).result = .ok ())
    {change : σ → Except Error σ} {after : σ} (hchange : change store = .ok after) (x : α) :
    ((m.carryOut serviceId context op subs change).andThen fun _ => pure x).run store =
      ((m.drive serviceId context op subs).andThen fun _ => .ofExcept (.ok x), after) := by
  have hcarryOut : (m.carryOut serviceId context op subs change).run store =
      ((m.drive serviceId context op subs).andThen fun _ => .ofExcept (.ok ()), after) := by
    have hrun := Routine.run_ofActivity_andThen_of_ok hdrive (fun _ => Routine.write change) store
    rwa [Routine.run_write_of_ok hchange] at hrun
  rw [Routine.run_andThen_of_ok (by rw [hcarryOut, Activity.result_andThen_of_ok hdrive]; rfl),
    hcarryOut, Activity.andThen_assoc]
  rfl

/-- The store is left as it was if the devices are driven in vain. -/
theorem run_carryOut_of_error {e : Error}
    (hdrive : (m.drive serviceId context op subs).result = .error e)
    (change : σ → Except Error σ) (x : α) :
    ((m.carryOut serviceId context op subs change).andThen fun _ => pure x).run store =
      ((m.drive serviceId context op subs).andThen fun _ => .ofExcept (.ok x), store) := by
  have hcarryOut : (m.carryOut serviceId context op subs change).run store =
      (⟨(m.drive serviceId context op subs).trace, (m.drive serviceId context op subs).elapsed,
        .error e⟩, store) :=
    Routine.run_ofActivity_andThen_of_error hdrive (fun _ => Routine.write change) store
  rw [Routine.run_andThen_of_error (by rw [hcarryOut]), hcarryOut,
    Activity.andThen_of_error hdrive]

/-- Where the store can be changed, nothing is to be seen but the course of the devices. -/
theorem course_carryOut {change : σ → Except Error σ} (h : ∃ after, change store = .ok after)
    (x : α) :
    (((m.carryOut serviceId context op subs change).andThen fun _ => pure x).run store).1 =
      (m.drive serviceId context op subs).andThen fun _ => .ofExcept (.ok x) := by
  obtain ⟨after, h⟩ := h
  cases hdrive : (m.drive serviceId context op subs).result with
  | error e => rw [m.run_carryOut_of_error serviceId context hdrive]
  | ok => rw [m.run_carryOut_of_ok serviceId context hdrive h]

end CarryOut

end Manager

end Connectivity
