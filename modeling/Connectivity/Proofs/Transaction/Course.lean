import Connectivity.Driver.Recording
import Connectivity.Proofs.Driver.Calls
import Connectivity.Proofs.Transaction.Order

/-!
# The course of a transaction

The drivers are called in the order of execution, up to the first one that fails. If none fails then
all are told to commit in that order. Else all are told to roll back, called or not.
-/
namespace Connectivity

variable {ε : Type}

namespace Transaction

variable {op : Operation} {deadline : Deadline}

/-- The calls of a sweep, with the drivers that received them. -/
def Sweep.calls (s : Sweep ε) : List (InstanceId × DriverOp) := s.trace.filterMap Occurrence.call?

/-- The driver at a position fails, and all before it succeed. -/
structure FirstFailure (op : Operation) (deadline : Deadline) (drivers : List (Instance ε))
    (position : Nat) (i : Instance ε) (e : DriverError) : Prop where
  at_position : drivers[position]? = some i
  before : ∀ j ∈ drivers.take position, j.driver.Succeeds op deadline
  fails : i.driver.Fails op deadline e

/-- Either no driver fails, or there is a first one that does. -/
theorem succeed_or_firstFailure (op : Operation) (deadline : Deadline)
    (drivers : List (Instance ε)) :
    (∀ i ∈ drivers, i.driver.Succeeds op deadline) ∨
      ∃ position i e, FirstFailure op deadline drivers position i e := by
  induction drivers with
  | nil => exact .inl nofun
  | cons i rest ih =>
      rcases i.driver.succeeds_or_fails op deadline with hsucceeds | ⟨e, hfails⟩
      · rcases ih with hall | ⟨position, j, e, hfirst⟩
        · exact .inl (List.forall_mem_cons.2 ⟨hsucceeds, hall⟩)
        · refine .inr ⟨position + 1, j, e, hfirst.at_position, ?_, hfirst.fails⟩
          rw [List.take_succ_cons]
          exact List.forall_mem_cons.2 ⟨hsucceeds, hfirst.before⟩
      · exact .inr ⟨0, i, e, rfl, nofun, hfails⟩

theorem callAll_cons_of_success {i : Instance ε} (h : i.driver.Succeeds op deadline) (index : Nat)
    (rest : List (Instance ε)) :
    (callAll op deadline index (i :: rest)).failure =
        (callAll op deadline (index + 1) rest).failure ∧
      (callAll op deadline index (i :: rest)).calls =
        (i.id, op.call) :: (callAll op deadline (index + 1) rest).calls := by
  simp only [callAll, h.invoke, Sweep.calls]
  rw [List.filterMap_append, Occurrence.filterMap_called fun _ => rfl]
  exact ⟨trivial, rfl⟩

theorem callAll_cons_of_failure {i : Instance ε} {e : DriverError}
    (h : i.driver.Fails op deadline e) (index : Nat) (rest : List (Instance ε)) :
    (callAll op deadline index (i :: rest)).failure =
        some ⟨index, i.driver.name, i.driver.priority, e⟩ ∧
      (callAll op deadline index (i :: rest)).calls = [(i.id, op.call)] := by
  simp only [callAll, h.invoke, Sweep.calls]
  exact ⟨trivial, Occurrence.filterMap_called (fun _ => rfl) _ _ _⟩

/-- If no driver fails then all are called. -/
theorem callAll_of_success {drivers : List (Instance ε)}
    (h : ∀ i ∈ drivers, i.driver.Succeeds op deadline) (index : Nat) :
    (callAll op deadline index drivers).failure = none ∧
      (callAll op deadline index drivers).calls = drivers.map fun i => (i.id, op.call) := by
  induction drivers generalizing index with
  | nil => exact ⟨rfl, rfl⟩
  | cons i rest ih =>
      obtain ⟨hsucceeds, hall⟩ := List.forall_mem_cons.1 h
      obtain ⟨hfailure, hcalls⟩ := callAll_cons_of_success hsucceeds index rest
      rw [hfailure, hcalls, List.map_cons]
      exact ⟨(ih hall (index + 1)).1, congrArg _ (ih hall (index + 1)).2⟩

/-- The drivers are called up to the first one that fails, and it is the failure. -/
theorem callAll_of_firstFailure {drivers : List (Instance ε)} {position : Nat} {i : Instance ε}
    {e : DriverError} (h : FirstFailure op deadline drivers position i e) (index : Nat) :
    (callAll op deadline index drivers).failure =
        some ⟨index + position, i.driver.name, i.driver.priority, e⟩ ∧
      (callAll op deadline index drivers).calls =
        (drivers.take (position + 1)).map fun i => (i.id, op.call) := by
  induction drivers generalizing index position with
  | nil => exact nomatch h.at_position
  | cons j rest ih =>
      cases position with
      | zero =>
          cases h.at_position
          exact callAll_cons_of_failure h.fails index rest
      | succ position =>
          have hbefore := h.before
          rw [List.take_succ_cons] at hbefore
          obtain ⟨hsucceeds, hbefore⟩ := List.forall_mem_cons.1 hbefore
          obtain ⟨hfailure, hcalls⟩ := callAll_cons_of_success hsucceeds index rest
          obtain ⟨hrest, htrace⟩ := ih ⟨h.at_position, hbefore, h.fails⟩ (index + 1)
          rw [hfailure, hcalls, hrest, htrace, List.take_succ_cons, List.map_cons, Nat.add_assoc,
            Nat.add_comm 1]
          exact ⟨rfl, rfl⟩

/-- All drivers are settled, however long each of them takes. -/
theorem calls_settleAll (kind : Settlement) (deadline : Deadline) (drivers : List (Instance ε)) :
    (settleAll kind deadline drivers).calls = drivers.map fun i => (i.id, kind.call) := by
  induction drivers with
  | nil => rfl
  | cons i rest ih =>
      show (_ ++ (settleAll kind deadline rest).trace).filterMap Occurrence.call? = _
      rw [List.filterMap_append, Occurrence.filterMap_called fun _ => rfl, ← Sweep.calls, ih]
      rfl

/-- Drivers are added in turn to a transaction that is being built. -/
theorem foldlM_add {t : Transaction ε} (h : t.state = .building) (added : List (Instance ε)) :
    added.foldlM add t = .ok { t with drivers := t.drivers ++ added } := by
  induction added generalizing t with
  | nil =>
      rw [List.append_nil]
      rfl
  | cons i added ih =>
      have hrest := ih (t := { t with drivers := t.drivers ++ [i] }) h
      rw [List.append_assoc, List.singleton_append] at hrest
      rw [List.foldlM_cons, add, if_pos h]
      exact hrest

/-- The drivers are called in order and then told to commit in that order. -/
structure Commits (t : Transaction ε) (op : Operation) (drivers : List (Instance ε)) : Prop where
  calls : (t.run op).2.calls =
    (drivers.map fun i => (i.id, op.call)) ++ drivers.map fun i => (i.id, .commit)
  state : (t.run op).1.state = .committed
  outcome : (t.run op).2.result = .ok ⟨.committed, none⟩
  accepted : (t.run op).2.result.bind TransactionOutcome.toExcept = .ok ()

/-- The drivers are called up to driver `i` at a position, and then all are told to roll back. -/
structure RollsBack (t : Transaction ε) (op : Operation) (order : RollbackOrder)
    (drivers : List (Instance ε)) (position : Nat) (i : Instance ε) (e : DriverError) : Prop where
  calls : (t.run op).2.calls = ((drivers.take (position + 1)).map fun i => (i.id, op.call)) ++
    (rollbackSequence order drivers).map fun i => (i.id, .rollback)
  state : (t.run op).1.state = .rolledBack
  outcome : (t.run op).2.result =
    .ok ⟨.rolledBack, some ⟨position, i.driver.name, i.driver.priority, e⟩⟩
  rejected : (t.run op).2.result.bind TransactionOutcome.toExcept =
    .error (.activationFailed position e)

theorem run_of_building {t : Transaction ε} (h : t.state = .building) (hne : t.drivers ≠ [])
    (op : Operation) : t.run op = t.start.finish op := by
  rw [run, if_neg (not_not.2 h), if_neg (by rwa [List.isEmpty_iff])]

theorem finish_of_success {t : Transaction ε}
    (h : (callAll op t.deadline 0 t.drivers).failure = none) :
    (t.finish op).1.state = .committed ∧ (t.finish op).2.result = .ok ⟨.committed, none⟩ ∧
      (t.finish op).2.calls = (callAll op t.deadline 0 t.drivers).calls ++
        t.drivers.map fun i => (i.id, .commit) := by
  simp only [finish, h]
  refine ⟨trivial, trivial, ?_⟩
  exact List.filterMap_append.trans
    (congrArg ((callAll op t.deadline 0 t.drivers).calls ++ ·) (calls_settleAll .commit _ _))

theorem finish_of_failure {t : Transaction ε} {f : TransactionFailure}
    (h : (callAll op t.deadline 0 t.drivers).failure = some f) :
    (t.finish op).1.state = .rolledBack ∧ (t.finish op).2.result = .ok ⟨.rolledBack, some f⟩ ∧
      (t.finish op).2.calls = (callAll op t.deadline 0 t.drivers).calls ++
        (rollbackSequence t.rollbackOrder t.drivers).map fun i => (i.id, .rollback) := by
  simp only [finish, h]
  refine ⟨trivial, trivial, ?_⟩
  exact List.filterMap_append.trans
    (congrArg ((callAll op t.deadline 0 t.drivers).calls ++ ·) (calls_settleAll .rollback _ _))

theorem commits_of_success {t : Transaction ε} (h : t.state = .building) (hne : t.drivers ≠ [])
    (hall : ∀ i ∈ executionOrder t.drivers, i.driver.Succeeds op t.deadline) :
    Commits t op (executionOrder t.drivers) := by
  have hrun := run_of_building h hne op
  obtain ⟨hnone, htrace⟩ := callAll_of_success hall 0
  obtain ⟨hstate, hresult, hcalls⟩ := finish_of_success (t := t.start) hnone
  constructor
  · rw [hrun, hcalls, ← htrace]
    rfl
  · rw [hrun, hstate]
  · rw [hrun, hresult]
  · rw [hrun, hresult]
    rfl

theorem rollsBack_of_firstFailure {t : Transaction ε} (h : t.state = .building)
    (hne : t.drivers ≠ []) {position : Nat} {i : Instance ε} {e : DriverError}
    (hfirst : FirstFailure op t.deadline (executionOrder t.drivers) position i e) :
    RollsBack t op t.rollbackOrder (executionOrder t.drivers) position i e := by
  have hrun := run_of_building h hne op
  obtain ⟨hsome, htrace⟩ := callAll_of_firstFailure hfirst 0
  rw [Nat.zero_add] at hsome
  obtain ⟨hstate, hresult, hcalls⟩ := finish_of_failure (t := t.start) hsome
  constructor
  · rw [hrun, hcalls, ← htrace]
    rfl
  · rw [hrun, hstate]
  · rw [hrun, hresult]
  · rw [hrun, hresult]
    rfl

end Transaction

end Connectivity
