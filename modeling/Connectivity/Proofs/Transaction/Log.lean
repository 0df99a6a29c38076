import Connectivity.Proofs.Driver.CallLog
import Connectivity.Proofs.Transaction.Course

/-!
# The log of a transaction

A recording driver writes a call to the log before anything else, so that a call under a deadline is
in the log even if it is cut. The log of a transaction has calls of the operation first, and then
one settlement for each driver. So the checks on the log tell how the transaction ended.
-/
namespace Connectivity

/-- A call is no event, but events may come of it. -/
theorem Occurrence.filterMap_event?_called {ε : Type} (id : InstanceId) (op : DriverOp)
    (events : List ε) : (called id op :: events.map emitted).filterMap event? = events := by
  have hall : (events.map emitted).filterMap event? = events := by
    rw [List.filterMap_map]
    exact List.filterMap_some
  exact hall

theorem Notice.log_append (notices others : List Notice) :
    Notice.log (notices ++ others) = Notice.log notices ++ Notice.log others :=
  List.filterMap_append

/-- What a trace writes to the log. -/
def logIn (trace : List (Occurrence Notice)) : CallLog :=
  Notice.log (trace.filterMap Occurrence.event?)

theorem logIn_append (trace others : List (Occurrence Notice)) :
    logIn (trace ++ others) = logIn trace ++ logIn others := by
  rw [logIn, List.filterMap_append, Notice.log_append]
  rfl

namespace RecordingDriver

variable (d : RecordingDriver) (deadline : Deadline)

/-- The entry is written before the pause, however the pause ends. -/
theorem log_recordThen (op : DriverOp) (delay : Option Nat) :
    Notice.log (playActions deadline (d.recordThen op delay) 0).events = [⟨d.name, op⟩] := by
  have hpause : (playActions deadline (delay.map Action.pause).toList 0).events =
      ([] : List Notice) := by
    cases delay with
    | none => rfl
    | some millis =>
        cases deadline with
        | none => rfl
        | some limit =>
            simp only [Option.map_some, Option.toList_some, playActions]
            split <;> rfl
  show Notice.log (d.record op :: (playActions deadline _ 0).events) = _
  rw [hpause]
  rfl

theorem log_invoke (op : Operation) :
    Notice.log (d.toDriver.invoke op deadline).events = [⟨d.name, op.call⟩] :=
  d.log_recordThen deadline op.call _

theorem log_settle (kind : Settlement) :
    Notice.log (d.toDriver.settle kind deadline).events = [⟨d.name, kind.call⟩] := by
  cases kind with
  | commit => exact d.log_recordThen deadline .commit none
  | rollback => exact d.log_recordThen deadline .rollback d.rollbackDelay

end RecordingDriver

/-- The driver is a recording driver. -/
def Instance.Records (i : Instance Notice) : Prop :=
  ∃ d : RecordingDriver, i.driver = d.toDriver

namespace Instance

variable {i : Instance Notice}

theorem Records.logIn_invoke (h : i.Records) (op : Operation) (deadline : Deadline) :
    logIn (.called i.id op.call :: (i.driver.invoke op deadline).events.map .emitted) =
      [⟨i.driver.name, op.call⟩] := by
  obtain ⟨d, hd⟩ := h
  rw [logIn, Occurrence.filterMap_event?_called, hd]
  exact d.log_invoke deadline op

theorem Records.logIn_settle (h : i.Records) (kind : Settlement) (deadline : Deadline) :
    logIn (.called i.id kind.call :: (i.driver.settle kind deadline).events.map .emitted) =
      [⟨i.driver.name, kind.call⟩] := by
  obtain ⟨d, hd⟩ := h
  rw [logIn, Occurrence.filterMap_event?_called, hd]
  exact d.log_settle deadline kind

end Instance

/-- The state that a transaction is left in when its drivers are settled. -/
def Settlement.state : Settlement → TransactionState
  | commit => .committed
  | rollback => .rolledBack

namespace Transaction

variable {drivers : List (Instance Notice)} {op : Operation} {deadline : Deadline}

/-- Wherever the calls end, all that they write to the log are calls of the operation. -/
theorem op_of_mem_callAll (h : ∀ i ∈ drivers, i.Records) (index : Nat) :
    ∀ c ∈ logIn (callAll op deadline index drivers).trace, c.op = op.call := by
  induction drivers generalizing index with
  | nil => exact nofun
  | cons i rest ih =>
      obtain ⟨hi, hrest⟩ := List.forall_mem_cons.1 h
      have hfirst := hi.logIn_invoke op deadline
      intro c hc
      simp only [callAll] at hc
      split at hc
      case h_1 e _ =>
        rw [hfirst] at hc
        cases List.mem_singleton.1 hc
        rfl
      case h_2 =>
        rw [logIn_append, hfirst] at hc
        rcases List.mem_cons.1 hc with rfl | hc
        · rfl
        · exact ih hrest (index + 1) c hc

/-- Every driver writes its settlement to the log, in the order in which they are settled. -/
theorem logIn_settleAll (h : ∀ i ∈ drivers, i.Records) (kind : Settlement) :
    logIn (settleAll kind deadline drivers).trace =
      (drivers.map (·.driver.name)).map fun name => ⟨name, kind.call⟩ := by
  induction drivers with
  | nil => rfl
  | cons i rest ih =>
      obtain ⟨hi, hrest⟩ := List.forall_mem_cons.1 h
      show logIn (_ ++ (settleAll kind deadline rest).trace) = _
      rw [logIn_append, hi.logIn_settle, ih hrest]
      rfl

/-- A log of calls of an operation, and then of one settlement for each of the drivers named. -/
def LoggedAs (op : Operation) (kind : Settlement) (names : List String) (log : CallLog) : Prop :=
  ∃ calls : CallLog, ∃ settled : List String, (∀ c ∈ calls, c.op = op.call) ∧
    settled.Perm names ∧ log = calls ++ settled.map fun name => ⟨name, kind.call⟩

/-- The drivers of a started transaction write this, in whatever order they are settled. -/
theorem loggedAs_finish {t : Transaction Notice} (hrecords : ∀ i ∈ t.drivers, i.Records)
    (op : Operation) :
    ∃ kind failure, (t.finish op).2.result = .ok ⟨Settlement.state kind, failure⟩ ∧
      LoggedAs op kind (t.drivers.map (·.driver.name)) (Notice.log (t.finish op).2.events) := by
  have hcalls : ∀ c ∈ logIn (callAll op t.deadline 0 t.drivers).trace, c.op = op.call :=
    op_of_mem_callAll hrecords 0
  have hlogged : ∀ kind settled, settled.Perm t.drivers →
      LoggedAs op kind (t.drivers.map (·.driver.name))
        (logIn ((callAll op t.deadline 0 t.drivers).trace ++
          (settleAll kind t.deadline settled).trace)) := by
    intro kind settled hperm
    refine ⟨_, settled.map (·.driver.name), hcalls, hperm.map _, ?_⟩
    rw [logIn_append, logIn_settleAll fun i hi => hrecords i (hperm.mem_iff.1 hi)]
  cases hfailure : (callAll op t.deadline 0 t.drivers).failure with
  | none =>
      refine ⟨.commit, none, ?_, ?_⟩
      · simp only [finish, hfailure, Settlement.state]
      · simp only [finish, hfailure]
        exact hlogged .commit t.drivers (.refl _)
  | some f =>
      refine ⟨.rollback, some f, ?_, ?_⟩
      · simp only [finish, hfailure, Settlement.state]
      · simp only [finish, hfailure]
        exact hlogged .rollback _ (rollbackSequence_perm t.rollbackOrder t.drivers)

theorem loggedAs_run {t : Transaction Notice} (h : t.state = .building) (hne : t.drivers ≠ [])
    (hrecords : ∀ i ∈ t.drivers, i.Records) (op : Operation) :
    ∃ kind failure, (t.run op).2.result = .ok ⟨Settlement.state kind, failure⟩ ∧
      LoggedAs op kind (t.drivers.map (·.driver.name)) (Notice.log (t.run op).2.events) := by
  have hperm := executionOrder_perm t.drivers
  obtain ⟨kind, failure, hresult, calls, settled, hcalls, hsettled, hlog⟩ :=
    loggedAs_finish (t := t.start) (fun i hi => hrecords i (hperm.mem_iff.1 hi)) op
  rw [run_of_building h hne]
  exact ⟨kind, failure, hresult, calls, settled, hcalls, hsettled.trans (hperm.map _), hlog⟩

/-- The check for one settlement passes on the log of it, and the check for the other does not. -/
theorem LoggedAs.checks {op : Operation} {kind : Settlement} {names drivers : List String}
    {log : CallLog} (h : LoggedAs op kind names log) (hne : names ≠ []) (hnodup : names.Nodup)
    (hsame : drivers.Perm names) :
    (log.checkCommitted drivers = .ok () ↔ kind = .commit) ∧
      (log.checkRolledBack drivers = .ok () ↔ kind = .rollback) := by
  obtain ⟨calls, settled, hcalls, hsettled, rfl⟩ := h
  have hother : ∀ c ∈ calls, ∀ kind : Settlement, c.op ≠ kind.call := by
    intro c hc kind
    rw [hcalls c hc]
    exact op.call_ne_settlement kind
  have hne : settled ≠ [] := fun hnil => hne (hnil ▸ hsettled).symm.eq_nil
  have hnodup := hsettled.nodup_iff.2 hnodup
  have hsame := hsame.trans hsettled.symm
  cases kind with
  | commit =>
      have hpasses : CallLog.checkSettled (calls ++ settled.map fun name => ⟨name, .commit⟩)
          drivers .commit .rollback = .ok () :=
        CallLog.checkSettled_of_settled nofun
          (fun c hc => ⟨hother c hc .commit, hother c hc .rollback⟩) hnodup hsame
      exact ⟨iff_of_true hpasses rfl,
        iff_of_false (CallLog.not_checkSettled_of_settled hne) nofun⟩
  | rollback =>
      have hpasses : CallLog.checkSettled (calls ++ settled.map fun name => ⟨name, .rollback⟩)
          drivers .rollback .commit = .ok () :=
        CallLog.checkSettled_of_settled nofun
          (fun c hc => ⟨hother c hc .rollback, hother c hc .commit⟩) hnodup hsame
      exact ⟨iff_of_false (CallLog.not_checkSettled_of_settled hne) nofun,
        iff_of_true hpasses rfl⟩

/-- A transaction of recording drivers with different names commits or rolls back, and on the log
that they write the check for all of them passes that tells how. -/
theorem checks_of_run (order : RollbackOrder) (deadline : Deadline) (op : Operation)
    {recorders : List RecordingDriver} (hne : recorders ≠ [])
    (hnames : (recorders.map (·.name)).Nodup) {added : List (Instance Notice)}
    (hadded : added.map (·.driver) = recorders.map RecordingDriver.toDriver)
    {drivers : List String} (hsame : drivers.Perm (recorders.map (·.name))) :
    ∃ t outcome, added.foldlM add (new order deadline) = .ok t ∧
      (t.run op).2.result = .ok outcome ∧
      (outcome.state = .committed ∨ outcome.state = .rolledBack) ∧
      ((Notice.log (t.run op).2.events).checkCommitted drivers = .ok () ↔
        outcome.state = .committed) ∧
      ((Notice.log (t.run op).2.events).checkRolledBack drivers = .ok () ↔
        outcome.state = .rolledBack) := by
  have hadd : added.foldlM add (new order deadline) = .ok ⟨added, .building, order, deadline⟩ :=
    foldlM_add rfl added
  have hrecords : ∀ i ∈ added, i.Records := by
    intro i hi
    have hdriver : i.driver ∈ recorders.map RecordingDriver.toDriver :=
      hadded ▸ List.mem_map_of_mem hi
    obtain ⟨d, -, hd⟩ := List.mem_map.1 hdriver
    exact ⟨d, hd.symm⟩
  have hnamed : added.map (·.driver.name) = recorders.map (·.name) := by
    have h := congrArg (List.map Driver.name) hadded
    rwa [List.map_map, List.map_map] at h
  have hsome : added ≠ [] := by
    rintro rfl
    exact hne (List.map_eq_nil_iff.1 hadded.symm)
  obtain ⟨kind, failure, hresult, hlogged⟩ :=
    loggedAs_run (t := ⟨added, .building, order, deadline⟩) rfl hsome hrecords op
  rw [hnamed] at hlogged
  obtain ⟨hcommitted, hrolledBack⟩ := hlogged.checks (mt List.map_eq_nil_iff.1 hne) hnames hsame
  refine ⟨_, _, hadd, hresult, ?_, ?_, ?_⟩
  · cases kind with
    | commit => exact .inl rfl
    | rollback => exact .inr rfl
  · rw [hcommitted]
    cases kind <;> simp [Settlement.state]
  · rw [hrolledBack]
    cases kind <;> simp [Settlement.state]

/-- The second driver overruns the deadline once its call is in the log, and so does the first one
when it is rolled back. The commit that the first one is to fail on never comes. -/
def overrunning : List RecordingDriver :=
  [⟨"a", 0, some .commit, none, some 30, [], none⟩, ⟨"b", 0, none, some 11, none, [], none⟩]

theorem overrunning_checked :
    overrunning ≠ [] ∧ (overrunning.map (·.name)).Nodup ∧
      ["b", "a"].Perm (overrunning.map (·.name)) ∧
      ∃ added : List (Instance Notice), ∃ t outcome,
        added.map (·.driver) = overrunning.map RecordingDriver.toDriver ∧
        added.foldlM add (new .reverse (some 10)) = .ok t ∧
        (t.run .activate).2.result = .ok outcome ∧
        (outcome.state = .committed ∨ outcome.state = .rolledBack) ∧
        ((Notice.log (t.run .activate).2.events).checkCommitted ["b", "a"] = .ok () ↔
          outcome.state = .committed) ∧
        ((Notice.log (t.run .activate).2.events).checkRolledBack ["b", "a"] = .ok () ↔
          outcome.state = .rolledBack) := by
  have hne : overrunning ≠ [] := List.cons_ne_nil _ _
  have hnames : (overrunning.map (·.name)).Nodup := by decide
  have hsame : ["b", "a"].Perm (overrunning.map (·.name)) := by decide
  have hadded : (overrunning.map fun d => (⟨⟨0, d.name⟩, d.toDriver⟩ : Instance Notice)).map
      (·.driver) = overrunning.map RecordingDriver.toDriver := rfl
  obtain ⟨t, outcome, hchecked⟩ :=
    checks_of_run .reverse (some 10) .activate hne hnames hadded hsame
  exact ⟨hne, hnames, hsame, _, t, outcome, hadded, hchecked⟩

end Transaction

end Connectivity
