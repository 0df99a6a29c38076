import Connectivity.Proofs.Decomposition.Ordering
import Connectivity.Proofs.Decomposition.Outcome
import Connectivity.Proofs.Service.Effect
import Connectivity.Topology.Sample

/-!
# Commands that succeed

A command succeeds if it may be carried out and a driver serves each of its devices. A registry of
one builder, whose drivers do all that they are asked to, serves every device.
-/
namespace Connectivity

theorem exists_of_isOk {α : Type} {x : Except Error α} (h : x.isOk = true) : ∃ y, x = .ok y := by
  cases x with
  | ok y => exact ⟨y, rfl⟩
  | error => exact nomatch h

/-- A driver is found for a sub-request wherever it comes, takes it and does what it is asked to. -/
def Registry.Serves {ε : Type} (r : Registry ε) (serviceId : ServiceId) (context : Context)
    (op : Operation) (deadline : Deadline) (s : SubRequest) : Prop :=
  ∀ slot, ∃ i, (r.select slot s context).result = .ok i ∧
    (i.driver.bind ⟨s.endpoints, serviceId, context⟩).2 = .ok () ∧ i.driver.Succeeds op deadline

namespace Manager

section Drive

variable {σ ε : Type} {m : Manager σ ε} {serviceId : ServiceId} {context : Context}
  {op : Operation} {subs : List SubRequest}

theorem prepareOne_of_serves {s : SubRequest}
    (h : m.registry.Serves serviceId context op m.config.deadline s) (slot : Nat) :
    ∃ i, (m.prepareOne serviceId context slot s).result = .ok i ∧
      i.driver.Succeeds op m.config.deadline := by
  obtain ⟨i, hselect, hbind, hsucceeds⟩ := h slot
  have hbound : (i.bindTo s.nodeId ⟨s.endpoints, serviceId, context⟩).result = .ok () := by
    simp [Instance.bindTo, hbind, Except.mapError]
  have hprepare : m.prepareOne serviceId context slot s =
      (m.registry.select slot s context).andThen fun i =>
        (i.bindTo s.nodeId ⟨s.endpoints, serviceId, context⟩).andThen fun _ =>
          .ofExcept (.ok i) := rfl
  refine ⟨i, ?_, hsucceeds⟩
  rw [hprepare, Activity.result_andThen_of_ok hselect, Activity.result_andThen_of_ok hbound]
  rfl

/-- Every sub-request gets a driver that does what it is asked to. -/
theorem prepareFrom_of_serves
    (h : ∀ s ∈ subs, m.registry.Serves serviceId context op m.config.deadline s)
    {t : Transaction ε} (ht : t.state = .building) (slot : Nat) :
    ∃ drivers, (m.prepareFrom serviceId context slot subs t).result =
        .ok { t with drivers := t.drivers ++ drivers } ∧ drivers.length = subs.length ∧
      ∀ i ∈ drivers, i.driver.Succeeds op m.config.deadline := by
  induction subs generalizing slot t with
  | nil => exact ⟨[], by rw [List.append_nil]; rfl, rfl, nofun⟩
  | cons s subs ih =>
      obtain ⟨hs, hrest⟩ := List.forall_mem_cons.1 h
      obtain ⟨i, hi, hsucceeds⟩ := prepareOne_of_serves hs slot
      have hadded : (Activity.ofExcept (t.add i) : Activity ε _).result =
          .ok { t with drivers := t.drivers ++ [i] } := if_pos ht
      obtain ⟨drivers, hresult, hlength, hall⟩ :=
        ih hrest (t := { t with drivers := t.drivers ++ [i] }) ht (slot + 1)
      have hprepare : m.prepareFrom serviceId context slot (s :: subs) t =
          (m.prepareOne serviceId context slot s).andThen fun i =>
            (Activity.ofExcept (t.add i)).andThen
              (m.prepareFrom serviceId context (slot + 1) subs) := rfl
      refine ⟨i :: drivers, ?_, by simp [hlength], List.forall_mem_cons.2 ⟨hsucceeds, hall⟩⟩
      rw [hprepare, Activity.result_andThen_of_ok hi, Activity.result_andThen_of_ok hadded, hresult,
        List.append_assoc]
      rfl

theorem drive_of_serves (hne : subs ≠ [])
    (h : ∀ s ∈ subs, m.registry.Serves serviceId context op m.config.deadline s) :
    (m.drive serviceId context op subs).result = .ok () := by
  obtain ⟨drivers, hprepare, hlength, hall⟩ :=
    prepareFrom_of_serves h (t := .ofConfig m.config) rfl 0
  have hdrivers : drivers ≠ [] := by
    rintro rfl
    exact hne (List.length_eq_zero_iff.1 hlength.symm)
  have hsucceed : ∀ i ∈ Transaction.executionOrder drivers,
      i.driver.Succeeds op m.config.deadline := fun i hi =>
    hall i ((Transaction.executionOrder_perm drivers).mem_iff.1 hi)
  have hcommits := Transaction.commits_of_success (t := ⟨drivers, .building,
    m.config.activation.rollbackOrder, m.config.deadline⟩) rfl hdrivers hsucceed
  have hdrive : m.drive serviceId context op subs =
      (m.prepareFrom serviceId context 0 subs (.ofConfig m.config)).andThen
        fun t => t.conclusion op := rfl
  rw [hdrive, Activity.result_andThen_of_ok hprepare]
  exact (Transaction.conclusion_of_ok hcommits.outcome).1

end Drive

section Creation

variable {ε : Type} {store : Store} {topologyId : TopologyId} {t : Topology}

theorem decomposeOver_of_ok {endpoints : List ServiceEndPoint} {result : Option (List SubRequest)}
    (ht : store.readTopology topologyId = .ok t) (h : decompose t endpoints = .ok result) :
    decomposeOver topologyId store endpoints = .ok result := by
  have hread : DataStore.readTopology store topologyId = .ok t := ht
  unfold decomposeOver
  cases hcount : Decomposition.checkCount endpoints with
  | error e =>
      rw [decompose, hcount] at h
      cases h
  | ok =>
      rw [hread]
      exact h

/-- A request that is valid and has a decomposition becomes a service if its devices can be
driven. -/
theorem created_of_drive {m : Manager Store ε} {id : ServiceId} {r : CreateRequest}
    {subs : List SubRequest} (hvalid : (m.config.validation.checkCreate r).toExcept = .ok ())
    (hdecomposed : m.decomposer store r.endpoints = .ok (some subs))
    (hdriven : (m.drive id ⟨some id, r.exclusive, r.effectiveType⟩ .activate subs).result = .ok ())
    (now : Instant) : Created m store id now r subs (recordOf id now r subs) := by
  have hconnected : m.requireConnected store r.endpoints = .ok subs := by
    rw [requireConnected, hdecomposed]
    rfl
  refine ⟨hvalid, hdecomposed, rfl, hdriven, ?_⟩
  rw [creation_eq]
  refine (Routine.run_read_andThen_of_ok (x := ()) ?valid _).trans
    ((Routine.run_read_andThen_of_ok (x := subs) ?connected _).trans ?driven)
  case valid => exact hvalid
  case connected => exact hconnected
  case driven =>
    refine m.run_carryOut_of_ok id _ hdriven ?_ _
    rfl

end Creation

end Manager

/-- A builder whose drivers do what they are asked to. -/
def obligingBuilder : RecordingBuilder := ⟨"r", none, TargetKind.all, 0, none, none⟩

/-- No builder but the one. -/
def obliging : Registry Notice := (Registry.empty.register obligingBuilder.toBuilder).1

theorem builders_obliging : obliging.builders.values = [obligingBuilder.toBuilder] := rfl

theorem exists_driverFor? {target : Target} (h : target.points ≠ []) :
    ∃ d, obligingBuilder.driverFor? target = some d ∧ d.failOn = none ∧ d.delay = none := by
  unfold RecordingBuilder.driverFor?
  split
  case h_1 hnil => exact absurd hnil h
  case h_2 first rest _ =>
    have hkind : obligingBuilder.kinds.contains target.kind = true := by
      cases target.kind <;> rfl
    rw [hkind]
    exact ⟨_, rfl, rfl, rfl⟩

/-- A recording driver that fails on nothing and takes no time does what it is asked to. -/
theorem RecordingDriver.succeeds {d : RecordingDriver} (hfail : d.failOn = none)
    (hdelay : d.delay = none) (op : Operation) (deadline : Deadline) :
    d.toDriver.Succeeds op deadline := by
  have houtcome : ∀ op, d.outcome op = .ok () := fun op => by simp [outcome, hfail]
  refine ⟨fun limit _ => ?_, houtcome op.call⟩
  have hduration : d.toDriver.callDuration op = 0 := by
    cases op <;> simp [Driver.callDuration, toDriver, recordThen, hdelay, duration]
  rw [hduration]
  exact Nat.zero_le limit

/-- Every sub-request on edge points of its node is served. -/
theorem obliging_serves {s : SubRequest} (h : s.Ordered) (serviceId : ServiceId)
    (context : Context) (op : Operation) (deadline : Deadline) :
    obliging.Serves serviceId context op deadline s := by
  intro slot
  obtain ⟨target, htarget, -⟩ := h.exists_target
  obtain ⟨hne, -⟩ := Target.of_ofSubRequest? htarget
  obtain ⟨d, hd, hfail, hdelay⟩ := exists_driverFor? hne
  have hprobe : (Registry.probe slot target context obligingBuilder.toBuilder).2 =
      some ⟨⟨slot, "r"⟩, d.toDriver⟩ := by
    simp only [Registry.probe, RecordingBuilder.toBuilder, hd, Option.map_some]
    rfl
  refine ⟨⟨⟨slot, "r"⟩, d.toDriver⟩, ?_, ?_, RecordingDriver.succeeds hfail hdelay op deadline⟩
  · simp only [Registry.select, htarget, Registry.selectFor, builders_obliging, List.map_singleton,
      List.filterMap_cons, List.filterMap_nil, hprobe, Registry.choose]
  · simp [RecordingDriver.toDriver, RecordingDriver.outcome, hfail]

/-- Where drivers do what they are asked to, a request that is valid and has a decomposition becomes
a service. -/
theorem created_of_obliging {config : Config} {store : Store} {t : Topology} {r : CreateRequest}
    {subs : List SubRequest} (hvalid : (config.validation.checkCreate r).toExcept = .ok ())
    (ht : store.readTopology config.topologyId = .ok t)
    (hdecomposed : decompose t r.endpoints = .ok (some subs)) (id : ServiceId) (now : Instant) :
    Manager.Created (.new config obliging) store id now r subs
      (Manager.recordOf id now r subs) := by
  obtain ⟨g, -, hanswered⟩ := decompose_eq_ok hdecomposed
  obtain ⟨-, vertices, -, hsubs⟩ := hanswered.connected_of_some
  have hdriven : ((Manager.new config obliging : Manager Store Notice).drive id
      ⟨some id, r.exclusive, r.effectiveType⟩ .activate subs).result = .ok () := by
    refine Manager.drive_of_serves hanswered.ne_nil_of_some fun s hs => ?_
    exact obliging_serves (Decomposition.ordered_of_mem_subRequests (hsubs ▸ hs)) _ _ _ _
  exact Manager.created_of_drive hvalid (Manager.decomposeOver_of_ok ht hdecomposed) hdriven now

/-- A request for a service between the two nodes of a linked pair. -/
def betweenPair (a z : ServiceEndPoint) : CreateRequest := ⟨[a, z], none, false⟩

/-- Its sub-requests, one for each node. -/
def pairParts (a z : ServiceEndPoint) : List SubRequest :=
  [⟨"n1", "n1", [⟨some a, some (Sample.ref "n1:1")⟩]⟩,
    ⟨"n2", "n2", [⟨some z, some (Sample.ref "n2:1")⟩]⟩]

/-- The service of the two edge points, by their own names. -/
def pairRequest : CreateRequest := betweenPair (Sample.endPoint "n1:1") (Sample.endPoint "n2:1")

def pairService : Service :=
  Manager.recordOf "s" .epoch pairRequest
    (pairParts (Sample.endPoint "n1:1") (Sample.endPoint "n2:1"))

theorem pair_created :
    Manager.Created (.new {} obliging) (.ofTopology (Sample.linkedPair .enabled)) "s" .epoch
      pairRequest (pairParts (Sample.endPoint "n1:1") (Sample.endPoint "n2:1")) pairService := by
  have hdecomposed : decompose (Sample.linkedPair .enabled) pairRequest.endpoints =
      .ok (some (pairParts (Sample.endPoint "n1:1") (Sample.endPoint "n2:1"))) := by
    decide +kernel
  exact created_of_obliging (by decide) (by rfl) hdecomposed "s" .epoch

end Connectivity
