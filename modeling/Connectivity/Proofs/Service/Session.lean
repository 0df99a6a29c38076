import Connectivity.Proofs.Service.Atomicity
import Connectivity.Proofs.Service.Success

/-!
# Sessions

A session is a sequence of commands, with whatever managers, builders and changes of the store
between them. All that is to be seen of a command is the course of the drivers that it engages, and
a driver that was made for one command is never called by another. So the life of every driver can
be followed through the whole session.
-/
namespace Connectivity

namespace Routine

variable {σ ε α β : Type} {store : σ}

/-- Nothing is to be seen of it but what it does to the store. -/
def Quiet (r : Routine σ ε α) : Prop := ∀ store, (r.run store).1.trace = []

theorem quiet_pure (x : α) : (pure x : Routine σ ε α).Quiet := fun _ => rfl

theorem quiet_write (change : σ → Except Error σ) : (write change : Routine σ ε Unit).Quiet := by
  intro store
  unfold write
  cases h : change store <;> simp [h, Activity.ofExcept]

theorem trace_andThen_of_quiet {r : Routine σ ε α} {next : α → Routine σ ε β}
    (h : ∀ x, (next x).Quiet) : ((r.andThen next).run store).1.trace = (r.run store).1.trace := by
  cases hresult : (r.run store).1.result with
  | error e => rw [run_andThen_of_error hresult]
  | ok x =>
      rw [run_andThen_of_ok hresult, Activity.andThen_of_ok hresult]
      simp [h x (r.run store).2]

/-- What is seen after a look at the store is what follows it, if anything does. -/
theorem trace_read_andThen {P : List (Occurrence ε) → Prop} {look : σ → Except Error α}
    {next : α → Routine σ ε β} (hnone : P []) (h : ∀ x, P ((next x).run store).1.trace) :
    P (((read look).andThen next).run store).1.trace := by
  cases hlook : look store with
  | error e => rwa [run_read_andThen_of_error hlook]
  | ok x =>
      rw [run_read_andThen_of_ok hlook]
      exact h x

end Routine

namespace Manager

variable {σ ε : Type}

/-- Nothing happens, or drivers are driven for some sub-requests. -/
def Drives (m : Manager σ ε) (trace : List (Occurrence ε)) : Prop :=
  trace = [] ∨ ∃ serviceId context op subs, trace = (m.drive serviceId context op subs).trace

theorem drives_carryOut {α : Type} (m : Manager σ ε) (serviceId : ServiceId) (context : Context)
    (op : Operation) (subs : List SubRequest) (change : σ → Except Error σ) (x : α) (store : σ) :
    m.Drives (((m.carryOut serviceId context op subs change).andThen fun _ => pure x).run
      store).1.trace := by
  refine .inr ⟨serviceId, context, op, subs, ?_⟩
  rw [Routine.trace_andThen_of_quiet fun _ => Routine.quiet_pure x]
  exact Routine.trace_andThen_of_quiet (r := .ofActivity (m.drive serviceId context op subs))
    fun _ => Routine.quiet_write change

/-- A command looks at the store, and then it drives devices at most once. -/
theorem drives_perform [DataStore σ] (m : Manager σ ε) (c : Command) (store : σ) :
    m.Drives ((m.perform c).run store).1.trace := by
  cases c with
  | create id now r =>
      simp only [perform, creation, Routine.bind_eq_andThen]
      refine Routine.trace_read_andThen (.inl rfl) fun _ => ?_
      refine Routine.trace_read_andThen (.inl rfl) fun subs => ?_
      exact m.drives_carryOut _ _ _ _ _ _ store
  | updateEndpoint id e =>
      simp only [perform, update, updateRecord, Routine.bind_eq_andThen]
      refine Routine.trace_read_andThen (.inl rfl) fun s => ?_
      refine Routine.trace_read_andThen (.inl rfl) fun _ => ?_
      refine Routine.trace_read_andThen (.inl rfl) fun t => ?_
      refine Routine.trace_read_andThen (.inl rfl) fun sub => ?_
      exact m.drives_carryOut _ _ _ _ _ _ store
  | delete id =>
      simp only [perform, deletion, Routine.bind_eq_andThen]
      refine Routine.trace_read_andThen (.inl rfl) fun s => ?_
      unfold dismantle
      split
      · refine .inl ?_
        rw [Routine.trace_andThen_of_quiet fun _ => Routine.quiet_pure s]
        exact Routine.quiet_write _ store
      · exact m.drives_carryOut _ _ _ _ _ _ store

end Manager

/-- One turn of a session: a manager carries out a command, with the builders that are registered at
that moment, or something else happens to the store. -/
inductive Turn (σ ε : Type) where
  | command (m : Manager σ ε) (c : Command)
  | change (f : σ → σ)

namespace Turn

variable {σ ε : Type} [DataStore σ]

/-- What happens to drivers in a turn. -/
def trace (turn : Turn σ ε) (store : σ) : List (Occurrence ε) :=
  match turn with
  | command m c => ((m.perform c).run store).1.trace
  | change _ => []

def after (turn : Turn σ ε) (store : σ) : σ :=
  match turn with
  | command m c => ((m.perform c).run store).2
  | change f => f store

end Turn

section Session

variable {σ ε : Type} [DataStore σ]

/-- All that happens to drivers in a session, with the numbers of the turns from `first` on. -/
def happenings (first : Nat) (store : σ) : List (Turn σ ε) → List (Nat × Occurrence ε)
  | [] => []
  | turn :: rest =>
      (turn.trace store).map (fun o => (first, o)) ++ happenings (first + 1) (turn.after store) rest

theorem le_of_mem_happenings {first n : Nat} {store : σ} {turns : List (Turn σ ε)}
    {o : Occurrence ε} (h : (n, o) ∈ happenings first store turns) : first ≤ n := by
  induction turns generalizing first store with
  | nil => exact nomatch h
  | cons turn rest ih =>
      rcases List.mem_append.1 h with h | h
      · obtain ⟨o, -, ho⟩ := List.mem_map.1 h
        exact (congrArg Prod.fst ho).le
      · exact (Nat.le_succ first).trans (ih h)

/-- What happens in one turn is what its command does, from the store that the turns before it have
left. -/
theorem entriesOf_happenings (first : Nat) (store : σ) (turns : List (Turn σ ε)) (n : Nat) :
    entriesOf (happenings first store turns) (first + n) = [] ∨
      ∃ m c store', turns[n]? = some (.command m c) ∧
        entriesOf (happenings first store turns) (first + n) =
          ((m.perform c).run store').1.trace := by
  induction turns generalizing first store n with
  | nil => exact .inl rfl
  | cons turn rest ih =>
      rw [happenings, entriesOf_append]
      cases n with
      | zero =>
          have hrest : entriesOf (happenings (first + 1) (turn.after store) rest) first = [] := by
            refine List.eq_nil_iff_forall_not_mem.2 fun o ho => ?_
            have hle := le_of_mem_happenings (mem_entriesOf.1 ho)
            omega
          have hhead : entriesOf ((turn.trace store).map fun o => (first, o)) first =
              turn.trace store := by
            simp [entriesOf, List.filterMap_map]
          rw [Nat.add_zero, hrest, hhead, List.append_nil]
          cases turn with
          | command m c => exact .inr ⟨m, c, store, rfl, rfl⟩
          | change f => exact .inl rfl
      | succ n =>
          have hhead : entriesOf ((turn.trace store).map fun o => (first, o)) (first + (n + 1)) =
              [] := by
            refine List.eq_nil_iff_forall_not_mem.2 fun o ho => ?_
            obtain ⟨o', -, ho'⟩ := List.mem_map.1 (mem_entriesOf.1 ho)
            have hturn := congrArg Prod.fst ho'
            simp only at hturn
            omega
          have hturn : first + (n + 1) = first + 1 + n := by omega
          rw [hhead, List.nil_append, hturn, List.getElem?_cons_succ]
          exact ih (first + 1) (turn.after store) n

end Session

/-- A driver of a session: the turn that it was made in, and which one it is there. -/
structure SessionDriver where
  turn : Nat
  id : InstanceId
  deriving DecidableEq, Repr

section Logs

variable {ε β : Type}

/-- The log of one kind of happening in a session, by the drivers that it concerns. -/
def sessionLog (kind : Occurrence ε → Option (InstanceId × β)) (h : List (Nat × Occurrence ε)) :
    List (SessionDriver × β) :=
  h.filterMap fun entry => (kind entry.2).map fun named => (⟨entry.1, named.1⟩, named.2)

/-- The part of a log that falls into one turn. -/
def turnLog (log : List (SessionDriver × β)) (n : Nat) : List (InstanceId × β) :=
  log.filterMap fun entry => if entry.1.turn = n then some (entry.1.id, entry.2) else none

theorem turnLog_append (log others : List (SessionDriver × β)) (n : Nat) :
    turnLog (log ++ others) n = turnLog log n ++ turnLog others n := List.filterMap_append

theorem mem_turnLog {log : List (SessionDriver × β)} {n : Nat} {id : InstanceId} {b : β} :
    (id, b) ∈ turnLog log n ↔ (⟨n, id⟩, b) ∈ log := by
  simp only [turnLog, List.mem_filterMap]
  constructor
  · rintro ⟨⟨d, b'⟩, hmem, h⟩
    split at h
    · cases h
      subst n
      exact hmem
    · exact nomatch h
  · exact fun hmem => ⟨_, hmem, if_pos rfl⟩

theorem entriesOf_turnLog (log : List (SessionDriver × β)) (d : SessionDriver) :
    entriesOf (turnLog log d.turn) d.id = entriesOf log d := by
  rw [entriesOf, turnLog, List.filterMap_filterMap, entriesOf]
  refine List.filterMap_congr fun entry _ => ?_
  obtain ⟨⟨n, id⟩, b⟩ := entry
  obtain ⟨turn, id'⟩ := d
  by_cases hn : n = turn <;> by_cases hid : id = id' <;> simp [hn, hid]

theorem turnLog_sessionLog (kind : Occurrence ε → Option (InstanceId × β))
    (h : List (Nat × Occurrence ε)) (n : Nat) :
    turnLog (sessionLog kind h) n = (entriesOf h n).filterMap kind := by
  rw [turnLog, sessionLog, entriesOf, List.filterMap_filterMap, List.filterMap_filterMap]
  refine List.filterMap_congr fun entry _ => ?_
  obtain ⟨turn, o⟩ := entry
  by_cases hn : turn = n <;> cases hkind : kind o <;> simp [hn, hkind]

end Logs

/-- The calls of a session, with the drivers that received them. -/
def sessionCalls {ε : Type} (h : List (Nat × Occurrence ε)) : List (SessionDriver × DriverOp) :=
  sessionLog Occurrence.call? h

/-- What the drivers of a session were handed. -/
def sessionAssignments {ε : Type} (h : List (Nat × Occurrence ε)) :
    List (SessionDriver × Assignment) := sessionLog Occurrence.assignment? h

/-- The drivers of a transaction in which sub-requests are driven: for each of them the one that the
registry selects. -/
def Manager.Employs {σ ε : Type} (m : Manager σ ε) (trace : List (Occurrence ε)) (op : Operation)
    (drivers : List (Instance ε)) : Prop :=
  ∃ serviceId context subs, trace = (m.drive serviceId context op subs).trace ∧
    List.Forall₂ (fun i s => (m.registry.select i.id.slot s context).result = .ok i) drivers subs

/-- Drivers are used as they are meant to be, throughout a session. -/
structure Conforming {σ ε : Type} (turns : List (Turn σ ε)) (h : List (Nat × Occurrence ε)) :
    Prop where
  lives : ∀ d, Life (entriesOf (sessionCalls h) d)
  /-- No driver serves two sub-requests. -/
  assigned_once : ∀ d, (entriesOf (sessionAssignments h) d).length ≤ 1
  settled_once : ∀ d, ¬ ((d, .commit) ∈ sessionCalls h ∧ (d, .rollback) ∈ sessionCalls h)
  /-- When a driver is told to commit, the operation has been called on all drivers of its
  transaction, each of which has succeeded; and no other driver is called in that turn. -/
  committed : ∀ d earlier later, sessionCalls h = earlier ++ (d, .commit) :: later →
    ∃ m c op drivers, turns[d.turn]? = some (.command m c) ∧
      m.Employs (entriesOf h d.turn) op drivers ∧
      (∀ i ∈ drivers, i.driver.Succeeds op m.config.deadline ∧
        (⟨d.turn, i.id⟩, op.call) ∈ earlier) ∧
      ∀ id op', (⟨d.turn, id⟩, op') ∈ sessionCalls h → id ∈ drivers.map (·.id)

section Conformance

variable {σ ε : Type} [DataStore σ]

/-- In a turn either nothing happens to drivers, or those engaged for some sub-requests are
driven. -/
theorem turn_cases (store : σ) (turns : List (Turn σ ε)) (n : Nat) :
    entriesOf (happenings 0 store turns) n = [] ∨
      ∃ (m : Manager σ ε) (c : Command) (serviceId : ServiceId) (context : Context)
        (op : Operation) (subs : List SubRequest) (drivers : List (Instance ε)),
        turns[n]? = some (.command m c) ∧
        entriesOf (happenings 0 store turns) n = (m.drive serviceId context op subs).trace ∧
        Manager.Engaged m serviceId context 0 subs
          (turnLog (sessionAssignments (happenings 0 store turns)) n) drivers ∧
        Driven m.config.deadline op subs.length drivers
          (m.drive serviceId context op subs).result
          (turnLog (sessionCalls (happenings 0 store turns)) n) := by
  rw [sessionAssignments, sessionCalls, turnLog_sessionLog, turnLog_sessionLog]
  have hturn := entriesOf_happenings 0 store turns n
  rw [Nat.zero_add] at hturn
  rcases hturn with hnone | ⟨m, c, store', hc, htrace⟩
  · exact .inl hnone
  · rcases m.drives_perform c store' with hnone | ⟨serviceId, context, op, subs, hdrive⟩
    · exact .inl (htrace.trans hnone)
    · obtain ⟨drivers, hengaged, hdriven⟩ := m.drive_driven serviceId context op subs
      rw [htrace, hdrive]
      exact .inr ⟨m, c, serviceId, context, op, subs, drivers, hc, rfl, hengaged, hdriven⟩

/-- Nothing is logged for a turn in which nothing happens. -/
theorem turnLog_eq_nil {β : Type} {kind : Occurrence ε → Option (InstanceId × β)}
    {h : List (Nat × Occurrence ε)} {n : Nat} (hnone : entriesOf h n = []) :
    turnLog (sessionLog kind h) n = [] := by
  rw [turnLog_sessionLog, hnone]
  rfl

theorem life_of_session (store : σ) (turns : List (Turn σ ε)) (d : SessionDriver) :
    Life (entriesOf (sessionCalls (happenings 0 store turns)) d) := by
  rw [← entriesOf_turnLog]
  rcases turn_cases store turns d.turn with
    hnone | ⟨m, c, serviceId, context, op, subs, drivers, -, -, hengaged, hdriven⟩
  · rw [sessionCalls, turnLog_eq_nil hnone]
    exact .unused
  · exact hdriven.life hengaged.nodup d.id

/-- Drivers conform to their use in every session, whatever builders, drivers and stores do. -/
theorem session_conforms (store : σ) (turns : List (Turn σ ε)) :
    Conforming turns (happenings 0 store turns) where
  lives := life_of_session store turns
  assigned_once d := by
    rw [← entriesOf_turnLog, length_entriesOf]
    rcases turn_cases store turns d.turn with
      hnone | ⟨m, c, serviceId, context, op, subs, drivers, -, -, hengaged, -⟩
    · rw [sessionAssignments, turnLog_eq_nil hnone]
      exact Nat.zero_le 1
    · exact List.nodup_iff_count_le_one.1 hengaged.nodup_assigned d.id
  settled_once d := by
    rintro ⟨hcommit, hrollback⟩
    exact (life_of_session store turns d).not_both
      ⟨mem_entriesOf.2 hcommit, mem_entriesOf.2 hrollback⟩
  committed d earlier later hcommit := by
    have hturn := congrArg (turnLog · d.turn) hcommit
    simp only [turnLog_append] at hturn
    have hlater : turnLog ((d, DriverOp.commit) :: later) d.turn =
        (d.id, .commit) :: turnLog later d.turn := by simp [turnLog]
    rw [hlater] at hturn
    rcases turn_cases store turns d.turn with
      hnone | ⟨m, c, serviceId, context, op, subs, drivers, hc, htrace, hengaged, hdriven⟩
    · rw [sessionCalls, turnLog_eq_nil hnone] at hturn
      simp at hturn
    · obtain ⟨hcomplete, hall⟩ := hdriven.of_commit hturn
      have hselected := hengaged.selected
      rw [hcomplete, List.take_length] at hselected
      refine ⟨m, c, op, drivers, hc, ⟨serviceId, context, subs, htrace, hselected⟩, ?_, ?_⟩
      · intro i hi
        obtain ⟨hsucceeds, hcalled⟩ := hall i hi
        exact ⟨hsucceeds, mem_turnLog.1 hcalled⟩
      · intro id op' hcall
        exact hdriven.mem_of_call (mem_turnLog.2 hcall)

end Conformance

/-- A service is created on one node, and the change of an endpoint fails. -/
def changeInVain : List (Turn Store Notice) :=
  [.command (.new {} obliging) (.create "s" .epoch
      ⟨[Sample.endPoint "n1:1", Sample.endPoint "n1:2"], none, false⟩),
    .command unableToUpdate (.updateEndpoint "s" (Sample.endPoint "n1:1"))]

example : sessionCalls (happenings 0
    (Store.ofTopology (Sample.topology [Sample.node "n1" ["n1:1", "n1:2"]] [])) changeInVain) =
      [(⟨0, ⟨0, "r"⟩⟩, .bind), (⟨0, ⟨0, "r"⟩⟩, .activate), (⟨0, ⟨0, "r"⟩⟩, .commit),
        (⟨1, ⟨0, "r"⟩⟩, .bind), (⟨1, ⟨0, "r"⟩⟩, .update), (⟨1, ⟨0, "r"⟩⟩, .rollback)] := by
  decide +kernel

end Connectivity
