import Connectivity.Driver.Basic

/-!
# Activities

The course of an operation on drivers: what happened in order, how long it took, and the result.
Drivers are told apart by the sub-request they serve and the builder they come from, so that the
calls each one received can be read off the course.
-/
namespace Connectivity

/-- Which driver it is: the position of its sub-request and the builder that made it. -/
structure InstanceId where
  slot : Nat
  builder : String
  deriving DecidableEq, Repr

/-- A driver made for one sub-request. -/
structure Instance (ε : Type) where
  id : InstanceId
  driver : Driver ε

/-- One thing that happens. A driver that is bound is handed its assignment. -/
inductive Occurrence (ε : Type) where
  | probed (slot : Nat) (builder : String)
  | called (id : InstanceId) (op : DriverOp)
  | handed (id : InstanceId) (assignment : Assignment)
  | emitted (event : ε)
  deriving DecidableEq, Repr

namespace Occurrence

variable {ε : Type}

def event? : Occurrence ε → Option ε
  | emitted event => some event
  | _ => none

/-- The call that it is, with the driver that received it. -/
def call? : Occurrence ε → Option (InstanceId × DriverOp)
  | called id op => some (id, op)
  | _ => none

/-- What a driver is handed, with the driver. -/
def assignment? : Occurrence ε → Option (InstanceId × Assignment)
  | handed id assignment => some (id, assignment)
  | _ => none

/-- The builder that is asked for the sub-request at a position. -/
def probeAt? (slot : Nat) : Occurrence ε → Option String
  | probed s builder => if s = slot then some builder else none
  | _ => none

variable {β : Type} {read : Occurrence ε → Option β}

/-- A reading that passes over events finds nothing among them. -/
theorem filterMap_emitted (h : ∀ event, read (.emitted event) = none) (events : List ε) :
    (events.map emitted).filterMap read = [] := by
  rw [List.filterMap_map]
  exact List.filterMap_eq_nil_iff.2 fun event _ => h event

/-- Of a call and the events that came of it there is only the call to be read. -/
theorem filterMap_called (h : ∀ event, read (.emitted event) = none) (id : InstanceId)
    (op : DriverOp) (events : List ε) :
    (called id op :: events.map emitted).filterMap read = (read (.called id op)).toList := by
  rw [List.filterMap_cons, filterMap_emitted h]
  cases read (.called id op) <;> rfl

end Occurrence

structure Activity (ε α : Type) where
  trace : List (Occurrence ε)
  elapsed : Nat
  result : Except Error α

namespace Activity

variable {ε α β : Type}

/-- An activity in which nothing happens. -/
def ofExcept (result : Except Error α) : Activity ε α := ⟨[], 0, result⟩

/-- One activity after another; after an error nothing more happens. -/
def andThen (a : Activity ε α) (next : α → Activity ε β) : Activity ε β :=
  match a.result with
  | .error e => ⟨a.trace, a.elapsed, .error e⟩
  | .ok x =>
      let b := next x
      ⟨a.trace ++ b.trace, a.elapsed + b.elapsed, b.result⟩

instance : Monad (Activity ε) where
  pure x := ofExcept (.ok x)
  bind := andThen

theorem andThen_of_ok {a : Activity ε α} {x : α} (h : a.result = .ok x)
    (next : α → Activity ε β) :
    a.andThen next =
      ⟨a.trace ++ (next x).trace, a.elapsed + (next x).elapsed, (next x).result⟩ := by
  rw [andThen, h]

theorem andThen_of_error {a : Activity ε α} {e : Error} (h : a.result = .error e)
    (next : α → Activity ε β) : a.andThen next = ⟨a.trace, a.elapsed, .error e⟩ := by
  rw [andThen, h]

theorem andThen_assoc {γ : Type} (a : Activity ε α) (f : α → Activity ε β)
    (g : β → Activity ε γ) : (a.andThen f).andThen g = a.andThen fun x => (f x).andThen g := by
  cases h : a.result with
  | error e => rw [andThen_of_error h, andThen_of_error h, andThen_of_error rfl]
  | ok x =>
      rw [andThen_of_ok h, andThen_of_ok h]
      cases hf : (f x).result with
      | error e => rw [andThen_of_error rfl, andThen_of_error hf]
      | ok y =>
          rw [andThen_of_ok rfl, andThen_of_ok hf]
          simp only [List.append_assoc, Nat.add_assoc]

instance : LawfulMonad (Activity ε) :=
  .mk' _
    (fun a => by
      rcases a with ⟨trace, elapsed, result⟩
      cases result <;> simp [Functor.map, andThen, ofExcept])
    (fun x f => by simp [bind, pure, andThen, ofExcept])
    (fun a f g => andThen_assoc a f g)

/-- The events among what happened. -/
def events (a : Activity ε α) : List ε := a.trace.filterMap Occurrence.event?

/-- All calls, with the drivers that received them. -/
def calls (a : Activity ε α) : List (InstanceId × DriverOp) := a.trace.filterMap Occurrence.call?

/-- The calls that one driver received. -/
def callsOf (a : Activity ε α) (id : InstanceId) : List DriverOp :=
  a.calls.filterMap fun (i, op) => if i = id then some op else none

/-- What drivers were bound to, in the order in which they were. -/
def assignments (a : Activity ε α) : List (InstanceId × Assignment) :=
  a.trace.filterMap Occurrence.assignment?

/-- The builders that were asked for the sub-request at a position. -/
def probesAt (a : Activity ε α) (slot : Nat) : List String :=
  a.trace.filterMap (Occurrence.probeAt? slot)

end Activity

/-- Binds a driver to a sub-request of `node`. -/
def Instance.bindTo {ε : Type} (i : Instance ε) (node : NodeId) (a : Assignment) :
    Activity ε Unit :=
  let (events, result) := i.driver.bind a
  ⟨.called i.id .bind :: .handed i.id a :: events.map .emitted, 0,
    result.mapError fun source => .driverInitialization node source⟩

end Connectivity
