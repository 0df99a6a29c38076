import Connectivity.Driver.Recording

/-!
# Drivers by script

A driver whose calls pause and fail as it is told, and a builder of such drivers that reports
whatever it is asked. A plain driver keeps the name and the priority of a driver that states none.
-/
namespace Connectivity

/-- How the drivers of a script behave: the pause and the failure of each call. -/
structure ScriptedCalls where
  delays : List (DriverOp × Nat)
  failures : List (DriverOp × DriverError)
  plain : Bool
  deriving DecidableEq, Repr

structure ScriptedDriver where
  label : String
  priority : Int
  calls : ScriptedCalls
  deriving DecidableEq, Repr

namespace ScriptedDriver

def outcome (d : ScriptedDriver) (op : DriverOp) : Except DriverError Unit :=
  match d.calls.failures.lookup op with
  | some e => .error e
  | none => .ok ()

/-- A call is logged, takes its time and is reported at its end. -/
def actions (d : ScriptedDriver) (op : DriverOp) : List (Action Notice) :=
  .emit (.logged ⟨d.label, op⟩) ::
    (((d.calls.delays.lookup op).map .pause).toList ++ [.emit (.finished ⟨d.label, op⟩)])

def script (d : ScriptedDriver) (op : DriverOp) : Script Notice := ⟨d.actions op, d.outcome op⟩

def toDriver (d : ScriptedDriver) : Driver Notice where
  name := if d.calls.plain then Driver.defaultName else d.label
  priority := if d.calls.plain then Driver.defaultPriority else d.priority
  bind a := ([.logged ⟨d.label, .bind⟩, .bound d.label a], d.outcome .bind)
  script
    | .activate => d.script .activate
    | .deactivate => d.script .deactivate
    | .update => Driver.defaultUpdate (d.script .activate) (d.script .deactivate)
  settlement kind := d.actions kind.call

end ScriptedDriver

/-- A builder of scripted drivers; what is given of the conditions must hold of a target. -/
structure ScriptedBuilder where
  id : String
  kinds : Option (List TargetKind)
  driverId : Option String
  exclusive : Option Bool
  serviceType : Option ServiceType
  priority : Int
  calls : ScriptedCalls
  deriving DecidableEq, Repr

namespace ScriptedBuilder

def answers (b : ScriptedBuilder) (target : Target) (context : Context) : Bool :=
  b.kinds.all (·.contains target.kind) &&
    (b.driverId.all fun family => target.points.all fun p => p.driverId = family) &&
    b.exclusive.all (· = context.exclusive) && b.serviceType.all (· = context.serviceType)

/-- The driver for a target that has edge points, named after the node of the first one. -/
def driverFor? (b : ScriptedBuilder) (target : Target) (context : Context) :
    Option ScriptedDriver := do
  let first ← target.points.head?
  if b.answers target context then
    some ⟨RecordingBuilder.driverName b.id first.ref.nodeId, b.priority, b.calls⟩
  else none

def toBuilder (b : ScriptedBuilder) : Builder Notice where
  id := b.id
  offer target context :=
    ([.asked b.id target context], (b.driverFor? target context).map ScriptedDriver.toDriver)

end ScriptedBuilder

end Connectivity
