import Connectivity.Driver.CallLog
import Connectivity.Driver.Registry

/-!
# Drivers that record

A driver that writes every call to a log, and can be told to fail or to take its time; and a builder
that makes such drivers for the targets it is told to answer for.
-/
namespace Connectivity

/-- What recording and scripted drivers tell of themselves. -/
inductive Notice where
  | logged (call : Call)
  | finished (call : Call)
  | bound (driver : String) (assignment : Assignment)
  | asked (builder : String) (target : Target) (context : Context)
  deriving DecidableEq, Repr

/-- The log that notices write. -/
def Notice.log (notices : List Notice) : CallLog :=
  notices.filterMap fun
    | .logged call => some call
    | _ => none

/-- A recording driver, with what it was last bound to. -/
structure RecordingDriver where
  name : String
  priority : Int
  failOn : Option DriverOp
  delay : Option Nat
  rollbackDelay : Option Nat
  endpoints : List EndPoint
  serviceId : Option ServiceId
  deriving DecidableEq, Repr

namespace RecordingDriver

def record (d : RecordingDriver) (op : DriverOp) : Notice := .logged ⟨d.name, op⟩

/-- The call fails if the driver is told to fail on it. -/
def outcome (d : RecordingDriver) (op : DriverOp) : Except DriverError Unit :=
  if d.failOn = some op then .error (.device d.name (op.title ++ " failed")) else .ok ()

/-- A pause after the record, if there is one. -/
def recordThen (d : RecordingDriver) (op : DriverOp) (delay : Option Nat) : List (Action Notice) :=
  .emit (d.record op) :: (delay.map .pause).toList

/-- Takes what it is bound to, unless it is to fail. -/
def bindTo (d : RecordingDriver) (a : Assignment) : RecordingDriver :=
  match d.outcome .bind with
  | .ok () => { d with endpoints := a.endpoints, serviceId := some a.serviceId }
  | .error _ => d

/-- An update takes no time, while activation and deactivation take the delay. -/
def toDriver (d : RecordingDriver) : Driver Notice where
  name := d.name
  priority := d.priority
  bind _ := ([d.record .bind], d.outcome .bind)
  script op :=
    let delay := match op with
      | .activate | .deactivate => d.delay
      | .update => none
    ⟨d.recordThen op.call delay, d.outcome op.call⟩
  settlement
    | .commit => d.recordThen .commit none
    | .rollback => d.recordThen .rollback d.rollbackDelay

end RecordingDriver

/-- A builder of recording drivers. Its drivers fail on the call given, for one node or for all. -/
structure RecordingBuilder where
  id : String
  driverId : Option String
  kinds : List TargetKind
  priority : Int
  failOn : Option DriverOp
  failNode : Option NodeId
  deriving DecidableEq, Repr

namespace RecordingBuilder

/-- Drivers are named after their builder and the node they serve. -/
def driverName (id : String) (node : NodeId) : String := id ++ "@" ++ node

/-- The driver for a target, named after the node of its first edge point. -/
def driverFor? (b : RecordingBuilder) (target : Target) : Option RecordingDriver :=
  match target.points with
  | [] => none
  | first :: rest =>
      let node := first.ref.nodeId
      if b.kinds.contains target.kind &&
          b.driverId.all fun family => (first :: rest).all fun p => p.driverId = family then
        some ⟨driverName b.id node, b.priority,
          if b.failNode.all (· = node) then b.failOn else none, none, none, [], none⟩
      else none

def toBuilder (b : RecordingBuilder) : Builder Notice where
  id := b.id
  offer target _ := ([], (b.driverFor? target).map RecordingDriver.toDriver)

end RecordingBuilder

end Connectivity
