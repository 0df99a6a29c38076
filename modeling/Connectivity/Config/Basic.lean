import Connectivity.Driver.Basic
import Connectivity.Text.Characters

/-!
# Configuration

The settings of the system, each with a default.
-/
namespace Connectivity

/-- The order in which drivers are rolled back: that of their activation, or its reverse. -/
inductive RollbackOrder where
  | forward
  | reverse
  deriving DecidableEq, Repr

namespace RollbackOrder

def name : RollbackOrder → String
  | forward => "forward"
  | reverse => "reverse"

def ofName? (s : String) : Option RollbackOrder := [forward, reverse].find? fun o => o.name = s

theorem ofName?_name (o : RollbackOrder) : ofName? o.name = some o := by
  cases o <;> decide

end RollbackOrder

/-- The deadline of a driver's call in milliseconds, zero for none, and the order of rollback. -/
structure ActivationSettings where
  driverTimeout : Nat := 30000
  rollbackOrder : RollbackOrder := .forward
  deriving DecidableEq, Repr

/-- The rules that a create request is checked by. -/
structure ValidationSettings where
  rejectDuplicateLocalIds : Bool := true
  minEndpoints : Nat := 2
  deriving DecidableEq, Repr

structure Config where
  topologyId : TopologyId := systemTopology
  activation : ActivationSettings := {}
  validation : ValidationSettings := {}
  deriving DecidableEq, Repr

namespace Config

def deadline (c : Config) : Deadline :=
  if c.activation.driverTimeout = 0 then none else some c.activation.driverTimeout

/-- A usable configuration names a topology and asks for two endpoints at least. -/
def validate (c : Config) : Except Error Unit :=
  if Text.isBlankText c.topologyId then
    .error (.configuration "topology_id must not be empty")
  else if c.validation.minEndpoints < 2 then
    .error (.configuration "min_endpoints must be >= 2")
  else .ok ()

end Config

end Connectivity
