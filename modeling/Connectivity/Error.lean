/-!
# Errors

What can go wrong, by cause. `message` is the text shown to people. A caller error means that the
request itself is at fault; a selection error means that the registered drivers could not serve it.
A request that is well formed but cannot be connected is not an error of decomposition.
-/
namespace Connectivity

/-- Why a call to an activation driver failed. -/
inductive DriverError where
  | device (name message : String)
  | timeout (operation : String) (millis : Nat)
  | invalidRequest (message : String)
  | internal (message : String)
  deriving DecidableEq, Repr

namespace DriverError

def message : DriverError → String
  | device name message => "Device error on " ++ name ++ ": " ++ message
  | timeout operation millis =>
      "Driver call '" ++ operation ++ "' timed out after " ++ toString millis ++ " ms"
  | invalidRequest message => "Invalid request: " ++ message
  | internal message => "Internal error: " ++ message

def isTimeout : DriverError → Bool
  | timeout .. => true
  | _ => false

end DriverError

inductive Error where
  /-- A malformed request: too few endpoints, or a direction that does not fit. -/
  | illegalArgument (message : String)
  /-- A request for what the system does not have. -/
  | failureResult (message : String)
  /-- Valid endpoints that cannot be connected. -/
  | noPath (message : String)
  | topologyUnavailable (topology message : String)
  /-- More than one builder claimed the target. -/
  | driverAmbiguous (target : String) (candidates : Nat)
  /-- No builder claimed the target. -/
  | driverNotFound (target : String)
  | illegalState (message : String)
  /-- A driver failed, by its position in execution order, and all were rolled back. -/
  | activationFailed (driverIndex : Nat) (source : DriverError)
  /-- The driver selected for a node refused its endpoints. -/
  | driverInitialization (node : String) (source : DriverError)
  | dataStore (operation message : String)
  | configuration (message : String)
  /-- A request with problems; all of them are listed. -/
  | validation (problems : List String)
  | io (message : String)
  deriving DecidableEq, Repr

namespace Error

def message : Error → String
  | illegalArgument message => "Illegal argument: " ++ message
  | failureResult message => "Request failed: " ++ message
  | noPath message => "No path: " ++ message
  | topologyUnavailable topology message => "Topology '" ++ topology ++ "' unavailable: " ++ message
  | driverAmbiguous target candidates =>
      "Ambiguous activation driver for " ++ target ++ ": " ++ toString candidates ++
        " builders matched"
  | driverNotFound target => "No activation driver found for " ++ target
  | illegalState message => "Illegal state: " ++ message
  | activationFailed driverIndex source =>
      "Activation rolled back: driver #" ++ toString driverIndex ++ " failed: " ++ source.message
  | driverInitialization node source =>
      "Driver initialization failed for node " ++ node ++ ": " ++ source.message
  | dataStore operation message => "Data store operation failed: " ++ operation ++ ": " ++ message
  | configuration message => "Configuration error: " ++ message
  | validation problems => "Validation failed: " ++ "; ".intercalate problems
  | io message => "IO error: " ++ message

def isCallerError : Error → Bool
  | illegalArgument _ | failureResult _ | validation _ => true
  | _ => false

def isSelectionError : Error → Bool
  | driverAmbiguous .. | driverNotFound _ => true
  | _ => false

end Error

end Connectivity
