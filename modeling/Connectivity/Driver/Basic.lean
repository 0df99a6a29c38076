import Connectivity.Driver.Target
import Connectivity.Error

/-!
# Activation drivers

A driver configures one device. It is bound to the endpoints of a sub-request, asked to activate,
deactivate or update them, and at last told to commit or to roll back. What a call does is a script:
events and pauses, and a result at the end. A call under a deadline is cut at the first pause that
would end after it; one that ends on the deadline is in time. A pause of more than thirty years is
taken for one of thirty years.
-/
namespace Connectivity

/-- The calls of a driver's life. -/
inductive DriverOp where
  | bind
  | activate
  | deactivate
  | update
  | commit
  | rollback
  deriving DecidableEq, Repr

namespace DriverOp

def all : List DriverOp := [bind, activate, deactivate, update, commit, rollback]

def name : DriverOp → String
  | bind => "initialize"
  | activate => "activate"
  | deactivate => "deactivate"
  | update => "update"
  | commit => "commit"
  | rollback => "rollback"

/-- The name with a capital, as messages have it. -/
def title : DriverOp → String
  | bind => "Initialize"
  | activate => "Activate"
  | deactivate => "Deactivate"
  | update => "Update"
  | commit => "Commit"
  | rollback => "Rollback"

def ofName? (s : String) : Option DriverOp := all.find? fun op => op.name = s

end DriverOp

/-- The calls that change a device. -/
inductive Operation where
  | activate
  | deactivate
  | update
  deriving DecidableEq, Repr

def Operation.call : Operation → DriverOp
  | activate => .activate
  | deactivate => .deactivate
  | update => .update

/-- The two ways in which a change ends. -/
inductive Settlement where
  | commit
  | rollback
  deriving DecidableEq, Repr

def Settlement.call : Settlement → DriverOp
  | commit => .commit
  | rollback => .rollback

/-- One thing that a call does: it emits an event, or it lets time pass. -/
inductive Action (ε : Type) where
  | emit (event : ε)
  | pause (millis : Nat)
  deriving DecidableEq, Repr

/-- What a call does, and how it ends if it is not cut. -/
structure Script (ε : Type) where
  actions : List (Action ε)
  result : Except DriverError Unit

namespace Script

variable {ε : Type}

def succeed : Script ε := ⟨[], .ok ()⟩

/-- The second call follows only if the first one succeeds. -/
def andThen (s t : Script ε) : Script ε :=
  match s.result with
  | .ok () => ⟨s.actions ++ t.actions, t.result⟩
  | .error _ => s

end Script

/-- A limit in milliseconds for each call, or none. -/
abbrev Deadline := Option Nat

/-- How actions went: the events that came, the time it took, and whether they were cut. -/
structure Playback (ε : Type) where
  events : List ε
  elapsed : Nat
  cut : Bool
  deriving DecidableEq, Repr

/-- No pause is longer than thirty years, in milliseconds. -/
def longestPause : Nat := 946080000000

/-- Plays actions after `spent` milliseconds of a call. -/
def playActions {ε : Type} (deadline : Deadline) : List (Action ε) → Nat → Playback ε
  | [], spent => ⟨[], spent, false⟩
  | .emit event :: rest, spent =>
      let p := playActions deadline rest spent
      { p with events := event :: p.events }
  | .pause millis :: rest, spent =>
      let spent := spent + min millis longestPause
      match deadline with
      | none => playActions none rest spent
      | some limit =>
          if spent ≤ limit then playActions (some limit) rest spent else ⟨[], limit, true⟩

/-- What a driver is bound to. -/
structure Assignment where
  endpoints : List EndPoint
  serviceId : ServiceId
  context : Context
  deriving DecidableEq, Repr

/-- A driver by what its calls do. Binding takes no time; a settlement has no result. -/
structure Driver (ε : Type) where
  name : String
  priority : Int
  bind : Assignment → List ε × Except DriverError Unit
  script : Operation → Script ε
  settlement : Settlement → List (Action ε)

namespace Driver

variable {ε : Type}

/-- The name and the priority of a driver that states none. -/
def defaultName : String := "activation-driver"

def defaultPriority : Int := 0

/-- Unless a driver has a better way, it updates a device by deactivating and activating it. -/
def defaultUpdate (activate deactivate : Script ε) : Script ε := deactivate.andThen activate

/-- The course of a call that changes the device. -/
structure CallRun (ε : Type) where
  events : List ε
  elapsed : Nat
  result : Except DriverError Unit

/-- Calls an operation; a call that is cut has timed out. -/
def invoke (d : Driver ε) (op : Operation) (deadline : Deadline) : CallRun ε :=
  let script := d.script op
  let p := playActions deadline script.actions 0
  ⟨p.events, p.elapsed,
    if p.cut then .error (.timeout op.call.name (deadline.getD 0)) else script.result⟩

/-- Calls a settlement; one that is cut is given up without a word. -/
def settle (d : Driver ε) (kind : Settlement) (deadline : Deadline) : Playback ε :=
  playActions deadline (d.settlement kind) 0

end Driver

end Connectivity
