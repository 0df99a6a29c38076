import Connectivity.Driver.Basic
import Connectivity.Text.Quoted

/-!
# Call logs

The calls that drivers received, in order, and checks on them that say what was expected and what
was found.
-/
namespace Connectivity

/-- A call that the named driver received. -/
structure Call where
  driver : String
  op : DriverOp
  deriving DecidableEq, Repr

abbrev CallLog := List Call

/-- Why a check on a call log failed. -/
inductive CallMismatch where
  | count (driver : String) (op : DriverOp) (expected actual : Nat)
  | order (op : DriverOp) (expected actual : List String)
  deriving DecidableEq, Repr

def CallMismatch.message : CallMismatch → String
  | count driver op expected actual =>
      "Driver '" ++ driver ++ "' expected " ++ toString expected ++ " " ++ op.title ++
        " calls, got " ++ toString actual
  | order op expected actual =>
      "Expected " ++ op.title ++ " order " ++ Text.quotedList expected ++ ", got " ++
        Text.quotedList actual

namespace CallLog

/-- The calls that one driver received. -/
def opsFor (log : CallLog) (driver : String) : List DriverOp :=
  (log.filter fun c => c.driver = driver).map (·.op)

/-- The drivers that received a call, as often as they did. -/
def driversWith (log : CallLog) (op : DriverOp) : List String :=
  (log.filter fun c => c.op = op).map (·.driver)

def count (log : CallLog) (driver : String) (op : DriverOp) : Nat :=
  log.countP fun c => c.driver = driver && c.op = op

/-- The driver received the call as often as expected. -/
def checkCount (log : CallLog) (driver : String) (op : DriverOp) (expected : Nat) :
    Except CallMismatch Unit :=
  let actual := log.count driver op
  if actual = expected then .ok () else .error (.count driver op expected actual)

/-- Exactly these drivers received the call, in this order. -/
def checkOrder (log : CallLog) (op : DriverOp) (expected : List String) :
    Except CallMismatch Unit :=
  let actual := log.driversWith op
  if actual = expected then .ok () else .error (.order op expected actual)

/-- No driver received the call. -/
def checkNone (log : CallLog) (op : DriverOp) : Except CallMismatch Unit := log.checkOrder op []

/-- Every one of the drivers received the call once, and none the other call. -/
def checkSettled (log : CallLog) (drivers : List String) (once never : DriverOp) :
    Except CallMismatch Unit := do
  drivers.forM fun driver => log.checkCount driver once 1
  log.checkNone never

def checkCommitted (log : CallLog) (drivers : List String) : Except CallMismatch Unit :=
  log.checkSettled drivers .commit .rollback

def checkRolledBack (log : CallLog) (drivers : List String) : Except CallMismatch Unit :=
  log.checkSettled drivers .rollback .commit

end CallLog

end Connectivity
