import Connectivity.Config.Basic
import Connectivity.Driver.Activity

/-!
# Activation transactions

A transaction runs the drivers of one request, all or nothing. They are called in the order of their
priorities, those of one priority in the order of their addition. If all succeed then all commit;
the first failure ends the calls, and then all are rolled back, called or not. A transaction runs
once.
-/
namespace Connectivity

/-- While its drivers run a transaction is activating, which no caller sees. -/
inductive TransactionState where
  | building
  | activating
  | committed
  | rolledBack
  deriving DecidableEq, Repr

def TransactionState.name : TransactionState → String
  | building => "Building"
  | activating => "Activating"
  | committed => "Committed"
  | rolledBack => "RolledBack"

/-- The driver that failed, by its position in execution order. -/
structure TransactionFailure where
  driverIndex : Nat
  driver : String
  priority : Int
  error : DriverError
  deriving DecidableEq, Repr

/-- How a transaction ended. -/
structure TransactionOutcome where
  state : TransactionState
  failure : Option TransactionFailure
  deriving DecidableEq, Repr

namespace TransactionOutcome

def isCommitted (o : TransactionOutcome) : Bool := o.state = .committed

def toExcept (o : TransactionOutcome) : Except Error Unit :=
  match o.failure with
  | none => .ok ()
  | some f => .error (.activationFailed f.driverIndex f.error)

end TransactionOutcome

structure Transaction (ε : Type) where
  drivers : List (Instance ε)
  state : TransactionState
  rollbackOrder : RollbackOrder
  deadline : Deadline

namespace Transaction

variable {ε : Type}

def new (rollbackOrder : RollbackOrder) (deadline : Deadline) : Transaction ε :=
  ⟨[], .building, rollbackOrder, deadline⟩

/-- A transaction with the rollback order and the deadline that are configured. -/
def ofConfig (config : Config) : Transaction ε :=
  new config.activation.rollbackOrder config.deadline

/-- Drivers can be added until the transaction runs. -/
def add (t : Transaction ε) (i : Instance ε) : Except Error (Transaction ε) :=
  if t.state = .building then .ok { t with drivers := t.drivers ++ [i] }
  else
    .error (.illegalState ("cannot add driver to transaction in state " ++ t.state.name))

/-- Ascending priorities; the sort keeps the order of drivers with one priority. -/
def executionOrder (drivers : List (Instance ε)) : List (Instance ε) :=
  drivers.mergeSort fun a b => a.driver.priority ≤ b.driver.priority

/-- What calling drivers brought about: the course of it, and the failure that ended it. -/
structure Sweep (ε : Type) where
  trace : List (Occurrence ε)
  elapsed : Nat
  failure : Option TransactionFailure

/-- Calls drivers in turn, from position `index` on, until one fails. -/
def callAll (op : Operation) (deadline : Deadline) : Nat → List (Instance ε) → Sweep ε
  | _, [] => ⟨[], 0, none⟩
  | index, i :: rest =>
      let run := i.driver.invoke op deadline
      let head := .called i.id op.call :: run.events.map .emitted
      match run.result with
      | .error e => ⟨head, run.elapsed, some ⟨index, i.driver.name, i.driver.priority, e⟩⟩
      | .ok () =>
          let others := callAll op deadline (index + 1) rest
          ⟨head ++ others.trace, run.elapsed + others.elapsed, others.failure⟩

/-- Settles drivers in turn; what one of them does is no concern of the others. -/
def settleAll (kind : Settlement) (deadline : Deadline) : List (Instance ε) → Sweep ε
  | [] => ⟨[], 0, none⟩
  | i :: rest =>
      let run := i.driver.settle kind deadline
      let others := settleAll kind deadline rest
      ⟨.called i.id kind.call :: run.events.map .emitted ++ others.trace,
        run.elapsed + others.elapsed, none⟩

/-- The order in which drivers are rolled back. -/
def rollbackSequence (order : RollbackOrder) (drivers : List (Instance ε)) : List (Instance ε) :=
  match order with
  | .forward => drivers
  | .reverse => drivers.reverse

/-- The transaction as its drivers begin to run. -/
def start (t : Transaction ε) : Transaction ε :=
  { t with drivers := executionOrder t.drivers, state := .activating }

/-- Runs the drivers of a started transaction and settles them. -/
def finish (t : Transaction ε) (op : Operation) :
    Transaction ε × Activity ε TransactionOutcome :=
  let calls := callAll op t.deadline 0 t.drivers
  let (state, settlement) := match calls.failure with
    | none => (TransactionState.committed, settleAll .commit t.deadline t.drivers)
    | some _ =>
        (.rolledBack,
          settleAll .rollback t.deadline (rollbackSequence t.rollbackOrder t.drivers))
  ({ t with state },
    ⟨calls.trace ++ settlement.trace, calls.elapsed + settlement.elapsed,
      .ok ⟨state, calls.failure⟩⟩)

/-- Runs an operation on all drivers: the transaction afterwards, and the course of it. -/
def run (t : Transaction ε) (op : Operation) :
    Transaction ε × Activity ε TransactionOutcome :=
  if t.state ≠ .building then
    (t, .ofExcept (.error
      (.illegalState ("transaction already executed, state " ++ t.state.name))))
  else if t.drivers.isEmpty then
    (t, .ofExcept (.error (.illegalState "at least one driver required")))
  else t.start.finish op

end Transaction

end Connectivity
