import Std.Data.TreeMap
import Connectivity.Driver.Activity

/-!
# The registry of builders

Builders make drivers. Each is registered under its id, and a later one of the same id takes its
place. To select a driver every registered builder is asked, in the order of ids, and exactly one of
them must answer.
-/
namespace Connectivity

/-- A builder may offer a fresh driver for a target. It may emit events while it decides. -/
structure Builder (ε : Type) where
  id : String
  offer : Target → Context → List ε × Option (Driver ε)

structure Registry (ε : Type) where
  builders : Std.TreeMap String (Builder ε)

namespace Registry

variable {ε : Type}

def empty : Registry ε := ⟨∅⟩

/-- The registry with a builder added, and the builder that it replaces. -/
def register (r : Registry ε) (b : Builder ε) : Registry ε × Option (Builder ε) :=
  (⟨r.builders.insert b.id b⟩, r.builders[b.id]?)

/-- The registry without a builder, and the builder removed. -/
def unregister (r : Registry ε) (id : String) : Registry ε × Option (Builder ε) :=
  (⟨r.builders.erase id⟩, r.builders[id]?)

theorem getElem?_register (r : Registry ε) (b : Builder ε) (id : String) :
    (r.register b).1.builders[id]? = if b.id = id then some b else r.builders[id]? := by
  simp only [register, Std.TreeMap.getElem?_insert, Std.LawfulEqOrd.compare_eq_iff_eq]

theorem getElem?_unregister (r : Registry ε) (removed id : String) :
    (r.unregister removed).1.builders[id]? = if removed = id then none else r.builders[id]? := by
  simp only [unregister, Std.TreeMap.getElem?_erase, Std.LawfulEqOrd.compare_eq_iff_eq]

def ids (r : Registry ε) : List String := r.builders.keys

def size (r : Registry ε) : Nat := r.builders.size

def isEmpty (r : Registry ε) : Bool := r.builders.isEmpty

/-- What asking one builder adds: its events, and the driver it offers. -/
def probe (slot : Nat) (target : Target) (context : Context) (b : Builder ε) :
    List (Occurrence ε) × Option (Instance ε) :=
  let (events, offered) := b.offer target context
  (.probed slot b.id :: events.map .emitted, offered.map fun d => ⟨⟨slot, b.id⟩, d⟩)

/-- Exactly one candidate is a selection. -/
def choose (target : Target) : List (Instance ε) → Except Error (Instance ε)
  | [] => .error (.driverNotFound target.text)
  | [i] => .ok i
  | candidates => .error (.driverAmbiguous target.text candidates.length)

/-- Asks all builders for a driver of a target. -/
def selectFor (r : Registry ε) (slot : Nat) (target : Target) (context : Context) :
    Activity ε (Instance ε) :=
  let answers := r.builders.values.map (probe slot target context)
  ⟨answers.flatMap (·.1), 0, choose target (answers.filterMap (·.2))⟩

/-- Selects the driver of a sub-request whose endpoints are all resolved. -/
def select (r : Registry ε) (slot : Nat) (s : SubRequest) (context : Context) :
    Activity ε (Instance ε) :=
  match Target.ofSubRequest? s with
  | none =>
      .ofExcept (.error (.illegalArgument
        ("sub-request for node " ++ s.nodeId ++ " has no resolved endpoints")))
  | some target => r.selectFor slot target context

end Registry

end Connectivity
