import Connectivity.Config.Basic
import Connectivity.Service.Basic

/-!
# Validation of requests

Checks made before a request reaches decomposition or a driver. They collect problems; a request
with none is valid.
-/
namespace Connectivity

/-- The problems found so far. -/
structure Validation where
  problems : List String
  deriving DecidableEq, Repr

namespace Validation

def clean : Validation := ⟨[]⟩

def problem (v : Validation) (message : String) : Validation := ⟨v.problems ++ [message]⟩

/-- Adds a problem if a condition holds. -/
def problemIf (v : Validation) (condition : Bool) (message : String) : Validation :=
  if condition then v.problem message else v

def merge (v w : Validation) : Validation := ⟨v.problems ++ w.problems⟩

def isValid (v : Validation) : Bool := v.problems.isEmpty

def toExcept (v : Validation) : Except Error Unit :=
  if v.isValid then .ok () else .error (.validation v.problems)

end Validation

/-- The first item that is the same as one before it, where `before` went before the list. -/
def firstRepeated? {α : Type} [DecidableEq α] (before : List α) : List α → Option α
  | [] => none
  | x :: rest => if x ∈ before then some x else firstRepeated? (before ++ [x]) rest

namespace ValidationSettings

/-- Checks a request for a new service. Without any endpoint there is nothing else to check. -/
def checkCreate (settings : ValidationSettings) (r : CreateRequest) : Validation :=
  if r.endpoints.isEmpty then
    Validation.clean.problem "No endpoints specified for a connectivity service"
  else
    let count := r.endpoints.length
    let v := Validation.clean.problemIf (count < settings.minEndpoints)
      ("At least " ++ toString settings.minEndpoints ++ " endpoints required, got " ++
        toString count)
    let v :=
      if settings.rejectDuplicateLocalIds then
        match firstRepeated? [] (r.endpoints.filterMap (·.localId)) with
        | some id => v.problem ("A duplicate endpoint id: " ++ id)
        | none => v
      else v
    match firstRepeated? [] (r.endpoints.map (·.sip)) with
    | some sip => v.problem ("A duplicate service interface point: " ++ sip)
    | none => v

end ValidationSettings

/-- Checks an endpoint against the service that it is to be changed in: the service must have an
endpoint of its local id, and the sip may not change. -/
def Service.checkUpdate (s : Service) (e : ServiceEndPoint) : Validation :=
  match e.localId with
  | none => Validation.clean.problem ("Endpoint local id not defined for " ++ s.id)
  | some localId =>
      match s.endpoint? localId with
      | none =>
          Validation.clean.problem
            ("No endpoint with local id " ++ localId ++ " defined for " ++ s.id)
      | some existing =>
          Validation.clean.problemIf (existing.sip ≠ e.sip)
            ("Sip mapping for endpoint " ++ localId ++ " is not matching for service " ++ s.id)

end Connectivity
