import Connectivity.Request.Basic

/-!
# Targets of drivers

What a driver is asked to configure on one device: a single edge point, a cross-connect of two, or
several of a multipoint service.
-/
namespace Connectivity

/-- What builders and drivers learn of the service that they take part in. -/
structure Context where
  serviceId : Option ServiceId
  exclusive : Bool
  serviceType : ServiceType
  deriving DecidableEq, Repr

/-- The context of no service. -/
def Context.none : Context := ⟨.none, false, .pointToPoint⟩

/-- An edge point to be driven, with the driver family of its node. -/
structure TargetPoint where
  ref : EdgePointRef
  driverId : String
  endpoint : Option ServiceEndPoint
  deriving DecidableEq, Repr

/-- The edge point of an endpoint, if the endpoint is resolved to one. -/
def TargetPoint.ofEndPoint? (driverId : String) (e : EndPoint) : Option TargetPoint :=
  e.point.map fun ref => ⟨ref, driverId, e.endpoint⟩

def TargetPoint.text (p : TargetPoint) : String := p.ref.text

inductive Target where
  | single (point : TargetPoint)
  | pair (a z : TargetPoint)
  | multipoint (points : List TargetPoint)
  deriving DecidableEq, Repr

namespace Target

/-- The target of a list of edge points that has some. -/
def ofPoints? : List TargetPoint → Option Target
  | [] => none
  | [p] => some (single p)
  | [a, z] => some (pair a z)
  | points => some (multipoint points)

/-- The target of a sub-request whose endpoints are all resolved. -/
def ofSubRequest? (s : SubRequest) : Option Target := do
  let points ← s.endpoints.mapM (TargetPoint.ofEndPoint? s.driverId)
  ofPoints? points

def points : Target → List TargetPoint
  | single p => [p]
  | pair a z => [a, z]
  | multipoint points => points

def text (t : Target) : String := "[" ++ ", ".intercalate (t.points.map TargetPoint.text) ++ "]"

end Target

/-- The three kinds of target. -/
inductive TargetKind where
  | single
  | pair
  | multipoint
  deriving DecidableEq, Repr

namespace TargetKind

def name : TargetKind → String
  | single => "single"
  | pair => "pair"
  | multipoint => "multipoint"

def all : List TargetKind := [single, pair, multipoint]

def ofName? (s : String) : Option TargetKind := all.find? fun k => k.name = s

end TargetKind

def Target.kind : Target → TargetKind
  | single _ => .single
  | pair .. => .pair
  | multipoint _ => .multipoint

end Connectivity
