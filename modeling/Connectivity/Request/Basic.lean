import Connectivity.Request.Attributes
import Connectivity.Topology.Basic

/-!
# Requested endpoints and sub-requests

A caller asks for connectivity between endpoints, each named by a sip. Decomposition decorates them
with the edge points they resolve to and adds those that traffic only passes through. The part of a
request that falls on one device is a sub-request.
-/
namespace Connectivity

/-- An endpoint as the caller gives it; the local id is the caller's own name for it. -/
structure ServiceEndPoint where
  localId : Option String
  sip : SipId
  direction : Direction
  attributes : Option Attributes
  deriving DecidableEq, Repr

namespace ServiceEndPoint

/-- A bidirectional endpoint without a local id and without attributes. -/
def ofSip (sip : SipId) : ServiceEndPoint := ⟨none, sip, .bidirectional, none⟩

def withAttribute (e : ServiceEndPoint) (key value : String) : ServiceEndPoint :=
  { e with attributes := some ((e.attributes.getD .empty).insert key value) }

/-- The name by which messages speak of the endpoint. -/
def label (e : ServiceEndPoint) : String := e.localId.getD e.sip

end ServiceEndPoint

/-- An endpoint as a driver sees it. Without the caller's part traffic only passes through it. -/
structure EndPoint where
  endpoint : Option ServiceEndPoint
  point : Option EdgePointRef
  deriving DecidableEq, Repr

namespace EndPoint

def isSynthetic (e : EndPoint) : Bool := e.endpoint.isNone

def sip? (e : EndPoint) : Option SipId := e.endpoint.map (·.sip)

def edgePointId? (e : EndPoint) : Option EdgePointId := e.point.map (·.edgePointId)

def nodeId? (e : EndPoint) : Option NodeId := e.point.map (·.nodeId)

end EndPoint

/-- The part of a request that falls on one device. -/
structure SubRequest where
  nodeId : NodeId
  driverId : String
  endpoints : List EndPoint
  deriving DecidableEq, Repr

/-- The endpoints that the caller asked for. -/
def SubRequest.serviceEndpoints (s : SubRequest) : List EndPoint :=
  s.endpoints.filter fun e => !e.isSynthetic

/-- The kind of a service by the shape of its traffic. -/
inductive ServiceType where
  | pointToPoint
  | multiPoint
  | rootedMultiPoint
  deriving DecidableEq, Repr

namespace ServiceType

/-- Two endpoints, or fewer, make a point-to-point service. -/
def ofEndpointCount (count : Nat) : ServiceType :=
  if count > 2 then multiPoint else pointToPoint

def name : ServiceType → String
  | pointToPoint => "point-to-point"
  | multiPoint => "multi-point"
  | rootedMultiPoint => "rooted-multi-point"

def ofName? (s : String) : Option ServiceType :=
  [pointToPoint, multiPoint, rootedMultiPoint].find? fun t => t.name = s

theorem ofName?_name (t : ServiceType) : ofName? t.name = some t := by
  cases t <;> decide

end ServiceType

/-- A request for a new service. Its type may be left to follow from the number of endpoints; an
exclusive service owns its edge points. -/
structure CreateRequest where
  endpoints : List ServiceEndPoint
  serviceType : Option ServiceType
  exclusive : Bool
  deriving DecidableEq, Repr

def CreateRequest.effectiveType (r : CreateRequest) : ServiceType :=
  r.serviceType.getD (.ofEndpointCount r.endpoints.length)

end Connectivity
