import Connectivity.Request.Basic
import Connectivity.Time.Instant

/-!
# Connectivity services

The record of an activated service: its endpoints as they were asked for, and for each device the
connection that was made there.
-/
namespace Connectivity

/-- The part of a service on one device. -/
structure Connection where
  id : String
  nodeId : NodeId
  driverId : String
  endpoints : List EndPoint
  deriving DecidableEq, Repr

namespace Connection

/-- The connection that an activated sub-request makes. -/
def ofSubRequest (serviceId : ServiceId) (s : SubRequest) : Connection :=
  ⟨serviceId ++ ":" ++ s.nodeId, s.nodeId, s.driverId, s.endpoints⟩

def toSubRequest (c : Connection) : SubRequest := ⟨c.nodeId, c.driverId, c.endpoints⟩

@[simp] theorem toSubRequest_ofSubRequest (serviceId : ServiceId) (s : SubRequest) :
    (ofSubRequest serviceId s).toSubRequest = s := rfl

end Connection

structure Service where
  id : ServiceId
  serviceType : ServiceType
  exclusive : Bool
  endpoints : List ServiceEndPoint
  connections : List Connection
  createdAt : Instant
  deriving DecidableEq, Repr

namespace Service

/-- The first endpoint with a local id. -/
def endpoint? (s : Service) (localId : String) : Option ServiceEndPoint :=
  s.endpoints.find? fun e => e.localId = some localId

/-- The endpoint put in the place of one with its local id. -/
def substitute (localId : String) (new old : ServiceEndPoint) : ServiceEndPoint :=
  if old.localId = some localId then new else old

/-- The same within an endpoint of a connection. -/
def substituteIn (localId : String) (new : ServiceEndPoint) (e : EndPoint) : EndPoint :=
  { e with endpoint := e.endpoint.map (substitute localId new) }

/-- The service with an endpoint in the place of every one with its local id, in the connections
too. -/
def replaceEndpoint (s : Service) (e : ServiceEndPoint) : Service :=
  match e.localId with
  | none => s
  | some localId =>
      { s with
        endpoints := s.endpoints.map (substitute localId e)
        connections := s.connections.map fun c =>
          { c with endpoints := c.endpoints.map (substituteIn localId e) } }

/-- The service has an endpoint to be replaced. -/
def replaces (s : Service) (e : ServiceEndPoint) : Bool :=
  e.localId.any fun localId => s.endpoints.any fun old => old.localId = some localId

end Service

end Connectivity
