import Connectivity.Request.Document
import Connectivity.Service.Basic
import Connectivity.Time.Notation

/-!
# Services as documents

The JSON notation of connections and services.
-/
namespace Connectivity

def Instant.toJson (t : Instant) : Json := .string t.text

def Instant.ofJson? (j : Json) : Option Instant := j.toString?.bind Instant.ofText?

def Connection.toJson (c : Connection) : Json :=
  .object [("id", .string c.id), ("node_id", .string c.nodeId),
    ("activation_driver_id", .string c.driverId),
    ("endpoints", .ofList EndPoint.toJson c.endpoints)]

def Connection.ofJson? (j : Json) : Option Connection := do
  let f ← j.fields? ["id", "node_id", "activation_driver_id", "endpoints"]
  let id ← f.required "id" Json.toString?
  let nodeId ← f.required "node_id" Json.toString?
  let driverId ← f.required "activation_driver_id" Json.toString?
  let endpoints ← f.required "endpoints" (Json.toList? EndPoint.ofJson?)
  return { id, nodeId, driverId, endpoints }

namespace Service

/-- All of a service but the time of its creation. -/
def summary (s : Service) : List (String × Json) :=
  [("id", .string s.id), ("service_type", s.serviceType.toJson), ("exclusive", .bool s.exclusive),
    ("endpoints", .ofList ServiceEndPoint.toJson s.endpoints),
    ("connections", .ofList Connection.toJson s.connections)]

def toJson (s : Service) : Json := .object (s.summary ++ [("created_at", s.createdAt.toJson)])

def ofJson? (j : Json) : Option Service := do
  let f ← j.fields?
    ["id", "service_type", "exclusive", "endpoints", "connections", "created_at"]
  let id ← f.required "id" Json.toString?
  let serviceType ← f.required "service_type" ServiceType.ofJson?
  let exclusive ← f.required "exclusive" Json.toBool?
  let endpoints ← f.required "endpoints" (Json.toList? ServiceEndPoint.ofJson?)
  let connections ← f.required "connections" (Json.toList? Connection.ofJson?)
  let createdAt ← f.required "created_at" Instant.ofJson?
  return { id, serviceType, exclusive, endpoints, connections, createdAt }

end Service

end Connectivity
