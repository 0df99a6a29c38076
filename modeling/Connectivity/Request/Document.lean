import Connectivity.Request.Basic
import Connectivity.Topology.Document

/-!
# Requests as documents

The JSON notation of endpoints, sub-requests and create requests. An endpoint without a direction
is bidirectional.
-/
namespace Connectivity

def Attributes.toJson (a : Attributes) : Json :=
  .object (a.entries.map fun entry => (entry.1, .string entry.2))

/-- Attributes are written as an object; of a key that comes twice the last value counts. -/
def Attributes.ofJson? : Json → Option Attributes
  | .object members => do
      let pairs ← members.mapM fun (key, j) => j.toString?.map fun value => (key, value)
      return .ofList pairs
  | _ => none

def ServiceType.toJson (t : ServiceType) : Json := .string t.name

def ServiceType.ofJson? : Json → Option ServiceType := Json.toChoice? ofName?

def ServiceEndPoint.toJson (e : ServiceEndPoint) : Json :=
  .object [("local_id", .ofOption .string e.localId), ("sip", .string e.sip),
    ("direction", e.direction.toJson), ("attrs", .ofOption Attributes.toJson e.attributes)]

def ServiceEndPoint.ofJson? (j : Json) : Option ServiceEndPoint := do
  let f ← j.fields? ["local_id", "sip", "direction", "attrs"]
  let localId ← f.orDefault "local_id" none (Json.toOption? Json.toString?)
  let sip ← f.required "sip" Json.toString?
  let direction ← f.orDefault "direction" .bidirectional Direction.ofJson?
  let attributes ← f.orDefault "attrs" none (Json.toOption? Attributes.ofJson?)
  return { localId, sip, direction, attributes }

def EndPoint.toJson (e : EndPoint) : Json :=
  .object [("endpoint", .ofOption ServiceEndPoint.toJson e.endpoint),
    ("nep_ref", .ofOption EdgePointRef.toJson e.point)]

def EndPoint.ofJson? (j : Json) : Option EndPoint := do
  let f ← j.fields? ["endpoint", "nep_ref"]
  let endpoint ← f.optional "endpoint" ServiceEndPoint.ofJson?
  let point ← f.optional "nep_ref" EdgePointRef.ofJson?
  return { endpoint, point }

def SubRequest.toJson (s : SubRequest) : Json :=
  .object [("node_id", .string s.nodeId), ("activation_driver_id", .string s.driverId),
    ("endpoints", .ofList EndPoint.toJson s.endpoints)]

def SubRequest.ofJson? (j : Json) : Option SubRequest := do
  let f ← j.fields? ["node_id", "activation_driver_id", "endpoints"]
  let nodeId ← f.required "node_id" Json.toString?
  let driverId ← f.required "activation_driver_id" Json.toString?
  let endpoints ← f.required "endpoints" (Json.toList? EndPoint.ofJson?)
  return { nodeId, driverId, endpoints }

def CreateRequest.toJson (r : CreateRequest) : Json :=
  .object [("endpoints", .ofList ServiceEndPoint.toJson r.endpoints),
    ("service_type", .ofOption ServiceType.toJson r.serviceType), ("exclusive", .bool r.exclusive)]

def CreateRequest.ofJson? (j : Json) : Option CreateRequest := do
  let f ← j.fields? ["endpoints", "service_type", "exclusive"]
  let endpoints ← f.required "endpoints" (Json.toList? ServiceEndPoint.ofJson?)
  let serviceType ← f.orDefault "service_type" none (Json.toOption? ServiceType.ofJson?)
  let exclusive ← f.orDefault "exclusive" false Json.toBool?
  return { endpoints, serviceType, exclusive }

end Connectivity
