import Connectivity.Json.Basic
import Connectivity.Topology.Basic

/-!
# Topologies as documents

The JSON notation of a topology and its parts. An edge point without a direction has an unknown one,
and lists of sips, edge points, nodes and links may be left out if they are empty.
-/
namespace Connectivity

def Direction.toJson (d : Direction) : Json := .string d.name

def Direction.ofJson? : Json → Option Direction := Json.toChoice? ofName?

def OperationalState.toJson (s : OperationalState) : Json := .string s.name

def OperationalState.ofJson? : Json → Option OperationalState := Json.toChoice? ofName?

def EdgePointRef.toJson (r : EdgePointRef) : Json :=
  .object [("node_id", .string r.nodeId), ("edge_point_id", .string r.edgePointId)]

def EdgePointRef.ofJson? (j : Json) : Option EdgePointRef := do
  let f ← j.fields? ["node_id", "edge_point_id"]
  let nodeId ← f.required "node_id" Json.toString?
  let edgePointId ← f.required "edge_point_id" Json.toString?
  return { nodeId, edgePointId }

def EdgePoint.toJson (p : EdgePoint) : Json :=
  .object [("id", .string p.id), ("direction", p.direction.toJson),
    ("mapped_sips", .ofList .string p.mappedSips)]

def EdgePoint.ofJson? (j : Json) : Option EdgePoint := do
  let f ← j.fields? ["id", "direction", "mapped_sips"]
  let id ← f.required "id" Json.toString?
  let direction ← f.orDefault "direction" .unknown Direction.ofJson?
  let mappedSips ← f.orDefault "mapped_sips" [] (Json.toList? Json.toString?)
  return { id, direction, mappedSips }

def Node.toJson (n : Node) : Json :=
  .object [("id", .string n.id), ("activation_driver_id", .string n.driverId),
    ("edge_points", .ofList EdgePoint.toJson n.edgePoints)]

def Node.ofJson? (j : Json) : Option Node := do
  let f ← j.fields? ["id", "activation_driver_id", "edge_points"]
  let id ← f.required "id" Json.toString?
  let driverId ← f.required "activation_driver_id" Json.toString?
  let edgePoints ← f.orDefault "edge_points" [] (Json.toList? EdgePoint.ofJson?)
  return { id, driverId, edgePoints }

def Link.toJson (l : Link) : Json :=
  .object [("id", .string l.id), ("edge_points", .ofList EdgePointRef.toJson l.edgePoints),
    ("operational_state", l.state.toJson)]

def Link.ofJson? (j : Json) : Option Link := do
  let f ← j.fields? ["id", "edge_points", "operational_state"]
  let id ← f.required "id" Json.toString?
  let edgePoints ← f.required "edge_points" (Json.toList? EdgePointRef.ofJson?)
  let state ← f.required "operational_state" OperationalState.ofJson?
  return { id, edgePoints, state }

def Topology.toJson (t : Topology) : Json :=
  .object [("id", .string t.id), ("nodes", .ofList Node.toJson t.nodes),
    ("links", .ofList Link.toJson t.links)]

def Topology.ofJson? (j : Json) : Option Topology := do
  let f ← j.fields? ["id", "nodes", "links"]
  let id ← f.required "id" Json.toString?
  let nodes ← f.orDefault "nodes" [] (Json.toList? Node.ofJson?)
  let links ← f.orDefault "links" [] (Json.toList? Link.ofJson?)
  return { id, nodes, links }

end Connectivity
