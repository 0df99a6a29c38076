import Connectivity.Request.Basic

/-!
# Sample topologies

Small topologies to try things on. Their edge points are named after the node, a colon and a number,
and each has a sip of its own, which is named after it.
-/
namespace Connectivity

namespace Sample

/-- The sip that addresses an edge point. -/
def sip (point : EdgePointId) : SipId := "sip:" ++ point

/-- The node that an edge point is named after: all before the first colon. -/
def nodeOf (point : EdgePointId) : NodeId := String.ofList (point.toList.takeWhile (· ≠ ':'))

def edgePoint (id : EdgePointId) (direction : Direction) : EdgePoint :=
  ⟨id, direction, [sip id]⟩

/-- A node with directed edge points, whose driver family is named like the node. -/
def directedNode (id : NodeId) (points : List (EdgePointId × Direction)) : Node :=
  ⟨id, id, points.map fun (point, direction) => edgePoint point direction⟩

/-- A node with bidirectional edge points and a driver family of its own. -/
def nodeWithDriver (id : NodeId) (driverId : String) (points : List EdgePointId) : Node :=
  ⟨id, driverId, points.map fun point => edgePoint point .bidirectional⟩

/-- A node with bidirectional edge points, whose driver family is named like the node. -/
def node (id : NodeId) (points : List EdgePointId) : Node := nodeWithDriver id id points

/-- A reference to an edge point of the node that it is named after. -/
def ref (point : EdgePointId) : EdgePointRef := ⟨nodeOf point, point⟩

def link (a z : EdgePointId) (state : OperationalState) : Link :=
  ⟨a ++ "-" ++ z, [ref a, ref z], state⟩

def topology (nodes : List Node) (links : List Link) : Topology := ⟨systemTopology, nodes, links⟩

/-- A request for an edge point in a direction; the edge point's name is the local id. -/
def directedEndPoint (point : EdgePointId) (direction : Direction) : ServiceEndPoint :=
  ⟨some point, sip point, direction, none⟩

def endPoint (point : EdgePointId) : ServiceEndPoint := directedEndPoint point .bidirectional

/-- Two nodes of one edge point each, and a link between the two. -/
def linkedPair (state : OperationalState) : Topology :=
  topology [node "n1" ["n1:1"], node "n2" ["n2:1"]] [link "n1:1" "n2:1" state]

/-- Two nodes without a link. -/
def isolatedNodes : Topology :=
  topology [node "n1" ["n1:1", "n1:2", "n1:3"], node "n2" ["n2:1", "n2:2", "n2:3"]] []

/-- Three nodes in a row; the second link is enabled. -/
def threeNodeChain (first : OperationalState) : Topology :=
  topology
    [node "n1" ["n1:1", "n1:2", "n1:3"], node "n2" ["n2:1", "n2:2", "n2:3"],
      node "n3" ["n3:1", "n3:2", "n3:3"]]
    [link "n1:1" "n2:1" first, link "n2:3" "n3:3" .enabled]

/-- Three nodes in a row with directed edge points: traffic flows only from the last node to the
first. -/
def directedChain : Topology :=
  topology
    [directedNode "n1" [("n1:1", .input), ("n1:2", .output), ("n1:3", .input)],
      directedNode "n2" [("n2:1", .output), ("n2:2", .input)],
      directedNode "n3" [("n3:1", .output), ("n3:2", .output), ("n3:3", .input)]]
    [link "n1:3" "n2:1" .enabled, link "n2:2" "n3:1" .enabled]

/-- Three nodes linked to a hub. -/
def star : Topology :=
  topology
    [node "n0" ["n0:1", "n0:2", "n0:3"], node "n1" ["n1:1", "n1:2"], node "n2" ["n2:1", "n2:2"],
      node "n3" ["n3:1", "n3:2"]]
    [link "n0:1" "n1:1" .enabled, link "n0:2" "n2:1" .enabled, link "n0:3" "n3:1" .enabled]

end Sample

end Connectivity
