/-!
# Topologies

A topology is a snapshot of devices, which are its nodes, of their edge points, where traffic enters
and leaves a device, and of the links between edge points. An edge point is addressed from outside
by the service interface points, sips for short, that are mapped to it. Ids are plain strings,
ordered by their characters.
-/
namespace Connectivity

abbrev NodeId := String
abbrev EdgePointId := String
abbrev SipId := String
abbrev ServiceId := String
abbrev TopologyId := String

/-- The topology that requests are resolved in unless another one is configured. -/
def systemTopology : TopologyId := "mef:presto-nrp-topology-system"

/-- The way traffic flows through an edge point, as modelled or as requested. -/
inductive Direction where
  | input
  | output
  | bidirectional
  | unknown
  deriving DecidableEq, Repr

namespace Direction

/-- Traffic can enter the network through such an edge point. -/
def isInputCapable : Direction → Bool
  | input | bidirectional => true
  | output | unknown => false

/-- Traffic can leave the network through such an edge point. -/
def isOutputCapable : Direction → Bool
  | output | bidirectional => true
  | input | unknown => false

/-- A bidirectional edge point serves any request but an unknown one; a directed one serves its own
direction and a request that leaves the direction open; an unknown one serves nothing. -/
def accepts (point requested : Direction) : Bool :=
  match point with
  | bidirectional => requested ≠ unknown
  | input | output => requested = point || requested = bidirectional
  | unknown => false

def name : Direction → String
  | input => "input"
  | output => "output"
  | bidirectional => "bidirectional"
  | unknown => "unknown"

def all : List Direction := [input, output, bidirectional, unknown]

def ofName? (s : String) : Option Direction := all.find? fun d => d.name = s

theorem ofName?_name (d : Direction) : ofName? d.name = some d := by
  cases d <;> decide

end Direction

inductive OperationalState where
  | enabled
  | disabled
  deriving DecidableEq, Repr

namespace OperationalState

def name : OperationalState → String
  | enabled => "enabled"
  | disabled => "disabled"

def ofName? (s : String) : Option OperationalState := [enabled, disabled].find? fun d => d.name = s

theorem ofName?_name (s : OperationalState) : ofName? s.name = some s := by
  cases s <;> decide

end OperationalState

/-- A reference to an edge point by its node and its own id. -/
structure EdgePointRef where
  nodeId : NodeId
  edgePointId : EdgePointId
  deriving DecidableEq, Repr

def EdgePointRef.text (r : EdgePointRef) : String := r.nodeId ++ "/" ++ r.edgePointId

/-- An edge point of a node. Only the first of its mapped sips addresses it in a request. -/
structure EdgePoint where
  id : EdgePointId
  direction : Direction
  mappedSips : List SipId
  deriving DecidableEq, Repr

/-- A device with its edge points, and the family of drivers that configures it. -/
structure Node where
  id : NodeId
  driverId : String
  edgePoints : List EdgePoint
  deriving DecidableEq, Repr

/-- A link between edge points of devices, two as a rule. -/
structure Link where
  id : String
  edgePoints : List EdgePointRef
  state : OperationalState
  deriving DecidableEq, Repr

structure Topology where
  id : TopologyId
  nodes : List Node
  links : List Link
  deriving DecidableEq, Repr

def Node.edgePoint? (n : Node) (id : EdgePointId) : Option EdgePoint :=
  n.edgePoints.find? fun p => p.id = id

def Link.isEnabled (l : Link) : Bool := l.state = .enabled

namespace Topology

def node? (t : Topology) (id : NodeId) : Option Node := t.nodes.find? fun n => n.id = id

/-- The first edge point that `sip` is mapped to, by the order of nodes and then within a node. -/
def findSip? (t : Topology) (sip : SipId) : Option (Node × EdgePoint) :=
  t.nodes.findSome? fun n =>
    (n.edgePoints.find? fun p => p.mappedSips.contains sip).map fun p => (n, p)

end Topology

end Connectivity
