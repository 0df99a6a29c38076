import Connectivity.Graph.Search
import Connectivity.Request.Basic

/-!
# Decomposition of requests

A request is split into one sub-request per device by a shortest path from every endpoint in the
input role to every other one in the output role. All these paths must exist, or the request cannot
be connected and there is no decomposition. Each edge point on some path occurs once: with the
caller's endpoint if its sip was asked for, else as one that traffic passes through.
-/
namespace Connectivity

/-- A requested endpoint with the vertex that its sip resolves to. -/
structure ResolvedEndPoint where
  vertex : Vertex
  requested : Direction
  deriving DecidableEq, Repr

namespace Decomposition

/-- The requested sips that resolve to no vertex, each once and in ascending order. -/
def missingSips (g : Graph) (endpoints : List ServiceEndPoint) : List SipId :=
  let missing := (endpoints.map (·.sip)).filter fun sip => (g.vertexOfSip? sip).isNone
  (missing.foldl (fun sips sip => sips.insert sip) (∅ : Std.TreeSet SipId)).toList

/-- Resolves an endpoint and compares its direction with that of the edge point. -/
def resolve (g : Graph) (e : ServiceEndPoint) : Except Error ResolvedEndPoint :=
  match g.vertexOfSip? e.sip with
  | none => .error (.failureResult ("Service interface point " ++ e.sip ++ " not found"))
  | some v =>
      if e.direction = .unknown then
        .error (.illegalArgument ("Port direction for " ++ e.label ++ " not specified"))
      else if v.direction.accepts e.direction then .ok ⟨v, e.direction⟩
      else
        .error (.illegalArgument ("Port direction for " ++ e.label ++
          " incompatible with NEP. CEP " ++ e.direction.name ++ " NEP " ++ v.direction.name))

/-- The first endpoint that names the sip of another endpoint before it. Repeating an endpoint as
it is does no harm. -/
def sharedSip? : List ServiceEndPoint → List ServiceEndPoint → Option SipId
  | _, [] => none
  | before, e :: rest =>
      if before.any fun o => o.sip = e.sip && o ≠ e then some e.sip
      else sharedSip? (before ++ [e]) rest

/-- The pairs of an input and an output on two vertices, inputs first. -/
def pairs (resolved : List ResolvedEndPoint) : List (EdgePointId × EdgePointId) :=
  let inputs := resolved.filter (·.requested.isInputCapable)
  let outputs := resolved.filter (·.requested.isOutputCapable)
  inputs.flatMap fun i =>
    (outputs.filter fun o => o.vertex.edgePointId ≠ i.vertex.edgePointId).map fun o =>
      (i.vertex.edgePointId, o.vertex.edgePointId)

/-- A path for every pair, if there is one for each. -/
def paths? (g : Graph) (pairs : List (EdgePointId × EdgePointId)) : Option (List (List Vertex)) :=
  pairs.mapM fun (a, b) => g.shortestPath a b

/-- What a driver is told of a vertex: the first endpoint that asks for its sip, if any does. -/
def endPointAt (endpoints : List ServiceEndPoint) (v : Vertex) : EndPoint :=
  ⟨v.sip.bind fun sip => endpoints.find? fun e => e.sip = sip, some v.ref⟩

/-- The vertices of one node: its driver family, as its first vertex has it, and what a driver is
told of each vertex, by id. -/
structure Group where
  driverId : String
  points : Std.TreeMap EdgePointId EndPoint

/-- Puts a vertex into the group of its node. -/
def addToGroups (endpoints : List ServiceEndPoint) (groups : Std.TreeMap NodeId Group)
    (v : Vertex) : Std.TreeMap NodeId Group :=
  let group := groups.getD v.nodeId ⟨v.driverId, ∅⟩
  groups.insert v.nodeId
    { group with points := group.points.insertIfNew v.edgePointId (endPointAt endpoints v) }

/-- The sub-requests of some vertices: nodes by id, and in each its edge points by id. -/
def subRequests (endpoints : List ServiceEndPoint) (vertices : List Vertex) : List SubRequest :=
  (vertices.foldl (addToGroups endpoints) ∅).toList.map fun (nodeId, group) =>
    ⟨nodeId, group.driverId, group.points.values⟩

/-- A request needs two endpoints. -/
def checkCount (endpoints : List ServiceEndPoint) : Except Error Unit :=
  if endpoints.length < 2 then
    .error (.illegalArgument "there should be at least two endpoints defined")
  else .ok ()

/-- Splits a request of at least two endpoints in a graph. -/
def inGraph (g : Graph) (endpoints : List ServiceEndPoint) :
    Except Error (Option (List SubRequest)) := do
  let missing := missingSips g endpoints
  unless missing.isEmpty do
    throw (.failureResult ("Some service interface points not found in the system: [" ++
      ",".intercalate missing ++ "]"))
  let resolved ← endpoints.mapM (resolve g)
  if let some sip := sharedSip? [] endpoints then
    throw (.illegalArgument
      ("Service interface point " ++ sip ++ " requested by more than one endpoint"))
  match paths? g (pairs resolved) with
  | none => return none
  | some paths =>
      let result := subRequests endpoints paths.flatten
      return if result.isEmpty then none else some result

end Decomposition

/-- Splits a request over a topology; `none` if its endpoints cannot be connected. -/
def decompose (t : Topology) (endpoints : List ServiceEndPoint) :
    Except Error (Option (List SubRequest)) := do
  Decomposition.checkCount endpoints
  let g ← Graph.ofTopology t
  Decomposition.inGraph g endpoints

end Connectivity
