import Connectivity.Proofs.Decomposition.Outcome

/-!
# Where requested endpoints are placed

Every endpoint of a connected request has a part in some pair, whatever its role, so that its vertex
is on a path and the sub-request of its node tells of it. A vertex is told with the caller's
endpoint by the sip that it has, and not by what that sip resolves to. So an endpoint is placed once
unless a path leads through a vertex whose sip is requested but resolves to another vertex.
-/
namespace Connectivity

namespace Decomposition

variable {g : Graph} {endpoints : List ServiceEndPoint}

theorem capable_of_known {d : Direction} (h : d ≠ .unknown) :
    d.isInputCapable = true ∨ d.isOutputCapable = true := by
  cases d with
  | input => exact .inl rfl
  | output => exact .inr rfl
  | bidirectional => exact .inl rfl
  | unknown => exact absurd rfl h

/-- Resolved vertices with one id are equal. -/
theorem eq_of_resolved (hg : g.WellFormed) {sip sip' : SipId} {v w : Vertex}
    (hv : g.vertexOfSip? sip = some v) (hw : g.vertexOfSip? sip' = some w)
    (hid : v.edgePointId = w.edgePointId) : v = w := by
  have hv := (hg.vertexOfSip?_eq_some hv).2
  rw [hid, (hg.vertexOfSip?_eq_some hw).2] at hv
  exact (Option.some.inj hv).symm

/-- The vertex of each endpoint is on a path: an endpoint is paired with either end of any pair that
is not on its own vertex. -/
theorem Connected.onPath (hg : g.WellFormed) (h : Connected g endpoints) {e : ServiceEndPoint}
    (he : e ∈ endpoints) {v : Vertex} (hv : g.vertexOfSip? e.sip = some v) :
    OnPath g endpoints v := by
  obtain ⟨a, b, hpair⟩ := h.paired
  have hends := hpair.onPath hg (h.reaches a b hpair)
  obtain ⟨i, -, -, ha⟩ := hpair.input
  obtain ⟨o, -, -, hb⟩ := hpair.output
  obtain ⟨-, -, hknown, -⟩ := h.admissible.fits e he
  rcases capable_of_known hknown with hinput | houtput
  · by_cases hid : v.edgePointId = b.edgePointId
    · rw [eq_of_resolved hg hv hb hid]
      exact hends.2
    · have hvb : RolePair g endpoints v b := ⟨⟨e, he, hinput, hv⟩, hpair.output, hid⟩
      exact (hvb.onPath hg (h.reaches v b hvb)).1
  · by_cases hid : a.edgePointId = v.edgePointId
    · rw [← eq_of_resolved hg ha hv hid]
      exact hends.1
    · have hav : RolePair g endpoints a v := ⟨hpair.input, ⟨e, he, houtput, hv⟩, hid⟩
      exact (hav.onPath hg (h.reaches a v hav)).2

/-- A vertex whose sip is requested is told with an endpoint of that sip. -/
theorem endPointAt_of_requested {v : Vertex} {e : ServiceEndPoint} (he : e ∈ endpoints)
    (hsip : v.sip = some e.sip) :
    ∃ f ∈ endpoints, f.sip = e.sip ∧ endPointAt endpoints v = ⟨some f, some v.ref⟩ := by
  have hfound : (endpoints.find? fun f => f.sip = e.sip).isSome := by
    rw [List.find?_isSome]
    exact ⟨e, he, by simp⟩
  obtain ⟨f, hf⟩ := Option.isSome_iff_exists.1 hfound
  refine ⟨f, List.mem_of_find?_eq_some hf, by simpa using List.find?_some hf, ?_⟩
  rw [endPointAt, hsip, Option.bind_some, hf]

/-- A vertex that a requested sip resolves to is told with the endpoint that asks for it. -/
theorem endPointAt_of_resolved (hg : g.WellFormed) (h : Admissible g endpoints)
    {e : ServiceEndPoint} (he : e ∈ endpoints) {v : Vertex} (hv : g.vertexOfSip? e.sip = some v) :
    endPointAt endpoints v = ⟨some e, some v.ref⟩ := by
  obtain ⟨f, hf, hsip, heq⟩ := endPointAt_of_requested he (hg.vertexOfSip?_eq_some hv).1
  rw [heq, h.distinct f hf e he hsip]

/-- A caller's endpoint is told of vertices that have its sip. -/
theorem sip_of_endPointAt {v : Vertex} {e : ServiceEndPoint}
    (h : (endPointAt endpoints v).endpoint = some e) : e ∈ endpoints ∧ v.sip = some e.sip := by
  obtain ⟨sip, hsip, hfind⟩ := Option.bind_eq_some_iff.1 h
  have heq : e.sip = sip := by simpa using List.find?_some hfind
  exact ⟨List.mem_of_find?_eq_some hfind, by rw [hsip, heq]⟩

/-- What a decomposition tells of a node are the vertices on paths there. -/
theorem exists_subRequest_iff_onPath (hg : g.WellFormed) {vertices : List Vertex}
    (hmem : ∀ u, u ∈ vertices ↔ OnPath g endpoints u) {node : NodeId} {p : EndPoint} :
    (∃ s ∈ subRequests endpoints vertices, s.nodeId = node ∧ p ∈ s.endpoints) ↔
      ∃ v, OnPath g endpoints v ∧ v.nodeId = node ∧ endPointAt endpoints v = p := by
  rw [exists_subRequest_iff fun v hv w hw hid =>
    OnPath.eq_of_id hg ((hmem v).1 hv) ((hmem w).1 hw) hid]
  simp only [hmem]

/-- All that a decomposition tells of are the vertices on paths. -/
theorem mem_points_iff_onPath (hg : g.WellFormed) {vertices : List Vertex}
    (hmem : ∀ u, u ∈ vertices ↔ OnPath g endpoints u) {p : EndPoint} :
    p ∈ (subRequests endpoints vertices).flatMap (·.endpoints) ↔
      ∃ v, OnPath g endpoints v ∧ endPointAt endpoints v = p := by
  rw [List.mem_flatMap]
  constructor
  · rintro ⟨s, hs, hp⟩
    obtain ⟨v, hv, -, heq⟩ := (exists_subRequest_iff_onPath hg hmem).1 ⟨s, hs, rfl, hp⟩
    exact ⟨v, hv, heq⟩
  · rintro ⟨v, hv, heq⟩
    obtain ⟨s, hs, -, hp⟩ := (exists_subRequest_iff_onPath hg hmem).2 ⟨v, hv, rfl, heq⟩
    exact ⟨s, hs, hp⟩

/-- The sip of the vertex is requested, but resolves to another vertex. -/
def Shadowed (g : Graph) (endpoints : List ServiceEndPoint) (v : Vertex) : Prop :=
  ∃ e ∈ endpoints, v.sip = some e.sip ∧ g.vertexOfSip? e.sip ≠ some v

/-- A vertex on a path that is told with an endpoint is the one its sip resolves to, unless the
vertex is shadowed. -/
theorem vertexOfSip?_of_endPointAt {v : Vertex} (hv : ¬ Shadowed g endpoints v)
    {e : ServiceEndPoint} (h : (endPointAt endpoints v).endpoint = some e) :
    e ∈ endpoints ∧ g.vertexOfSip? e.sip = some v := by
  obtain ⟨he, hsip⟩ := sip_of_endPointAt h
  refine ⟨he, ?_⟩
  by_contra hne
  exact hv ⟨e, he, hsip, hne⟩

/-- A vertex that no requested sip resolves to is passed through, unless it is shadowed. -/
theorem endPointAt_of_passed {v : Vertex} (hv : ¬ Shadowed g endpoints v)
    (hno : ∀ e ∈ endpoints, g.vertexOfSip? e.sip ≠ some v) :
    endPointAt endpoints v = ⟨none, some v.ref⟩ := by
  have hnone : (endPointAt endpoints v).endpoint = none := by
    by_contra hsome
    obtain ⟨e, he⟩ := Option.ne_none_iff_exists'.1 hsome
    obtain ⟨hmem, hresolved⟩ := vertexOfSip?_of_endPointAt hv he
    exact hno e hmem hresolved
  rw [← hnone]
  rfl

/-- Endpoints of one sip are on one edge point if no path leads through a shadowed vertex. -/
theorem countP_sip_le_one (hg : g.WellFormed) {vertices : List Vertex}
    (hmem : ∀ u, u ∈ vertices ↔ OnPath g endpoints u)
    (hclear : ∀ v, OnPath g endpoints v → ¬ Shadowed g endpoints v) (sip : SipId) :
    ((subRequests endpoints vertices).flatMap (·.endpoints)).countP (fun p => p.sip? = some sip) ≤
      1 := by
  have hresolved : ∀ v, OnPath g endpoints v → (endPointAt endpoints v).sip? = some sip →
      g.vertexOfSip? sip = some v := by
    intro v hv hsip
    obtain ⟨e, he, rfl⟩ := Option.map_eq_some_iff.1 hsip
    exact (vertexOfSip?_of_endPointAt (hclear v hv) he).2
  refine countP_le_one_of_pairwise (points_pairwise_ne endpoints vertices) ?_
  intro p hp q hq hpsip hqsip hne
  obtain ⟨v, hv, rfl⟩ := (mem_points_iff_onPath hg hmem).1 hp
  obtain ⟨w, hw, rfl⟩ := (mem_points_iff_onPath hg hmem).1 hq
  have hv := hresolved v hv (of_decide_eq_true hpsip)
  have hw := hresolved w hw (of_decide_eq_true hqsip)
  cases hv.symm.trans hw
  exact hne rfl

/-- The sip of a shadowed vertex on a path is told of twice: there, and where it resolves to. -/
theorem one_lt_countP_sip (hg : g.WellFormed) (h : Connected g endpoints) {vertices : List Vertex}
    (hmem : ∀ u, u ∈ vertices ↔ OnPath g endpoints u) {v : Vertex} (hv : OnPath g endpoints v)
    {e : ServiceEndPoint} (he : e ∈ endpoints) (hsip : v.sip = some e.sip)
    (hne : g.vertexOfSip? e.sip ≠ some v) :
    1 < ((subRequests endpoints vertices).flatMap (·.endpoints)).countP
      (fun p => p.sip? = some e.sip) := by
  obtain ⟨w, hw, -⟩ := h.admissible.fits e he
  have hwpath := h.onPath hg he hw
  obtain ⟨f, -, hf, hvf⟩ := endPointAt_of_requested he hsip
  obtain ⟨f', -, hf', hwf⟩ := endPointAt_of_requested he (hg.vertexOfSip?_eq_some hw).1
  by_contra hle
  have heq : endPointAt endpoints v = endPointAt endpoints w := by
    refine eq_of_countP_le_one (Nat.not_lt.1 hle) ((mem_points_iff_onPath hg hmem).2 ⟨v, hv, rfl⟩)
      ((mem_points_iff_onPath hg hmem).2 ⟨w, hwpath, rfl⟩) ?_ ?_
    · rw [hvf]
      exact decide_eq_true (congrArg some hf)
    · rw [hwf]
      exact decide_eq_true (congrArg some hf')
  have href : v.ref = w.ref := Option.some.inj (congrArg EndPoint.point heq)
  rw [hv.eq_of_ref hg hwpath href] at hne
  exact hne hw

end Decomposition

open Decomposition

variable {t : Topology} {endpoints : List ServiceEndPoint} {subs : List SubRequest}

/-- Every requested endpoint is placed on the vertex that its sip resolves to. -/
theorem decompose_places_endpoints (h : decompose t endpoints = .ok (some subs)) :
    ∃ g, Graph.ofTopology t = .ok g ∧ ∀ e ∈ endpoints, ∃ v, g.vertexOfSip? e.sip = some v ∧
      ∃ s ∈ subs, s.nodeId = v.nodeId ∧ (⟨some e, some v.ref⟩ : EndPoint) ∈ s.endpoints := by
  obtain ⟨g, hg, hanswered⟩ := decompose_eq_ok h
  have hwf := Graph.ofTopology_wellFormed hg
  obtain ⟨hconnected, vertices, hmem, rfl⟩ := hanswered.connected_of_some
  refine ⟨g, hg, fun e he => ?_⟩
  obtain ⟨v, hv, -⟩ := hconnected.admissible.fits e he
  refine ⟨v, hv, (exists_subRequest_iff_onPath hwf hmem).2 ⟨v, ?_, rfl, ?_⟩⟩
  · exact hconnected.onPath hwf he hv
  · exact endPointAt_of_resolved hwf hconnected.admissible he hv

/-- An endpoint that is requested twice is placed as one that is requested once. -/
theorem linkedPair_places_endpoints :
    ∃ subs g, decompose (Sample.linkedPair .enabled) [Sample.directedEndPoint "n1:1" .input,
        Sample.endPoint "n2:1", Sample.directedEndPoint "n1:1" .input] = .ok (some subs) ∧
      Graph.ofTopology (Sample.linkedPair .enabled) = .ok g ∧
      ∀ e ∈ [Sample.directedEndPoint "n1:1" .input, Sample.endPoint "n2:1",
          Sample.directedEndPoint "n1:1" .input],
        ∃ v, g.vertexOfSip? e.sip = some v ∧ ∃ s ∈ subs, s.nodeId = v.nodeId ∧
          (⟨some e, some v.ref⟩ : EndPoint) ∈ s.endpoints := by
  have hsubs : decompose (Sample.linkedPair .enabled) [Sample.directedEndPoint "n1:1" .input,
      Sample.endPoint "n2:1", Sample.directedEndPoint "n1:1" .input] = .ok (some
        [⟨"n1", "n1", [⟨some (Sample.directedEndPoint "n1:1" .input), some (Sample.ref "n1:1")⟩]⟩,
          ⟨"n2", "n2", [⟨some (Sample.endPoint "n2:1"), some (Sample.ref "n2:1")⟩]⟩]) := by
    decide +kernel
  obtain ⟨g, hg, hplaced⟩ := decompose_places_endpoints hsubs
  exact ⟨_, g, hsubs, hg, hplaced⟩

/-- A requested sip is on one endpoint at most, if and only if no path leads through a shadowed
vertex. Only then each caller's endpoint is on the edge point that its sip resolves to, and every
other vertex on a path is passed through. -/
theorem decompose_places_once_iff {g : Graph} (hg : Graph.ofTopology t = .ok g)
    (h : decompose t endpoints = .ok (some subs)) :
    ((∀ e ∈ endpoints, (subs.flatMap (·.endpoints)).countP (fun p => p.sip? = some e.sip) ≤ 1) ↔
      ∀ v, OnPath g endpoints v → ¬ Shadowed g endpoints v) ∧
    (((∀ s ∈ subs, ∀ p ∈ s.endpoints, ∀ e, p.endpoint = some e →
        e ∈ endpoints ∧ ∃ v, g.vertexOfSip? e.sip = some v ∧ p.point = some v.ref) ∧
      ∀ v, OnPath g endpoints v → (∀ e ∈ endpoints, g.vertexOfSip? e.sip ≠ some v) →
        ∃ s ∈ subs, s.nodeId = v.nodeId ∧ (⟨none, some v.ref⟩ : EndPoint) ∈ s.endpoints) ↔
      ∀ v, OnPath g endpoints v → ¬ Shadowed g endpoints v) := by
  obtain ⟨g', hg', hanswered⟩ := decompose_eq_ok h
  cases hg.symm.trans hg'
  have hwf := Graph.ofTopology_wellFormed hg
  obtain ⟨hconnected, vertices, hmem, rfl⟩ := hanswered.connected_of_some
  have hplaced : ∀ {node p}, (∃ s ∈ subRequests endpoints vertices, s.nodeId = node ∧
      p ∈ s.endpoints) ↔ ∃ v, OnPath g endpoints v ∧ v.nodeId = node ∧ endPointAt endpoints v = p :=
    exists_subRequest_iff_onPath hwf hmem
  constructor
  · constructor
    · rintro hcount v hv ⟨e, he, hsip, hne⟩
      have htwice := one_lt_countP_sip hwf hconnected hmem hv he hsip hne
      exact Nat.not_lt.2 (hcount e he) htwice
    · exact fun hclear e _ => countP_sip_le_one hwf hmem hclear e.sip
  · constructor
    · rintro ⟨hresolved, -⟩ v hv ⟨e, he, hsip, hne⟩
      obtain ⟨f, hf, hfsip, hvf⟩ := endPointAt_of_requested he hsip
      obtain ⟨s, hs, -, hp⟩ := hplaced.2 ⟨v, hv, rfl, hvf⟩
      obtain ⟨-, w, hw, href⟩ := hresolved s hs _ hp f rfl
      have hid : v.edgePointId = w.edgePointId :=
        congrArg EdgePointRef.edgePointId (Option.some.inj href)
      rw [OnPath.eq_of_id hwf hv (hconnected.onPath hwf hf hw) hid, ← hfsip] at hne
      exact hne hw
    · intro hclear
      constructor
      · intro s hs p hp e he
        obtain ⟨v, hv, -, rfl⟩ := hplaced.1 ⟨s, hs, rfl, hp⟩
        obtain ⟨hmem, hresolved⟩ := vertexOfSip?_of_endPointAt (hclear v hv) he
        exact ⟨hmem, v, hresolved, rfl⟩
      · intro v hv hno
        exact hplaced.2 ⟨v, hv, rfl, endPointAt_of_passed (hclear v hv) hno⟩

/-- Two nodes in a row. The sip of the first edge point is mapped to the second one too, through
which the path leads. -/
def sipOnTwoEdgePoints : Topology :=
  Sample.topology
    [⟨"n1", "n1", [Sample.edgePoint "n1:1" .bidirectional,
        ⟨"n1:2", .bidirectional, [Sample.sip "n1:1"]⟩]⟩,
      Sample.node "n2" ["n2:1", "n2:2"]]
    [Sample.link "n1:2" "n2:1" .enabled]

def fromEndToEnd : List ServiceEndPoint := [Sample.endPoint "n1:1", Sample.endPoint "n2:2"]

/-- What is told of the first endpoint is told of the second edge point as well. -/
def placedTwice : List SubRequest :=
  [⟨"n1", "n1", [⟨some (Sample.endPoint "n1:1"), some (Sample.ref "n1:1")⟩,
      ⟨some (Sample.endPoint "n1:1"), some (Sample.ref "n1:2")⟩]⟩,
    ⟨"n2", "n2", [⟨none, some (Sample.ref "n2:1")⟩,
      ⟨some (Sample.endPoint "n2:2"), some (Sample.ref "n2:2")⟩]⟩]

theorem sipOnTwoEdgePoints_placed_twice :
    decompose sipOnTwoEdgePoints fromEndToEnd = .ok (some placedTwice) ∧
      ¬ ∀ e ∈ fromEndToEnd,
        (placedTwice.flatMap (·.endpoints)).countP (fun p => p.sip? = some e.sip) ≤ 1 := by
  constructor
  · decide +kernel
  · decide +kernel

theorem sipOnTwoEdgePoints_shadowed :
    ∃ g, Graph.ofTopology sipOnTwoEdgePoints = .ok g ∧
      decompose sipOnTwoEdgePoints fromEndToEnd = .ok (some placedTwice) ∧
      ∃ v, OnPath g fromEndToEnd v ∧ Shadowed g fromEndToEnd v := by
  obtain ⟨g, hg⟩ := (Graph.exists_ofTopology_eq_ok_iff sipOnTwoEdgePoints).2 nofun
  have hsubs : decompose sipOnTwoEdgePoints fromEndToEnd = .ok (some placedTwice) := by
    decide +kernel
  refine ⟨g, hg, hsubs, ?_⟩
  by_contra hclear
  have hcount := (decompose_places_once_iff hg hsubs).1.2 fun v hv hshadowed =>
    hclear ⟨v, hv, hshadowed⟩
  exact absurd hcount (by decide +kernel)

end Connectivity
