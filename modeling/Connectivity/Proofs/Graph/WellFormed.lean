import Connectivity.Graph.Basic

/-!
# Well-formed graphs

The three tables of a graph fit together: a vertex is kept under its own id, a sip resolves to a
vertex that has it, and edges join vertices. Every step by which a graph is built keeps this.
-/
namespace Connectivity

namespace Graph

theorem hasVertex_eq_isSome (g : Graph) (id : EdgePointId) :
    g.hasVertex id = (g.vertex? id).isSome :=
  Std.TreeMap.contains_eq_isSome_getElem?

theorem hasVertex_iff {g : Graph} {id : EdgePointId} :
    g.hasVertex id = true ↔ ∃ v, g.vertex? id = some v := by
  rw [hasVertex_eq_isSome, Option.isSome_iff_exists]

theorem vertex?_eq_none {g : Graph} {id : EdgePointId} (h : ¬ g.hasVertex id = true) :
    g.vertex? id = none := by
  rw [hasVertex_eq_isSome, Bool.not_eq_true, Option.isSome_eq_false_iff] at h
  exact Option.isNone_iff_eq_none.1 h

/-- The tables of a graph speak of the same vertices. -/
structure WellFormed (g : Graph) : Prop where
  id_of_vertex : ∀ {id v}, g.vertex? id = some v → v.edgePointId = id
  vertex_of_sip : ∀ {sip id}, g.sips[sip]? = some id →
    ∃ v, g.vertex? id = some v ∧ v.sip = some sip
  has_targets : ∀ id, g.targets.contains id = g.hasVertex id
  target_of_edge : ∀ {a b}, g.hasEdge a b = true → g.hasVertex b = true

theorem empty_wellFormed : empty.WellFormed where
  id_of_vertex h := by simp [empty, vertex?] at h
  vertex_of_sip h := by simp [empty] at h
  has_targets id := by simp [empty, hasVertex]
  target_of_edge h := by simp [empty, hasEdge] at h

/-- A new vertex has no edges yet, and the edges there are stay as they were. -/
theorem hasEdge_addVertex {g : Graph} (h : g.WellFormed) (v : Vertex) (a b : EdgePointId) :
    (g.addVertex v).hasEdge a b = g.hasEdge a b := by
  by_cases hv : g.hasVertex v.edgePointId = true
  · rw [addVertex, if_pos hv]
  · rw [addVertex, if_neg hv]
    simp only [hasEdge, Std.TreeMap.getD_insert, Std.LawfulEqOrd.compare_eq_iff_eq]
    split
    case isTrue heq =>
      subst heq
      have hno : g.targets.contains v.edgePointId = false := by
        rw [h.has_targets]
        exact Bool.not_eq_true _ ▸ hv
      rw [Std.TreeMap.getD_eq_fallback_of_contains_eq_false hno]
    case isFalse => rfl

/-- A vertex takes the sip that it is the first to have. -/
theorem getElem?_sips_addVertex {g : Graph} {v : Vertex} {sip : SipId} {id : EdgePointId}
    (h : (g.addVertex v).sips[sip]? = some id) :
    g.sips[sip]? = some id ∨
      (id = v.edgePointId ∧ v.sip = some sip ∧ g.vertex? v.edgePointId = none) := by
  by_cases hv : g.hasVertex v.edgePointId = true
  · rw [addVertex, if_pos hv] at h
    exact .inl h
  · rw [addVertex, if_neg hv] at h
    cases hs : v.sip with
    | none => exact .inl (by simpa only [hs] using h)
    | some s =>
        simp only [hs, Std.TreeMap.getElem?_insertIfNew, Std.LawfulEqOrd.compare_eq_iff_eq] at h
        split at h
        case isTrue heq =>
          exact .inr ⟨(Option.some.inj h).symm, congrArg some heq.1, vertex?_eq_none hv⟩
        case isFalse => exact .inl h

theorem addVertex_wellFormed {g : Graph} (h : g.WellFormed) (v : Vertex) :
    (g.addVertex v).WellFormed where
  id_of_vertex {id w} hw := by
    rw [vertex?_addVertex] at hw
    split at hw
    case isTrue heq =>
      subst heq
      cases hg : g.vertex? v.edgePointId with
      | none => simp only [hg, Option.getD_none, Option.some.injEq] at hw; rw [hw]
      | some u =>
          simp only [hg, Option.getD_some, Option.some.injEq] at hw
          exact h.id_of_vertex (hw ▸ hg)
    case isFalse => exact h.id_of_vertex hw
  vertex_of_sip {sip id} hid := by
    rcases getElem?_sips_addVertex hid with hold | ⟨rfl, hsip, hnone⟩
    · obtain ⟨w, hw, hwsip⟩ := h.vertex_of_sip hold
      refine ⟨w, ?_, hwsip⟩
      rw [vertex?_addVertex, hw, Option.getD_some, ite_self]
    · refine ⟨v, ?_, hsip⟩
      rw [vertex?_addVertex, if_pos rfl, hnone, Option.getD_none]
  has_targets id := by
    by_cases hv : g.hasVertex v.edgePointId = true
    · rw [addVertex, if_pos hv]
      exact h.has_targets id
    · rw [addVertex, if_neg hv]
      simp only [hasVertex, Std.TreeMap.contains_insert]
      rw [h.has_targets id, hasVertex]
  target_of_edge {a b} hab := by
    rw [hasEdge_addVertex h] at hab
    obtain ⟨w, hw⟩ := hasVertex_iff.1 (h.target_of_edge hab)
    rw [hasVertex_eq_isSome, vertex?_addVertex, hw, Option.getD_some, ite_self]
    rfl

theorem addEdge_wellFormed {g : Graph} (h : g.WellFormed) (a : EdgePointId) {b : EdgePointId}
    (hb : g.hasVertex b = true) : (g.addEdge a b).WellFormed where
  id_of_vertex := h.id_of_vertex
  vertex_of_sip := h.vertex_of_sip
  has_targets id := by
    rw [addEdge, Std.TreeMap.contains_modify]
    exact h.has_targets id
  target_of_edge {x y} hxy := by
    rcases (hasEdge_addEdge g a b x y).1 hxy with hold | ⟨_, rfl, _⟩
    · exact h.target_of_edge hold
    · exact hb

/-- What each new edge keeps, connecting keeps. -/
theorem connect_induction {P : Graph → Prop} {g : Graph} {sources sinks : List EdgePointId}
    (start : P g)
    (step : ∀ g a b, a ∈ sources → b ∈ sinks → b ≠ a → P g → P (g.addEdge a b)) :
    P (g.connect sources sinks) := by
  have inner : ∀ a ∈ sources, ∀ bs : List EdgePointId, (∀ b ∈ bs, b ∈ sinks ∧ b ≠ a) →
      ∀ g, P g → P (bs.foldl (fun g b => g.addEdge a b) g) := by
    intro a ha bs
    induction bs with
    | nil => exact fun _ g hg => hg
    | cons b bs ih =>
        intro hbs g hg
        obtain ⟨hb, hrest⟩ := List.forall_mem_cons.1 hbs
        exact ih hrest _ (step g a b ha hb.1 hb.2 hg)
  unfold connect
  refine List.foldlRecOn sources _ start fun g hg a ha => ?_
  refine inner a ha _ (fun b hb => ?_) g hg
  have hb := List.mem_filter.1 hb
  exact ⟨hb.1, of_decide_eq_true hb.2⟩

theorem hasVertex_of_mem_inputsAmong {g : Graph} {ids : List EdgePointId} {id : EdgePointId}
    (h : id ∈ g.inputsAmong ids) : g.hasVertex id = true := by
  obtain ⟨v, hv, -⟩ := Option.any_eq_true .. |>.1 (List.mem_filter.1 h).2
  exact hasVertex_iff.2 ⟨v, hv⟩

theorem hasVertex_of_mem_outputsAmong {g : Graph} {ids : List EdgePointId} {id : EdgePointId}
    (h : id ∈ g.outputsAmong ids) : g.hasVertex id = true := by
  obtain ⟨v, hv, -⟩ := Option.any_eq_true .. |>.1 (List.mem_filter.1 h).2
  exact hasVertex_iff.2 ⟨v, hv⟩

theorem connect_wellFormed {g : Graph} (h : g.WellFormed) (sources : List EdgePointId)
    {sinks : List EdgePointId} (hsinks : ∀ b ∈ sinks, g.hasVertex b = true) :
    (g.connect sources sinks).WellFormed := by
  have both : (g.connect sources sinks).WellFormed ∧
      ∀ b ∈ sinks, (g.connect sources sinks).hasVertex b = true := by
    refine connect_induction (P := fun g => g.WellFormed ∧ ∀ b ∈ sinks, g.hasVertex b = true)
      ⟨h, hsinks⟩ fun g a b _ hb _ hg => ?_
    exact ⟨addEdge_wellFormed hg.1 a (hg.2 b hb), hg.2⟩
  exact both.1

theorem addVertices_wellFormed {g : Graph} (h : g.WellFormed) (vs : List Vertex) :
    (vs.foldl addVertex g).WellFormed :=
  List.foldlRecOn vs _ h fun _ hg v _ => addVertex_wellFormed hg v

theorem addNode_wellFormed {g : Graph} (h : g.WellFormed) (n : Node) :
    (g.addNode n).WellFormed :=
  connect_wellFormed (addVertices_wellFormed h n.vertices) _
    fun _ => hasVertex_of_mem_outputsAmong

theorem addLink_wellFormed {g : Graph} (h : g.WellFormed) (l : Link) :
    (g.addLink l).WellFormed :=
  connect_wellFormed h _ fun _ => hasVertex_of_mem_inputsAmong

/-- A topology has a graph if it has nodes. -/
theorem exists_ofTopology_eq_ok_iff (t : Topology) :
    (∃ g, ofTopology t = .ok g) ↔ t.nodes ≠ [] := by
  unfold ofTopology
  split
  case isTrue h => simp [List.isEmpty_iff.1 h]
  case isFalse h => simpa [List.isEmpty_iff] using h

theorem ofTopology_wellFormed {t : Topology} {g : Graph} (h : ofTopology t = .ok g) :
    g.WellFormed := by
  unfold ofTopology at h
  split at h
  case isTrue => cases h
  case isFalse =>
    cases h
    refine List.foldlRecOn (t.links.filter Link.isEnabled) addLink ?_ fun g hg l _ =>
      addLink_wellFormed hg l
    exact List.foldlRecOn t.nodes addNode empty_wellFormed fun g hg n _ => addNode_wellFormed hg n

/-- A sip resolves to a vertex that has it and is kept under its own id. -/
theorem WellFormed.vertexOfSip?_eq_some {g : Graph} (h : g.WellFormed) {sip : SipId} {v : Vertex}
    (hv : g.vertexOfSip? sip = some v) :
    v.sip = some sip ∧ g.vertex? v.edgePointId = some v := by
  obtain ⟨id, hid, hvid⟩ := Option.bind_eq_some_iff.1 hv
  obtain ⟨w, hw, hsip⟩ := h.vertex_of_sip hid
  have heq : w = v := Option.some.inj (hw.symm.trans hvid)
  subst heq
  exact ⟨hsip, by rw [h.id_of_vertex hw]; exact hw⟩

end Graph

end Connectivity
