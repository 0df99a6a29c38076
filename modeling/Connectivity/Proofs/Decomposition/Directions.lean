import Connectivity.Proofs.Decomposition.Outcome

/-!
# Requested directions

An endpoint is refused for its direction if it leaves it unknown, or if its vertex does not accept
it. Where a request is in order otherwise, it fails if and only if an endpoint is refused so.
-/
namespace Connectivity

/-- The errors by which an endpoint is refused for its direction. -/
inductive ServiceEndPoint.DirectionError (e : ServiceEndPoint) : Error → Prop where
  | unspecified :
      DirectionError e (.illegalArgument ("Port direction for " ++ e.label ++ " not specified"))
  | incompatible (direction : Direction) :
      DirectionError e (.illegalArgument ("Port direction for " ++ e.label ++
        " incompatible with NEP. CEP " ++ e.direction.name ++ " NEP " ++ direction.name))

/-- An endpoint may ask for its direction: its vertex in the graph of the topology accepts it. -/
def Topology.Admits (t : Topology) (e : ServiceEndPoint) : Prop :=
  ∃ g v, Graph.ofTopology t = .ok g ∧ Decomposition.Fits g e v

namespace Decomposition

variable {g : Graph} {t : Topology} {endpoints : List ServiceEndPoint}

/-- An endpoint with a known sip is refused for its direction or not at all. -/
theorem directionError_of_resolve {e : ServiceEndPoint} {v : Vertex} {error : Error}
    (hv : g.vertexOfSip? e.sip = some v) (h : resolve g e = .error error) :
    e.DirectionError error := by
  simp only [resolve, hv] at h
  by_cases hunknown : e.direction = .unknown
  · rw [if_pos hunknown] at h
    cases h
    exact .unspecified
  · rw [if_neg hunknown] at h
    by_cases haccepts : v.direction.accepts e.direction = true
    · rw [if_pos haccepts] at h
      cases h
    · rw [if_neg haccepts] at h
      cases h
      exact .incompatible v.direction

/-- A request that is in order but for its directions: it has two endpoints, its sips are known, and
endpoints with one sip are equal. -/
structure Located (g : Graph) (endpoints : List ServiceEndPoint) : Prop where
  two : 2 ≤ endpoints.length
  known : ∀ e ∈ endpoints, ∃ v, g.vertexOfSip? e.sip = some v
  distinct : ∀ e ∈ endpoints, ∀ f ∈ endpoints, e.sip = f.sip → e = f

theorem admits_iff (hg : Graph.ofTopology t = .ok g) {e : ServiceEndPoint} :
    t.Admits e ↔ ∃ v, Fits g e v := by
  constructor
  · rintro ⟨g', v, hg', hfits⟩
    cases hg.symm.trans hg'
    exact ⟨v, hfits⟩
  · rintro ⟨v, hfits⟩
    exact ⟨g, v, hg, hfits⟩

/-- The directions of such a request are what it may ask for if it does not fail for one of them. -/
theorem Located.admits_iff_no_directionError (h : Located g endpoints)
    (hg : Graph.ofTopology t = .ok g) :
    (∀ e ∈ endpoints, t.Admits e) ↔
      ¬ ∃ error, decompose t endpoints = .error error ∧
        ∃ e ∈ endpoints, e.DirectionError error := by
  simp only [admits_iff hg, decompose_of_graph h.two hg]
  constructor
  · rintro hfits ⟨error, herror, -⟩
    have hadmissible : Admissible g endpoints := ⟨hfits, h.distinct⟩
    have hanswered := inGraph_of_admissible (Graph.ofTopology_wellFormed hg) hadmissible
    rw [herror] at hanswered
    cases hanswered with
    | unknown hunknown =>
        obtain ⟨e, he, hnone⟩ := hunknown
        obtain ⟨v, hv⟩ := h.known e he
        cases hnone.symm.trans hv
    | malformed _ hmalformed => exact hadmissible.not_malformed hmalformed
  · intro hnone
    rcases mapM_except_cases (resolve g) endpoints with
      ⟨resolved, -, hall⟩ | ⟨error, hresolved, e, he, herror⟩
    · intro e he
      obtain ⟨r, -, hr⟩ := (exists_of_forall₂ hall).1 e he
      exact ⟨r.vertex, (resolve_eq_ok_iff.1 hr).1⟩
    · obtain ⟨v, hv⟩ := h.known e he
      exact absurd ⟨error, inGraph_of_resolve_error h.known hresolved, e, he,
        directionError_of_resolve hv herror⟩ hnone

/-- A request that has a decomposition is in order, and may ask for its directions. -/
theorem located_of_decompose {subs : List SubRequest}
    (h : decompose t endpoints = .ok (some subs)) :
    ∃ g, Graph.ofTopology t = .ok g ∧ Located g endpoints ∧ ∀ e ∈ endpoints, t.Admits e := by
  obtain ⟨g, hg, hanswered⟩ := decompose_eq_ok h
  have hadmissible := hanswered.connected_of_some.1.admissible
  exact ⟨g, hg, ⟨two_le_of_decompose h, hadmissible.known, hadmissible.distinct⟩,
    fun e he => (admits_iff hg).2 (hadmissible.fits e he)⟩

end Decomposition

end Connectivity
