import Connectivity.Proofs.Decomposition.SameAnswer
import Connectivity.Proofs.Graph.Duality

/-!
# Opposite requests

If the topology and all endpoints of a request are turned round, inputs are paired as outputs and
outputs as inputs, and every walk between them is walked back. So the opposite request is answered
alike, though maybe over other paths.
-/
namespace Connectivity

def ServiceEndPoint.opposite (e : ServiceEndPoint) : ServiceEndPoint :=
  { e with direction := e.direction.opposite }

@[simp] theorem ServiceEndPoint.sip_opposite (e : ServiceEndPoint) : e.opposite.sip = e.sip := rfl

theorem ServiceEndPoint.opposite_involutive :
    Function.Involutive ServiceEndPoint.opposite := fun e => by simp [opposite]

namespace Decomposition

variable {g h : Graph} {t : Topology} {endpoints : List ServiceEndPoint} {v w : Vertex}

theorem map_opposite_twice (endpoints : List ServiceEndPoint) :
    (endpoints.map ServiceEndPoint.opposite).map ServiceEndPoint.opposite = endpoints := by
  rw [List.map_map, ServiceEndPoint.opposite_involutive.comp_self, List.map_id]

section Dual

variable (hd : h.Dual g)
include hd

theorem exists_unknown_opposite_iff :
    (∃ e ∈ endpoints, g.vertexOfSip? e.sip = none) ↔
      ∃ e ∈ endpoints.map ServiceEndPoint.opposite, h.vertexOfSip? e.sip = none := by
  simp [hd.sip]

theorem Malformed.opposite (hm : Malformed g endpoints) :
    Malformed h (endpoints.map ServiceEndPoint.opposite) := by
  rcases hm with ⟨e, he, hunknown⟩ | ⟨e, he, v, hv, hrefused⟩ | ⟨e, he, f, hf, hne, hsip⟩
  · refine .inl ⟨e.opposite, List.mem_map_of_mem he, ?_⟩
    exact Direction.opposite_eq_unknown_iff.2 hunknown
  · refine .inr (.inl ⟨e.opposite, List.mem_map_of_mem he, v.opposite, ?_, ?_⟩)
    · rw [ServiceEndPoint.sip_opposite, hd.sip, hv, Option.map_some]
    · exact (Direction.accepts_opposite _ _).trans hrefused
  · refine .inr (.inr ⟨e.opposite, List.mem_map_of_mem he, f.opposite, List.mem_map_of_mem hf,
      ?_, hsip⟩)
    exact ServiceEndPoint.opposite_involutive.injective.ne hne

theorem Admissible.opposite (ha : Admissible g endpoints) :
    Admissible h (endpoints.map ServiceEndPoint.opposite) where
  fits := by
    refine List.forall_mem_map.2 fun e he => ?_
    obtain ⟨v, hv, hknown, haccepts⟩ := ha.fits e he
    refine ⟨v.opposite, ?_, ?_, ?_⟩
    · rw [ServiceEndPoint.sip_opposite, hd.sip, hv, Option.map_some]
    · exact mt Direction.opposite_eq_unknown_iff.1 hknown
    · exact (Direction.accepts_opposite _ _).trans haccepts
  distinct := by
    refine List.forall_mem_map.2 fun e he => List.forall_mem_map.2 fun f hf hsip => ?_
    exact congrArg _ (ha.distinct e he f hf hsip)

/-- The roles of a pair are exchanged. -/
theorem RolePair.opposite (hpair : RolePair g endpoints v w) :
    RolePair h (endpoints.map ServiceEndPoint.opposite) w.opposite v.opposite := by
  obtain ⟨⟨i, hi, hinput, hv⟩, ⟨o, ho, houtput, hw⟩, hapart⟩ := hpair
  refine ⟨⟨o.opposite, List.mem_map_of_mem ho, ?_, ?_⟩,
    ⟨i.opposite, List.mem_map_of_mem hi, ?_, ?_⟩, hapart.symm⟩
  · exact (Direction.isInputCapable_opposite _).trans houtput
  · rw [ServiceEndPoint.sip_opposite, hd.sip, hw, Option.map_some]
  · exact (Direction.isOutputCapable_opposite _).trans hinput
  · rw [ServiceEndPoint.sip_opposite, hd.sip, hv, Option.map_some]

theorem Connected.opposite (hc : Connected g endpoints) :
    Connected h (endpoints.map ServiceEndPoint.opposite) where
  admissible := hc.admissible.opposite hd
  paired := by
    obtain ⟨v, w, hpair⟩ := hc.paired
    exact ⟨w.opposite, v.opposite, hpair.opposite hd⟩
  reaches v w hpair := by
    have hback := hpair.opposite hd.symm
    rw [map_opposite_twice] at hback
    exact hd.edges.reaches (hc.reaches w.opposite v.opposite hback)

theorem malformed_opposite_iff :
    Malformed g endpoints ↔ Malformed h (endpoints.map ServiceEndPoint.opposite) := by
  refine ⟨fun hm => hm.opposite hd, fun hm => ?_⟩
  have hback := hm.opposite hd.symm
  rwa [map_opposite_twice] at hback

theorem connected_opposite_iff :
    Connected g endpoints ↔ Connected h (endpoints.map ServiceEndPoint.opposite) := by
  refine ⟨fun hc => hc.opposite hd, fun hc => ?_⟩
  have hback := hc.opposite hd.symm
  rwa [map_opposite_twice] at hback

end Dual

end Decomposition

open Decomposition

/-- The graph of the opposite topology is the dual one, with the same vertices and the edges turned
round. And opposite requests over opposite topologies are answered alike. -/
theorem opposite_duality (t : Topology) :
    (t.nodes ≠ [] → ∃ g h, Graph.ofTopology t = .ok g ∧ Graph.ofTopology t.opposite = .ok h ∧
      h.Dual g) ∧
    ∀ endpoints : List ServiceEndPoint,
      AnsweredAlike (fun _ _ => True) (decompose t endpoints)
        (decompose t.opposite (endpoints.map ServiceEndPoint.opposite)) := by
  have hdual : t.nodes ≠ [] → ∃ g h, Graph.ofTopology t = .ok g ∧
      Graph.ofTopology t.opposite = .ok h ∧ h.Dual g := by
    intro hnodes
    obtain ⟨g, hg⟩ := (Graph.exists_ofTopology_eq_ok_iff t).2 hnodes
    obtain ⟨h, hh⟩ := (Graph.exists_ofTopology_eq_ok_iff t.opposite).2
      (mt List.map_eq_nil_iff.1 hnodes)
    exact ⟨g, h, hg, hh, Graph.dual_opposite hg hh⟩
  refine ⟨hdual, fun endpoints => ?_⟩
  have hlength : (endpoints.map ServiceEndPoint.opposite).length = endpoints.length :=
    List.length_map _
  by_cases hfew : endpoints.length < 2
  · rw [decompose_of_few hfew, decompose_of_few (hlength ▸ hfew)]
    exact .refused rfl
  have htwo : 2 ≤ endpoints.length := Nat.not_lt.1 hfew
  by_cases hnodes : t.nodes = []
  · rw [decompose_of_no_nodes htwo hnodes,
      decompose_of_no_nodes (hlength ▸ htwo) (List.map_eq_nil_iff.2 hnodes)]
    exact .refused rfl
  obtain ⟨g, h, hg, hh, hd⟩ := hdual hnodes
  rw [decompose_of_graph htwo hg, decompose_of_graph (hlength ▸ htwo) hh]
  exact (inGraph_answered (Graph.ofTopology_wellFormed hg) endpoints).alike
    (inGraph_answered (Graph.ofTopology_wellFormed hh) _) (exists_unknown_opposite_iff hd)
    (malformed_opposite_iff hd) (connected_opposite_iff hd) fun _ _ _ _ _ => trivial

/-- A request along the directed chain, from its last node to its first. -/
def alongChain : List ServiceEndPoint :=
  [Sample.directedEndPoint "n3:3" .input, Sample.directedEndPoint "n1:2" .output]

/-- In the opposite chain the links lead the other way, and so does the request. -/
theorem oppositeChain_decomposed :
    Sample.directedChain.nodes ≠ [] ∧
      (∃ g h, Graph.ofTopology Sample.directedChain = .ok g ∧
        Graph.ofTopology Sample.directedChain.opposite = .ok h ∧
        g.hasEdge "n3:1" "n2:2" = true ∧ h.hasEdge "n2:2" "n3:1" = true) ∧
      ∃ subs subs', decompose Sample.directedChain alongChain = .ok (some subs) ∧
        decompose Sample.directedChain.opposite (alongChain.map ServiceEndPoint.opposite) =
          .ok (some subs') := by
  have hnodes : Sample.directedChain.nodes ≠ [] := List.cons_ne_nil _ _
  obtain ⟨hgraphs, halike⟩ := opposite_duality Sample.directedChain
  obtain ⟨g, h, hg, hh, hd⟩ := hgraphs hnodes
  have hedge : (Graph.ofTopology Sample.directedChain).toOption.any
      (fun g => g.hasEdge "n3:1" "n2:2") = true := by decide +kernel
  rw [hg] at hedge
  have hsubs : decompose Sample.directedChain alongChain = .ok (some
      [⟨"n1", "n1", [⟨some (Sample.directedEndPoint "n1:2" .output), some (Sample.ref "n1:2")⟩,
          ⟨none, some (Sample.ref "n1:3")⟩]⟩,
        ⟨"n2", "n2", [⟨none, some (Sample.ref "n2:1")⟩, ⟨none, some (Sample.ref "n2:2")⟩]⟩,
        ⟨"n3", "n3", [⟨none, some (Sample.ref "n3:1")⟩,
          ⟨some (Sample.directedEndPoint "n3:3" .input), some (Sample.ref "n3:3")⟩]⟩]) := by
    decide +kernel
  have halike := halike alongChain
  rw [hsubs] at halike
  obtain ⟨subs', hsubs', -⟩ := halike.of_some
  exact ⟨hnodes, ⟨g, h, hg, hh, hedge, (hd.edges _ _).2 hedge⟩, _, subs', hsubs, hsubs'⟩

end Connectivity
