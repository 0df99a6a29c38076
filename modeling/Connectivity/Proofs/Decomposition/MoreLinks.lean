import Connectivity.Proofs.Decomposition.Outcome
import Connectivity.Proofs.Graph.EdgeSet

/-!
# More links

What is wrong with a request is found from what its sips resolve to, in which links have no part.
And a walk stays where edges are added. So a topology with more links refuses the same requests for
the same reasons, and decomposes all those that could be decomposed before, though maybe over other
paths.
-/
namespace Connectivity

namespace Graph

variable {g h : Graph} {t t' : Topology} {a b : EdgePointId} {n : Nat}

/-- A graph in which sips resolve as in another one, with all edges of that one. -/
structure Extends (h g : Graph) : Prop where
  vertexOfSip? : h.vertexOfSip? = g.vertexOfSip?
  hasEdge : ∀ {a b}, g.hasEdge a b = true → h.hasEdge a b = true

theorem Extends.walk (he : h.Extends g) (hw : g.Walk a b n) : h.Walk a b n := by
  induction hw with
  | start => exact .start
  | step _ hedge ih => exact .step ih (he.hasEdge hedge)

theorem Extends.reaches (he : h.Extends g) (hr : g.Reaches a b) : h.Reaches a b :=
  hr.imp fun _ hw => he.walk hw

/-- Links that are added or enabled add to the graph. -/
theorem extends_of_linkedWithin (hnodes : t'.nodes = t.nodes) (hlinks : t.LinkedWithin t')
    (hg : ofTopology t = .ok g) (hh : ofTopology t' = .ok h) : h.Extends g := by
  obtain ⟨hvertices, hsips⟩ := ofTopology_tables hnodes hg hh
  have hvertex : ∀ id, h.vertex? id = g.vertex? id := fun id => by
    rw [vertex?, vertex?, hvertices]
  constructor
  case vertexOfSip? =>
    funext sip
    rw [vertexOfSip?, vertexOfSip?, hsips, funext hvertex]
  case hasEdge =>
    intro a b hedge
    rw [hasEdge_ofTopology hg] at hedge
    rw [hasEdge_ofTopology hh, hnodes]
    refine ⟨hedge.1, hedge.2.imp ?_ ?_⟩
    · rintro ⟨n, hn, hswitches⟩
      exact ⟨n, hn, (switches_congr fun id _ => hvertex id).2 hswitches⟩
    · exact exists_carries_of_linkedWithin hlinks hvertex

end Graph

namespace Decomposition

variable {g h : Graph} {endpoints : List ServiceEndPoint}

/-- All that can be wrong with a request is found before paths are looked for. -/
theorem inGraph_error_congr (hsips : h.vertexOfSip? = g.vertexOfSip?)
    (endpoints : List ServiceEndPoint) (error : Error) :
    inGraph g endpoints = .error error ↔ inGraph h endpoints = .error error := by
  have hmissing : missingSips h endpoints = missingSips g endpoints := by
    simp only [missingSips, hsips]
  have hresolve : resolve h = resolve g := by
    funext e
    simp only [resolve, hsips]
  simp only [inGraph, hmissing, hresolve]
  by_cases hknown : (missingSips g endpoints).isEmpty = true
  · simp only [if_pos hknown]
    cases endpoints.mapM (resolve g) with
    | error => exact Iff.rfl
    | ok resolved =>
        cases sharedSip? [] endpoints with
        | some => exact Iff.rfl
        | none =>
            -- only the paths differ, and without them there is no error left
            cases hp : paths? g (pairs resolved) <;> cases hq : paths? h (pairs resolved) <;>
              simp [bind, Except.bind, hp, hq, pure, Except.pure]
  · simp only [if_neg hknown]
    exact Iff.rfl

/-- The roles of a request depend on what its sips resolve to. -/
theorem RolePair.congr (hsips : h.vertexOfSip? = g.vertexOfSip?) {v w : Vertex}
    (hpair : RolePair h endpoints v w) : RolePair g endpoints v w where
  input := hsips ▸ hpair.input
  output := hsips ▸ hpair.output
  apart := hpair.apart

theorem Connected.extend (he : h.Extends g) (hc : Connected g endpoints) :
    Connected h endpoints where
  admissible := by
    refine ⟨fun e hmem => ?_, hc.admissible.distinct⟩
    obtain ⟨v, hv, hknown, haccepts⟩ := hc.admissible.fits e hmem
    exact ⟨v, by rw [he.vertexOfSip?, hv], hknown, haccepts⟩
  paired := by
    obtain ⟨v, w, hpair⟩ := hc.paired
    exact ⟨v, w, hpair.congr he.vertexOfSip?.symm⟩
  reaches v w hpair := he.reaches (hc.reaches v w (hpair.congr he.vertexOfSip?))

/-- A connected request has a decomposition. -/
theorem Connected.exists_subRequests (hg : g.WellFormed) (hc : Connected g endpoints) :
    ∃ subs, inGraph g endpoints = .ok (some subs) :=
  (inGraph_answered hg endpoints).exists_subs_of_connected hc

end Decomposition

open Decomposition

variable {t t' : Topology}

/-- With more links a request fails as before, or is looked at in a graph that has more edges. -/
theorem decompose_extends (hid : t'.id = t.id) (hnodes : t'.nodes = t.nodes)
    (hlinks : t.LinkedWithin t') (endpoints : List ServiceEndPoint) :
    (∃ error, decompose t endpoints = .error error ∧ decompose t' endpoints = .error error) ∨
      ∃ g h : Graph, g.WellFormed ∧ h.WellFormed ∧ h.Extends g ∧
        decompose t endpoints = inGraph g endpoints ∧
        decompose t' endpoints = inGraph h endpoints := by
  by_cases hfew : endpoints.length < 2
  · exact .inl ⟨_, decompose_of_few hfew t, decompose_of_few hfew t'⟩
  have htwo : 2 ≤ endpoints.length := Nat.not_lt.1 hfew
  by_cases hempty : t.nodes = []
  · refine .inl ⟨_, decompose_of_no_nodes htwo hempty, ?_⟩
    rw [decompose_of_no_nodes htwo (hnodes.trans hempty), hid]
  obtain ⟨g, hg⟩ := (Graph.exists_ofTopology_eq_ok_iff t).2 hempty
  obtain ⟨h, hh⟩ := (Graph.exists_ofTopology_eq_ok_iff t').2 (hnodes ▸ hempty)
  exact .inr ⟨g, h, Graph.ofTopology_wellFormed hg, Graph.ofTopology_wellFormed hh,
    Graph.extends_of_linkedWithin hnodes hlinks hg hh, decompose_of_graph htwo hg,
    decompose_of_graph htwo hh⟩

/-- Where links are added or enabled, the same requests fail for the same reasons, and none loses
its decomposition. -/
theorem decompose_with_more_links (hid : t'.id = t.id) (hnodes : t'.nodes = t.nodes)
    (hlinks : t.LinkedWithin t') (endpoints : List ServiceEndPoint) :
    (∀ error, decompose t endpoints = .error error ↔ decompose t' endpoints = .error error) ∧
      (∀ subs, decompose t endpoints = .ok (some subs) →
        ∃ subs', decompose t' endpoints = .ok (some subs')) ∧
      (decompose t' endpoints = .ok none → decompose t endpoints = .ok none) := by
  rcases decompose_extends hid hnodes hlinks endpoints with
    ⟨error, ht, ht'⟩ | ⟨g, h, hg, hh, hextends, ht, ht'⟩
  · rw [ht, ht']
    exact ⟨fun _ => Iff.rfl, nofun, nofun⟩
  · rw [ht, ht']
    have herrors := inGraph_error_congr hextends.vertexOfSip? endpoints
    have hkept : ∀ subs, inGraph g endpoints = .ok (some subs) →
        ∃ subs', inGraph h endpoints = .ok (some subs') := by
      intro subs hsubs
      have hanswered := inGraph_answered hg endpoints
      rw [hsubs] at hanswered
      exact (hanswered.connected_of_some.1.extend hextends).exists_subRequests hh
    refine ⟨herrors, hkept, fun hnone => ?_⟩
    cases hanswer : inGraph g endpoints with
    | error error =>
        rw [(herrors error).1 hanswer] at hnone
        exact nomatch hnone
    | ok result =>
        cases result with
        | none => rfl
        | some subs =>
            obtain ⟨subs', hsubs'⟩ := hkept subs hanswer
            rw [hsubs'] at hnone
            exact nomatch hnone

/-- Three nodes in a row, and a link between the first and the last. -/
def shortCircuitedChain : Topology :=
  { Sample.threeNodeChain .enabled with
    links := Sample.link "n1:2" "n3:2" .enabled :: (Sample.threeNodeChain .enabled).links }

/-- With the link, the path no longer leads over the node in the middle. -/
theorem shortCircuitedChain_decomposed :
    shortCircuitedChain.id = (Sample.threeNodeChain .enabled).id ∧
      shortCircuitedChain.nodes = (Sample.threeNodeChain .enabled).nodes ∧
      (Sample.threeNodeChain .enabled).LinkedWithin shortCircuitedChain ∧
      ∃ subs subs', decompose (Sample.threeNodeChain .enabled)
          [Sample.endPoint "n1:3", Sample.endPoint "n3:1"] = .ok (some subs) ∧
        decompose shortCircuitedChain [Sample.endPoint "n1:3", Sample.endPoint "n3:1"] =
          .ok (some subs') ∧
        subs.length = 3 ∧ subs'.length = 2 := by
  have hid : shortCircuitedChain.id = (Sample.threeNodeChain .enabled).id := rfl
  have hnodes : shortCircuitedChain.nodes = (Sample.threeNodeChain .enabled).nodes := rfl
  have hlinks : (Sample.threeNodeChain .enabled).LinkedWithin shortCircuitedChain :=
    fun l hl henabled => ⟨l, List.mem_cons_of_mem _ hl, henabled, fun _ => Iff.rfl⟩
  have hsubs : decompose (Sample.threeNodeChain .enabled)
      [Sample.endPoint "n1:3", Sample.endPoint "n3:1"] = .ok (some
        [⟨"n1", "n1", [⟨none, some (Sample.ref "n1:1")⟩,
            ⟨some (Sample.endPoint "n1:3"), some (Sample.ref "n1:3")⟩]⟩,
          ⟨"n2", "n2", [⟨none, some (Sample.ref "n2:1")⟩, ⟨none, some (Sample.ref "n2:3")⟩]⟩,
          ⟨"n3", "n3", [⟨some (Sample.endPoint "n3:1"), some (Sample.ref "n3:1")⟩,
            ⟨none, some (Sample.ref "n3:3")⟩]⟩]) := by
    decide +kernel
  obtain ⟨subs', hsubs'⟩ := (decompose_with_more_links hid hnodes hlinks _).2.1 _ hsubs
  have hshorter : (decompose shortCircuitedChain
      [Sample.endPoint "n1:3", Sample.endPoint "n3:1"]).toOption.join.map List.length = some 2 := by
    decide +kernel
  rw [hsubs'] at hshorter
  exact ⟨hid, hnodes, hlinks, _, subs', hsubs, hsubs', rfl, Option.some.inj hshorter⟩

end Connectivity
