import Connectivity.Proofs.Graph.WellFormed
import Mathlib.Order.Lattice.Nat

/-!
# Walks

A walk follows edges in their direction and may come to a vertex more than once. The distance
between two vertices is the number of edges of the shortest walk. A path lists the vertices that a
walk comes to, as the graph keeps them.
-/
namespace Connectivity

namespace Graph

/-- A walk of that many edges. -/
inductive Walk (g : Graph) (a : EdgePointId) : EdgePointId → Nat → Prop where
  | start : Walk g a a 0
  | step {b c : EdgePointId} {n : Nat} : Walk g a b n → g.hasEdge b c = true → Walk g a c (n + 1)

/-- Traffic that enters at `a` can be led to `b`. -/
def Reaches (g : Graph) (a b : EdgePointId) : Prop := ∃ n, g.Walk a b n

/-- The least number of edges from `a` to `b`; zero if there is no walk. -/
noncomputable def distance (g : Graph) (a b : EdgePointId) : Nat := sInf {n | g.Walk a b n}

theorem Walk.hasVertex {g : Graph} (hg : g.WellFormed) {a b : EdgePointId} {n : Nat}
    (ha : g.hasVertex a = true) (h : g.Walk a b n) : g.hasVertex b = true := by
  cases h with
  | start => exact ha
  | step _ hedge => exact hg.target_of_edge hedge

theorem distance_le {g : Graph} {a b : EdgePointId} {n : Nat} (h : g.Walk a b n) :
    g.distance a b ≤ n := Nat.sInf_le h

theorem walk_distance {g : Graph} {a b : EdgePointId} (h : g.Reaches a b) :
    g.Walk a b (g.distance a b) := Nat.sInf_mem h

@[simp] theorem distance_self (g : Graph) (a : EdgePointId) : g.distance a a = 0 :=
  Nat.le_zero.1 (distance_le .start)

theorem Reaches.step {g : Graph} {a b c : EdgePointId} (h : g.Reaches a b)
    (hedge : g.hasEdge b c = true) : g.Reaches a c := by
  obtain ⟨n, hn⟩ := h
  exact ⟨n + 1, .step hn hedge⟩

theorem distance_le_succ {g : Graph} {a b c : EdgePointId} (h : g.Reaches a b)
    (hedge : g.hasEdge b c = true) : g.distance a c ≤ g.distance a b + 1 :=
  distance_le (.step (walk_distance h) hedge)

/-- The ids that a walk from `a` to `b` comes to. -/
structure IsRoute (g : Graph) (a b : EdgePointId) (route : List EdgePointId) : Prop where
  starts : route.head? = some a
  ends : route.getLast? = some b
  joined : route.IsChain fun x y => g.hasEdge x y = true

theorem isRoute_self (g : Graph) (a : EdgePointId) : g.IsRoute a a [a] :=
  ⟨rfl, rfl, .singleton a⟩

theorem IsRoute.concat {g : Graph} {a b c : EdgePointId} {route : List EdgePointId}
    (h : g.IsRoute a b route) (hedge : g.hasEdge b c = true) : g.IsRoute a c (route ++ [c]) where
  starts := by rw [List.head?_append, h.starts, Option.some_or]
  ends := List.getLast?_concat
  joined := by
    refine List.isChain_append.2 ⟨h.joined, .singleton c, ?_⟩
    intro x hx y hy
    rw [h.ends] at hx
    cases hx
    cases hy
    exact hedge

/-- A route of one vertex leads nowhere else, and any other one comes over a last edge. -/
theorem IsRoute.cases {g : Graph} {a b : EdgePointId} {route : List EdgePointId}
    (h : g.IsRoute a b route) :
    (route = [a] ∧ a = b) ∨
      ∃ p front, route = front ++ [b] ∧ g.IsRoute a p front ∧ g.hasEdge p b = true := by
  obtain ⟨front, hsplit⟩ : ∃ front, route = front ++ [b] := List.getLast?_eq_some_iff.1 h.ends
  subst hsplit
  obtain ⟨hfront, -, hlast⟩ := List.isChain_append.1 h.joined
  cases hends : front.getLast? with
  | none =>
      rw [List.getLast?_eq_none_iff.1 hends] at h ⊢
      cases Option.some.inj h.starts
      exact .inl ⟨rfl, rfl⟩
  | some p =>
      have hne : front ≠ [] := by
        rintro rfl
        exact nomatch hends
      have hstarts := h.starts
      rw [List.head?_append_of_ne_nil _ hne] at hstarts
      exact .inr ⟨p, front, rfl, ⟨hstarts, hends, hfront⟩, hlast p hends b rfl⟩

/-- A route is a walk of one edge less than it has vertices. -/
theorem IsRoute.walk {g : Graph} {a b : EdgePointId} {route : List EdgePointId}
    (h : g.IsRoute a b route) : ∃ n, route.length = n + 1 ∧ g.Walk a b n := by
  induction hlength : route.length generalizing b route with
  | zero =>
      rw [List.eq_nil_of_length_eq_zero hlength] at h
      exact nomatch h.starts
  | succ n ih =>
      rcases h.cases with ⟨rfl, rfl⟩ | ⟨p, front, rfl, hfront, hedge⟩
      · exact ⟨0, hlength.symm, .start⟩
      · have hshorter : front.length = n := by simpa using hlength
        obtain ⟨m, rfl, hwalk⟩ := ih hfront hshorter
        exact ⟨m + 1, rfl, .step hwalk hedge⟩

theorem Walk.exists_isRoute {g : Graph} {a b : EdgePointId} {n : Nat} (h : g.Walk a b n) :
    ∃ route, g.IsRoute a b route ∧ route.length = n + 1 := by
  induction h with
  | start => exact ⟨[a], g.isRoute_self a, rfl⟩
  | step _ hedge ih =>
      obtain ⟨route, hroute, hlength⟩ := ih
      exact ⟨route ++ [_], hroute.concat hedge, by simp [hlength]⟩

/-- The vertices of a route, as the graph keeps them. -/
structure IsPath (g : Graph) (a b : EdgePointId) (path : List Vertex) : Prop where
  kept : ∀ v ∈ path, g.vertex? v.edgePointId = some v
  route : g.IsRoute a b (path.map (·.edgePointId))

/-- Vertices that a graph keeps are known by their ids. -/
theorem eq_of_kept {g : Graph} {vs ws : List Vertex}
    (hvs : ∀ v ∈ vs, g.vertex? v.edgePointId = some v)
    (hws : ∀ w ∈ ws, g.vertex? w.edgePointId = some w)
    (hids : vs.map (·.edgePointId) = ws.map (·.edgePointId)) : vs = ws := by
  have hlookup : ∀ us : List Vertex, (∀ u ∈ us, g.vertex? u.edgePointId = some u) →
      (us.map (·.edgePointId)).filterMap g.vertex? = us := by
    intro us hus
    rw [List.filterMap_map]
    exact (List.filterMap_congr hus).trans List.filterMap_some
  rw [← hlookup vs hvs, ← hlookup ws hws, hids]

theorem IsPath.mem_of_start {g : Graph} {a b : EdgePointId} {path : List Vertex}
    (h : g.IsPath a b path) {v : Vertex} (hv : g.vertex? a = some v) : v ∈ path := by
  obtain ⟨w, hw, rfl⟩ := List.mem_map.1 (List.mem_of_mem_head? h.route.starts)
  rwa [← Option.some.inj ((h.kept w hw).symm.trans hv)]

theorem IsPath.mem_of_end {g : Graph} {a b : EdgePointId} {path : List Vertex}
    (h : g.IsPath a b path) {v : Vertex} (hv : g.vertex? b = some v) : v ∈ path := by
  obtain ⟨w, hw, rfl⟩ := List.mem_map.1 (List.mem_of_mem_getLast? h.route.ends)
  rwa [← Option.some.inj ((h.kept w hw).symm.trans hv)]

theorem mem_neighbours {g : Graph} {a b : EdgePointId} :
    b ∈ g.neighbours a ↔ g.hasEdge a b = true := by
  rw [neighbours, Std.TreeSet.mem_toList, hasEdge, Std.TreeSet.contains_iff_mem]

/-- Neighbours are visited once each. -/
theorem neighbours_nodup (g : Graph) (a : EdgePointId) : (g.neighbours a).Nodup := by
  have hdistinct := Std.TreeSet.distinct_toList (t := g.targets.getD a ∅)
  refine List.Pairwise.imp (fun {x y} hxy heq => hxy ?_) hdistinct
  rw [Std.LawfulEqOrd.compare_eq_iff_eq]
  exact heq

end Graph

end Connectivity
