import Connectivity.Proofs.Graph.ShortestPath
import Mathlib.Data.List.Lex
import Mathlib.Data.String.Basic
import Mathlib.Order.Bounds.Basic

/-!
# The shortest path that is chosen

Routes are compared by their ids, the first one that differs deciding. The queue holds the vertices
of one distance in the order of their least shortest routes, so a vertex is seen first from the one
whose route is the least, and its neighbours, which are visited in the order of their ids, keep that
order one edge further. So the search finds the least of all shortest routes.
-/
namespace Connectivity

/-- Of lists of one length, the earlier one stays the earlier whatever follows. -/
theorem append_lt_append_of_lt {xs ys : List String} (hlength : xs.length = ys.length)
    (h : xs < ys) (us vs : List String) : xs ++ us < ys ++ vs := by
  induction xs generalizing ys with
  | nil =>
      rw [List.eq_nil_of_length_eq_zero hlength.symm] at h
      exact absurd h (lt_irrefl [])
  | cons x xs ih =>
      cases ys with
      | nil => exact nomatch hlength
      | cons y ys =>
          rw [List.cons_append, List.cons_append, List.cons_lt_cons_iff]
          rcases List.cons_lt_cons_iff.1 h with hlt | ⟨rfl, hlt⟩
          · exact .inl hlt
          · exact .inr ⟨rfl, ih (Nat.succ.inj hlength) hlt⟩

namespace Graph

variable {g : Graph} {a b p x : EdgePointId} {route front : List EdgePointId}

/-- The routes from `a` to `b` that come to as few vertices as possible. -/
def shortestRoutes (g : Graph) (a b : EdgePointId) : Set (List EdgePointId) :=
  {route | g.IsRoute a b route ∧ ∀ other, g.IsRoute a b other → route.length ≤ other.length}

/-- The shortest routes are those with one vertex more than the distance. -/
theorem mem_shortestRoutes_iff :
    route ∈ g.shortestRoutes a b ↔ g.IsRoute a b route ∧ route.length = g.distance a b + 1 := by
  constructor
  · rintro ⟨hroute, hleast⟩
    obtain ⟨n, hlength, hwalk⟩ := hroute.walk
    obtain ⟨other, hother, hotherLength⟩ := (walk_distance ⟨n, hwalk⟩).exists_isRoute
    have hle := hleast other hother
    have hdistance := distance_le hwalk
    exact ⟨hroute, by omega⟩
  · rintro ⟨hroute, hlength⟩
    refine ⟨hroute, fun other hother => ?_⟩
    obtain ⟨n, hotherLength, hwalk⟩ := hother.walk
    have hdistance := distance_le hwalk
    omega

/-- The path that is found takes a shortest route. -/
theorem ids_mem_shortestRoutes (hg : g.WellFormed) {path : List Vertex}
    (h : g.shortestPath a b = some path) :
    path.map (·.edgePointId) ∈ g.shortestRoutes a b := by
  apply mem_shortestRoutes_iff.2
  rw [List.length_map, length_shortestPath hg h]
  exact ⟨(shortestPath_spec hg h).1.route, rfl⟩

/-- A shortest route to another vertex goes on from a shortest route to the last vertex but one. -/
theorem exists_shortest_front (h : route ∈ g.shortestRoutes a x) (hne : x ≠ a) :
    ∃ p front, route = front ++ [x] ∧ front ∈ g.shortestRoutes a p ∧ g.hasEdge p x = true ∧
      g.distance a x = g.distance a p + 1 := by
  obtain ⟨hroute, hlength⟩ := mem_shortestRoutes_iff.1 h
  rcases hroute.cases with ⟨-, heq⟩ | ⟨p, front, rfl, hfront, hedge⟩
  · exact absurd heq.symm hne
  · obtain ⟨n, hfrontLength, hwalk⟩ := hfront.walk
    have hnear := distance_le hwalk
    have hfar := distance_le_succ ⟨n, hwalk⟩ hedge
    rw [List.length_append, List.length_singleton] at hlength
    have hdistance : g.distance a x = g.distance a p + 1 := by omega
    exact ⟨p, front, rfl, mem_shortestRoutes_iff.2 ⟨hfront, by omega⟩, hedge, hdistance⟩

/-- One edge after a shortest route is shortest if it leads further away from the start. -/
theorem concat_mem_shortestRoutes (h : front ∈ g.shortestRoutes a p) (hedge : g.hasEdge p x = true)
    (hdistance : g.distance a x = g.distance a p + 1) : front ++ [x] ∈ g.shortestRoutes a x := by
  obtain ⟨hfront, hlength⟩ := mem_shortestRoutes_iff.1 h
  refine mem_shortestRoutes_iff.2 ⟨hfront.concat hedge, ?_⟩
  rw [List.length_append, List.length_singleton, hlength, hdistance]

/-- The least way to the start is to stay there. -/
theorem isLeast_shortestRoutes_self (g : Graph) (a : EdgePointId) :
    IsLeast (g.shortestRoutes a a) [a] := by
  refine ⟨mem_shortestRoutes_iff.2 ⟨g.isRoute_self a, by rw [distance_self]; rfl⟩, ?_⟩
  intro route hroute
  obtain ⟨hroute, hlength⟩ := mem_shortestRoutes_iff.1 hroute
  rw [distance_self] at hlength
  obtain ⟨y, rfl⟩ := List.length_eq_one_iff.1 hlength
  cases Option.some.inj hroute.starts
  exact le_rfl

end Graph

namespace Search

/-- Vertices of one distance are seen in the order of their least routes, and each of them over its
least route. -/
structure Ordered (g : Graph) (a : EdgePointId) (expanded : List EdgePointId) (s : Search) :
    Prop where
  least_parent : ∀ {x p r}, s.parents[x]? = some p → IsLeast (g.shortestRoutes a p) r →
    IsLeast (g.shortestRoutes a x) (r ++ [x])
  ascending : (expanded ++ s.queue).Pairwise fun x y => g.distance a x = g.distance a y →
    ∀ r r', IsLeast (g.shortestRoutes a x) r → IsLeast (g.shortestRoutes a y) r' → r < r'

variable {g : Graph} {a : EdgePointId} {expanded : List EdgePointId} {s : Search}
  {current : EdgePointId} {rest : List EdgePointId}

theorem ordered_start (g : Graph) (a : EdgePointId) : (start a).Ordered g a [] where
  least_parent h := by simp [start] at h
  ascending := by simp [start]

namespace Ordered

/-- The search has come to each vertex over its least route. -/
theorem isLeast_trace (h : s.Ordered g a expanded) (hs : s.Invariant g a expanded) (fuel : Nat)
    {x : EdgePointId} (hx : x ∈ expanded ++ s.queue) (hfuel : g.distance a x ≤ fuel) :
    IsLeast (g.shortestRoutes a x) (s.trace fuel x) := by
  induction fuel generalizing x with
  | zero =>
      by_cases hxa : x = a
      · subst hxa
        exact g.isLeast_shortestRoutes_self x
      · obtain ⟨p, -, -, -, hdist⟩ := hs.parent x hx hxa
        omega
  | succ fuel ih =>
      by_cases hxa : x = a
      · subst hxa
        rw [trace_of_no_parent hs.start_parent]
        exact g.isLeast_shortestRoutes_self x
      · obtain ⟨p, hp, hparent, -, hdist⟩ := hs.parent x hx hxa
        have htrace : s.trace (fuel + 1) x = s.trace fuel p ++ [x] := by simp only [trace, hparent]
        rw [htrace]
        exact h.least_parent hparent (ih (List.mem_append_left _ hp) (by omega))

theorem exists_isLeast (h : s.Ordered g a expanded) (hs : s.Invariant g a expanded)
    {x : EdgePointId} (hx : x ∈ expanded ++ s.queue) :
    ∃ r, IsLeast (g.shortestRoutes a x) r :=
  ⟨_, h.isLeast_trace hs _ hx (Nat.le_refl _)⟩

/-- A vertex that leads to an unseen one and is as near to the start as the head of the queue is the
head or stands behind it, so that its routes are no less. -/
theorem le_of_joins_unseen (h : s.Ordered g a expanded) (hs : s.Invariant g a expanded)
    (hqueue : s.queue = current :: rest) {q x : EdgePointId} {r r' : List EdgePointId}
    (hx : s.seen.contains x = false) (hedge : g.hasEdge q x = true) (hq : g.Reaches a q)
    (hdistance : g.distance a q = g.distance a current)
    (hr : IsLeast (g.shortestRoutes a current) r) (hr' : r' ∈ g.shortestRoutes a q) : r ≤ r' := by
  have hseen : q ∈ expanded ++ s.queue := by
    rcases hs.seen_or_through_queue (Graph.walk_distance hq) with hseen | ⟨y, hy, hlt⟩
    · exact hseen
    · have := hs.distance_head_le hqueue hy
      omega
  have hqueued : q ∈ current :: rest := by
    rcases List.mem_append.1 hseen with hexpanded | hqueued
    · have hxseen := (hs.seen_iff x).2 (hs.closed q hexpanded x hedge)
      rw [hx] at hxseen
      exact nomatch hxseen
    · exact hqueue ▸ hqueued
  rcases List.mem_cons.1 hqueued with rfl | hbehind
  · exact hr.2 hr'
  · obtain ⟨least, hleast⟩ := h.exists_isLeast hs hseen
    have hascending := h.ascending
    rw [hqueue] at hascending
    have hbefore := (List.pairwise_cons.1 (List.pairwise_append.1 hascending).2.1).1 q hbehind
    exact (hbefore hdistance.symm r least hr hleast).le.trans (hleast.2 hr')

/-- The least route to a vertex that is seen now goes over the head of the queue. -/
theorem isLeast_unseen (h : s.Ordered g a expanded) (hs : s.Invariant g a expanded)
    (hqueue : s.queue = current :: rest) {x : EdgePointId} {r : List EdgePointId}
    (hx : x ∈ s.unseen (g.neighbours current)) (hr : IsLeast (g.shortestRoutes a current) r) :
    IsLeast (g.shortestRoutes a x) (r ++ [x]) := by
  obtain ⟨hneighbour, hunseen⟩ := mem_unseen.1 hx
  obtain ⟨-, hdistance⟩ := hs.distance_unseen hqueue hx
  have hxa : x ≠ a := by
    rintro rfl
    exact hs.not_mem_unseen hs.start_seen _ hx
  refine ⟨Graph.concat_mem_shortestRoutes hr.1 (Graph.mem_neighbours.1 hneighbour) hdistance, ?_⟩
  intro route hroute
  obtain ⟨q, front, rfl, hfront, hedge, hq⟩ := Graph.exists_shortest_front hroute hxa
  obtain ⟨hwalked, hfrontLength⟩ := Graph.mem_shortestRoutes_iff.1 hfront
  obtain ⟨n, -, hwalk⟩ := hwalked.walk
  have hsame : g.distance a q = g.distance a current := by omega
  have hle : r ≤ front :=
    h.le_of_joins_unseen hs hqueue hunseen hedge ⟨n, hwalk⟩ hsame hr hfront
  rcases hle.lt_or_eq with hlt | rfl
  · have hlength := (Graph.mem_shortestRoutes_iff.1 hr.1).2
    exact (append_lt_append_of_lt (by omega) hlt [x] [x]).le
  · exact le_rfl

/-- A vertex seen before, one edge further than the head of the queue, has its least route over a
vertex in front of the head. -/
theorem lt_unseen (h : s.Ordered g a expanded) (hs : s.Invariant g a expanded)
    (hqueue : s.queue = current :: rest) {x y : EdgePointId} {r r' : List EdgePointId}
    (hx : x ∈ expanded ++ s.queue) (hy : y ∈ s.unseen (g.neighbours current))
    (hdistance : g.distance a x = g.distance a y) (hr : IsLeast (g.shortestRoutes a x) r)
    (hr' : IsLeast (g.shortestRoutes a y) r') : r < r' := by
  have hcurrent : current ∈ s.queue := hqueue ▸ List.mem_cons_self
  have hfar := (hs.distance_unseen hqueue hy).2
  have hxa : x ≠ a := by
    rintro rfl
    rw [Graph.distance_self] at hdistance
    omega
  obtain ⟨p, hp, hparent, -, hnear⟩ := hs.parent x hx hxa
  obtain ⟨rp, hrp⟩ := h.exists_isLeast hs (List.mem_append_left _ hp)
  obtain ⟨rc, hrc⟩ := h.exists_isLeast hs (List.mem_append_right _ hcurrent)
  have hsame : g.distance a p = g.distance a current := by omega
  have hlt : rp < rc :=
    (List.pairwise_append.1 h.ascending).2.2 p hp current hcurrent hsame rp rc hrp hrc
  have hlength : rp.length = rc.length := by
    rw [(Graph.mem_shortestRoutes_iff.1 hrp.1).2, (Graph.mem_shortestRoutes_iff.1 hrc.1).2, hsame]
  rw [hr.unique (h.least_parent hparent hrp), hr'.unique (h.isLeast_unseen hs hqueue hy hrc)]
  exact append_lt_append_of_lt hlength hlt [x] [y]

/-- Expanding the head of the queue keeps the order. -/
theorem visit (h : s.Ordered g a expanded) (hs : s.Invariant g a expanded)
    (hqueue : s.queue = current :: rest) :
    (g.visit current rest s).Ordered g a (expanded ++ [current]) := by
  constructor
  case least_parent =>
    intro x p r hparent hr
    rw [Graph.parents_visit] at hparent
    split at hparent
    case isTrue hx =>
      cases hparent
      exact h.isLeast_unseen hs hqueue hx hr
    case isFalse => exact h.least_parent hparent hr
  case ascending =>
    rw [Invariant.order_visit g expanded hqueue]
    refine List.pairwise_append.2 ⟨h.ascending, ?_, ?_⟩
    · have hids := (toList_ascending (g.targets.getD current ∅)).filter
        (fun id => !s.seen.contains id)
      refine List.Pairwise.imp_of_mem (fun {x y} hx hy hlt _ r r' hr hr' => ?_) hids
      have hcurrent : current ∈ s.queue := hqueue ▸ List.mem_cons_self
      obtain ⟨rc, hrc⟩ := h.exists_isLeast hs (List.mem_append_right _ hcurrent)
      rw [hr.unique (h.isLeast_unseen hs hqueue hx hrc),
        hr'.unique (h.isLeast_unseen hs hqueue hy hrc)]
      exact List.append_left_lt (List.cons_lt_cons_iff.2 (.inl hlt))
    · intro x hx y hy hdistance r r' hr hr'
      exact h.lt_unseen hs hqueue hx hy hdistance hr hr'

end Ordered

end Search

namespace Graph

variable {g : Graph} {a b : EdgePointId}

/-- Where there is a walk, a path is found, and its ids are the least of all shortest routes. -/
theorem shortestPath_isLeast {t : Topology} (hg : ofTopology t = .ok g)
    (ha : g.hasVertex a = true) (h : g.Reaches a b) :
    ∃ path, g.shortestPath a b = some path ∧
      IsLeast (g.shortestRoutes a b) (path.map (·.edgePointId)) := by
  have hwf := ofTopology_wellFormed hg
  obtain ⟨n, hwalk⟩ := h
  obtain ⟨path, hpath⟩ :=
    (exists_shortestPath_iff hwf).2 ⟨ha, hwalk.hasVertex hwf ha, n, hwalk⟩
  obtain ⟨expanded, s, hs, hordered, hb, -, hids⟩ := exists_search_of_shortestPath hwf
    (Search.ordered_start g a) (fun hs h hqueue => h.visit hs hqueue) hpath
  refine ⟨path, hpath, ?_⟩
  rw [hids]
  exact hordered.isLeast_trace hs _ hb (hs.distance_le_parents hb)

/-- Two nodes with two links between them. -/
def twoLinks : Topology :=
  Sample.topology
    [Sample.node "n1" ["n1:1", "n1:2", "n1:3"], Sample.node "n2" ["n2:1", "n2:2", "n2:3"]]
    [Sample.link "n1:3" "n2:2" .enabled, Sample.link "n1:2" "n2:3" .enabled]

/-- The link that is listed last is taken, as it leaves the first node by the lesser id. -/
theorem twoLinks_isLeast :
    ∃ g, ofTopology twoLinks = .ok g ∧ g.hasVertex "n1:1" = true ∧ g.Reaches "n1:1" "n2:1" ∧
      IsLeast (g.shortestRoutes "n1:1" "n2:1") ["n1:1", "n1:2", "n2:3", "n2:1"] := by
  obtain ⟨g, hg⟩ := (exists_ofTopology_eq_ok_iff twoLinks).2 (by decide)
  have hfound : (ofTopology twoLinks).toOption.bind
      (fun g => (g.shortestPath "n1:1" "n2:1").map fun path => path.map (·.edgePointId)) =
        some ["n1:1", "n1:2", "n2:3", "n2:1"] := by decide +kernel
  rw [hg] at hfound
  obtain ⟨path, hpath, hids⟩ := Option.map_eq_some_iff.1 hfound
  obtain ⟨hstart, -, hreaches⟩ :=
    (exists_shortestPath_iff (ofTopology_wellFormed hg)).1 ⟨path, hpath⟩
  obtain ⟨path', hpath', hleast⟩ := shortestPath_isLeast hg hstart hreaches
  cases Option.some.inj (hpath.symm.trans hpath')
  exact ⟨g, hg, hstart, hreaches, hids ▸ hleast⟩

end Graph

end Connectivity
