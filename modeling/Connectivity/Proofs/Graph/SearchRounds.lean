import Connectivity.Proofs.Graph.ShortestPath

/-!
# The rounds of a search

Each round takes the head of the queue and sees its neighbours. Before every round parents lead from
each vertex seen back to the start, over as many steps as its distance, and what has entered the
queue has entered it once. So there are no more rounds than vertices, and the path is found by
following parents to their end.
-/
namespace Connectivity

namespace Search

variable {g : Graph} {a b : EdgePointId} {taken : List EdgePointId} {s : Search}

/-- The rounds of a search from `a` for `b`: the vertices that were taken from the queue, in order,
and the search when the next one is about to be taken. -/
inductive Round (g : Graph) (a b : EdgePointId) : List EdgePointId → Search → Prop
  | start : Round g a b [] (.start a)
  | next {taken : List EdgePointId} {s : Search} {current : EdgePointId}
      {rest : List EdgePointId} : Round g a b taken s → s.queue = current :: rest → current ≠ b →
      Round g a b (taken ++ [current]) (g.visit current rest s)

theorem Round.invariant (h : Round g a b taken s) : s.Invariant g a taken := by
  induction h with
  | start => exact invariant_start g a
  | next _ hqueue _ ih => exact ih.visit hqueue

/-- After some rounds the loop goes on with the search that they have come to. -/
theorem Round.searchLoop_eq (h : Round g a b taken s) (fuel : Nat) :
    g.searchLoop b (taken.length + fuel) (.start a) = g.searchLoop b fuel s := by
  induction h generalizing fuel with
  | start => rw [List.length_nil, Nat.zero_add]
  | next _ hqueue hne ih =>
      rw [List.length_append, List.length_singleton, Nat.add_assoc, ih, Nat.add_comm 1 fuel]
      simp only [Graph.searchLoop, hqueue, if_neg hne]

/-- The vertex that so many steps along the parents lead to. -/
def ancestor? (s : Search) : Nat → EdgePointId → Option EdgePointId
  | 0, x => some x
  | n + 1, x => s.parents[x]?.bind (s.ancestor? n)

namespace Invariant

/-- Steps along the parents come to the start when the distance is used up, and only then. -/
theorem ancestor?_eq_start_iff (h : s.Invariant g a taken) {x : EdgePointId}
    (hx : x ∈ taken ++ s.queue) (n : Nat) : s.ancestor? n x = some a ↔ n = g.distance a x := by
  induction n generalizing x with
  | zero =>
      by_cases hxa : x = a
      · subst hxa
        simp [ancestor?]
      · obtain ⟨p, -, -, -, hdist⟩ := h.parent x hx hxa
        simp only [ancestor?, Option.some.injEq, hxa, false_iff]
        omega
  | succ n ih =>
      by_cases hxa : x = a
      · subst hxa
        simp [ancestor?, h.start_parent]
      · obtain ⟨p, hp, hparent, -, hdist⟩ := h.parent x hx hxa
        rw [ancestor?, hparent, Option.bind_some, ih (List.mem_append_left _ hp), hdist,
          Nat.add_right_cancel_iff]

/-- More steps than the distance has make no difference to the way back. -/
theorem trace_eq_trace_distance (h : s.Invariant g a taken) {x : EdgePointId}
    (hx : x ∈ taken ++ s.queue) {fuel : Nat} (hfuel : g.distance a x ≤ fuel) :
    s.trace fuel x = s.trace (g.distance a x) x := by
  induction fuel generalizing x with
  | zero => rw [Nat.le_zero.1 hfuel]
  | succ fuel ih =>
      by_cases hxa : x = a
      · rw [hxa, trace_of_no_parent h.start_parent, trace_of_no_parent h.start_parent]
      · obtain ⟨p, hp, hparent, -, hdist⟩ := h.parent x hx hxa
        have hp : s.trace fuel p = s.trace (g.distance a p) p :=
          ih (List.mem_append_left _ hp) (by omega)
        rw [hdist]
        simp only [trace, hparent, hp]

theorem trace_eq_path (h : s.Invariant g a taken) {x : EdgePointId} (hx : x ∈ taken ++ s.queue)
    {fuel : Nat} (hfuel : g.distance a x ≤ fuel) : s.trace fuel x = s.path x :=
  (h.trace_eq_trace_distance hx hfuel).trans
    (h.trace_eq_trace_distance hx (h.distance_le_parents hx)).symm

/-- What has entered the queue are vertices, each of them once. -/
theorem length_entered_le (h : s.Invariant g a taken) (hg : g.WellFormed)
    (ha : g.hasVertex a = true) : (taken ++ s.queue).length ≤ g.vertexCount := by
  refine length_le_size_of_nodup h.nodup fun x hx => ?_
  obtain ⟨n, hw⟩ := h.reached x hx
  exact Std.TreeMap.mem_iff_contains.2 (hw.hasVertex hg ha)

end Invariant

/-- What holds before every round of a search from `a`, when the vertices `taken` have left the
queue. Together with those in the queue they are all that have entered it; a round adds to them the
neighbours that it is the first to see. -/
structure Upheld (g : Graph) (a : EdgePointId) (taken : List EdgePointId) (s : Search) : Prop where
  parent : ∀ x, s.seen.contains x = true → x ≠ a →
    ∃ p, s.parents[x]? = some p ∧ s.seen.contains p = true ∧ g.hasEdge p x = true
  walk : ∀ x, s.seen.contains x = true → g.Walk a x (g.distance a x)
  ancestor : ∀ x, s.seen.contains x = true → ∀ n, s.ancestor? n x = some a ↔ n = g.distance a x
  path : ∀ x, s.seen.contains x = true → (s.path x).length = g.distance a x + 1 ∧
    ∀ fuel, g.distance a x ≤ fuel → s.trace fuel x = s.path x
  start_parent : s.parents[a]? = none
  queue_seen : ∀ x ∈ s.queue, s.seen.contains x = true
  queue_ascending : s.queue.Pairwise fun x y => g.distance a x ≤ g.distance a y
  queue_span : ∀ x ∈ s.queue, ∀ y ∈ s.queue, g.distance a y ≤ g.distance a x + 1
  entered_once : (taken ++ s.queue).Nodup
  entered_seen : ∀ x, x ∈ taken ++ s.queue ↔ s.seen.contains x = true
  entered_bounded : (taken ++ s.queue).length ≤ g.vertexCount
  entered_next : ∀ current rest, s.queue = current :: rest →
    (taken ++ [current]) ++ (g.visit current rest s).queue =
      (taken ++ s.queue) ++ s.unseen (g.neighbours current)

theorem Invariant.upheld (h : s.Invariant g a taken) (hg : g.WellFormed)
    (ha : g.hasVertex a = true) : s.Upheld g a taken where
  parent x hx hxa := by
    obtain ⟨p, hp, hparent, hedge, -⟩ := h.parent x ((h.seen_iff x).1 hx) hxa
    exact ⟨p, hparent, (h.seen_iff p).2 (List.mem_append_left _ hp), hedge⟩
  walk x hx := Graph.walk_distance (h.reached x ((h.seen_iff x).1 hx))
  ancestor x hx := h.ancestor?_eq_start_iff ((h.seen_iff x).1 hx)
  path x hx := by
    have hentered := (h.seen_iff x).1 hx
    have hlength := congrArg List.length (h.path_spec hentered).2.1
    rw [List.length_map, List.length_range] at hlength
    exact ⟨hlength, fun _ hfuel => h.trace_eq_path hentered hfuel⟩
  start_parent := h.start_parent
  queue_seen x hx := (h.seen_iff x).2 (List.mem_append_right _ hx)
  queue_ascending := h.ascending
  queue_span := h.span
  entered_once := h.nodup
  entered_seen x := (h.seen_iff x).symm
  entered_bounded := h.length_entered_le hg ha
  entered_next _ _ hqueue := order_visit g taken hqueue

/-- There is a last round: the queue is empty, or the goal is at its head. -/
theorem Round.exists_last (hg : g.WellFormed) (ha : g.hasVertex a = true) (left : Nat)
    (h : Round g a b taken s) (hleft : g.vertexCount < taken.length + left) :
    ∃ taken s, Round g a b taken s ∧ (s.queue = [] ∨ ∃ rest, s.queue = b :: rest) := by
  induction left generalizing taken s with
  | zero =>
      have hbound := h.invariant.length_expanded_le hg ha
      omega
  | succ left ih =>
      cases hqueue : s.queue with
      | nil => exact ⟨taken, s, h, .inl hqueue⟩
      | cons current rest =>
          by_cases hgoal : current = b
          · exact ⟨taken, s, h, .inr ⟨rest, hgoal ▸ hqueue⟩⟩
          · refine ih (h.next hqueue hgoal) ?_
            rw [List.length_append, List.length_singleton]
            omega

end Search

namespace Graph

open Search (Round Upheld)

/-- Every round of a search keeps what the search relies on. The rounds end, with an empty queue if
nothing is found and else with the goal at the head of the queue, and then the loop returns. -/
theorem search_rounds {t : Topology} {g : Graph} (hg : ofTopology t = .ok g) {a : EdgePointId}
    (ha : g.hasVertex a = true) (b : EdgePointId) :
    (∀ taken s, Round g a b taken s → s.Upheld g a taken ∧
      ∀ fuel, g.searchLoop b (taken.length + fuel) (.start a) = g.searchLoop b fuel s) ∧
    ∃ taken s, Round g a b taken s ∧
      (s.queue = [] ∧ g.search a b = none ∨
        (∃ rest, s.queue = b :: rest) ∧ g.search a b = some s) := by
  have hwf := ofTopology_wellFormed hg
  refine ⟨fun taken s h => ⟨h.invariant.upheld hwf ha, h.searchLoop_eq⟩, ?_⟩
  obtain ⟨taken, s, h, hlast⟩ := Round.exists_last (b := b) hwf ha (g.vertexCount + 1)
    .start (by rw [List.length_nil]; omega)
  have hbound := h.invariant.length_expanded_le hwf ha
  obtain ⟨fuel, hfuel⟩ : ∃ fuel, g.vertexCount + 1 = taken.length + (fuel + 1) :=
    ⟨g.vertexCount - taken.length, by omega⟩
  have hsearch : g.search a b = g.searchLoop b (fuel + 1) s := by
    rw [search, hfuel, h.searchLoop_eq]
  refine ⟨taken, s, h, ?_⟩
  rcases hlast with hqueue | ⟨rest, hqueue⟩
  · exact .inl ⟨hqueue, by simp only [hsearch, searchLoop, hqueue]⟩
  · exact .inr ⟨⟨rest, hqueue⟩, by simp only [hsearch, searchLoop, hqueue, if_true]⟩

/-- Along a row of nodes the goal comes to the head of the queue, five parents from the start. -/
theorem chain_search_rounds :
    ∃ g, ofTopology (Sample.threeNodeChain .enabled) = .ok g ∧ g.hasVertex "n1:2" = true ∧
      ∃ taken s rest, Round g "n1:2" "n3:1" taken s ∧ s.queue = "n3:1" :: rest ∧
        s.ancestor? 5 "n3:1" = some "n1:2" ∧ (taken ++ s.queue).Nodup ∧
        g.search "n1:2" "n3:1" = some s := by
  obtain ⟨g, hg⟩ := (exists_ofTopology_eq_ok_iff (Sample.threeNodeChain .enabled)).2 (by decide)
  have hfound : (ofTopology (Sample.threeNodeChain .enabled)).toOption.bind
      (fun g => (g.shortestPath "n1:2" "n3:1").map List.length) = some 6 := by decide +kernel
  rw [hg] at hfound
  obtain ⟨path, hpath, hlength⟩ := Option.map_eq_some_iff.1 hfound
  have hwf := ofTopology_wellFormed hg
  obtain ⟨ha, -, hreaches⟩ := (exists_shortestPath_iff hwf).1 ⟨path, hpath⟩
  have hdistance : g.distance "n1:2" "n3:1" = 5 := by
    have := length_shortestPath hwf hpath
    omega
  obtain ⟨hrounds, taken, s, hround, ⟨-, hnone⟩ | ⟨⟨rest, hqueue⟩, hsome⟩⟩ :=
    search_rounds hg ha "n3:1"
  · simp [shortestPath, hnone] at hpath
  · obtain ⟨hupheld, -⟩ := hrounds taken s hround
    have hseen := hupheld.queue_seen "n3:1" (hqueue ▸ List.mem_cons_self)
    exact ⟨g, hg, ha, taken, s, rest, hround, hqueue,
      (hupheld.ancestor "n3:1" hseen 5).2 hdistance.symm, hupheld.entered_once, hsome⟩

end Graph

end Connectivity
