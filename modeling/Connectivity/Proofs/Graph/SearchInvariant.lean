import Connectivity.Graph.Search
import Connectivity.Proofs.Graph.Walk
import Mathlib.Data.List.Nodup

/-!
# The invariant of breadth-first search

The vertices seen are those expanded and those still in the queue. Expanded vertices have all their
neighbours seen, and the queue holds vertices by ascending distance from the start, none of them
more than one edge further than another. So a vertex is seen first over as few edges as possible,
and an empty queue means that all vertices in reach have been seen.
-/
namespace Connectivity

namespace Search

variable {g : Graph} {a : EdgePointId}

/-- Those of some ids that a search has not seen, in their order. -/
def unseen (s : Search) (ids : List EdgePointId) : List EdgePointId :=
  ids.filter fun id => !s.seen.contains id

theorem mem_unseen {s : Search} {ids : List EdgePointId} {x : EdgePointId} :
    x ∈ s.unseen ids ↔ x ∈ ids ∧ s.seen.contains x = false := by
  rw [unseen, List.mem_filter, Bool.not_eq_true']

theorem seen_discover (s : Search) (current next x : EdgePointId) :
    (s.discover current next).seen.contains x = true ↔ s.seen.contains x = true ∨ x = next := by
  unfold discover
  split
  case isTrue h =>
    constructor
    · exact Or.inl
    · rintro (hx | rfl)
      · exact hx
      · exact h
  case isFalse =>
    simp only [Std.TreeSet.contains_insert, Bool.or_eq_true, beq_iff_eq,
      Std.LawfulEqOrd.compare_eq_iff_eq]
    rw [or_comm, @eq_comm _ next x]

theorem seen_foldl_discover (s : Search) (current : EdgePointId) (ids : List EdgePointId)
    (x : EdgePointId) :
    (ids.foldl (discover current) s).seen.contains x = true ↔
      s.seen.contains x = true ∨ x ∈ ids := by
  induction ids generalizing s with
  | nil => simp
  | cons id ids ih => rw [List.foldl_cons, ih, seen_discover, List.mem_cons, or_assoc]

/-- A vertex seen leaves the rest unseen as it was. -/
theorem unseen_discover (s : Search) (current : EdgePointId) {id : EdgePointId}
    {ids : List EdgePointId} (h : id ∉ ids) :
    (s.discover current id).unseen ids = s.unseen ids := by
  refine List.filter_congr fun x hx => ?_
  have hne : x ≠ id := fun heq => h (heq ▸ hx)
  rw [Bool.eq_iff_iff, Bool.not_eq_true', Bool.not_eq_true', ← Bool.not_eq_true, seen_discover,
    or_iff_left hne, Bool.not_eq_true]

theorem queue_foldl_discover (s : Search) (current : EdgePointId) {ids : List EdgePointId}
    (h : ids.Nodup) :
    (ids.foldl (discover current) s).queue = s.queue ++ s.unseen ids := by
  induction ids generalizing s with
  | nil => simp [unseen]
  | cons id ids ih =>
      obtain ⟨hid, hids⟩ := List.nodup_cons.1 h
      rw [List.foldl_cons, ih _ hids, unseen_discover s current hid]
      by_cases hseen : s.seen.contains id = true
      · simp [discover, unseen, hseen]
      · simp [discover, unseen, hseen]

theorem parents_discover (s : Search) (current next x : EdgePointId) :
    (s.discover current next).parents[x]? =
      if x = next ∧ s.seen.contains next = false then some current else s.parents[x]? := by
  unfold discover
  by_cases hseen : s.seen.contains next = true
  · simp [hseen]
  · simp only [hseen, Bool.false_eq_true, if_false, Std.TreeMap.getElem?_insert,
      Std.LawfulEqOrd.compare_eq_iff_eq, @eq_comm _ next x, and_true]

theorem parents_foldl_discover (s : Search) (current : EdgePointId) (ids : List EdgePointId)
    (x : EdgePointId) :
    (ids.foldl (discover current) s).parents[x]? =
      if x ∈ s.unseen ids then some current else s.parents[x]? := by
  induction ids generalizing s with
  | nil => simp [unseen]
  | cons id ids ih =>
      rw [List.foldl_cons, ih, parents_discover]
      simp only [mem_unseen, ← Bool.not_eq_true, seen_discover, List.mem_cons]
      by_cases hx : x = id
      · subst hx
        simp
      · simp [hx]

end Search

namespace Graph

variable {g : Graph} {a : EdgePointId} {s : Search} {current : EdgePointId}
  {rest : List EdgePointId}

theorem seen_visit (x : EdgePointId) :
    (g.visit current rest s).seen.contains x = true ↔
      s.seen.contains x = true ∨ g.hasEdge current x = true := by
  rw [visit, Search.seen_foldl_discover, mem_neighbours]

theorem queue_visit :
    (g.visit current rest s).queue = rest ++ s.unseen (g.neighbours current) := by
  rw [visit, Search.queue_foldl_discover _ _ (g.neighbours_nodup current)]
  rfl

theorem parents_visit (x : EdgePointId) :
    (g.visit current rest s).parents[x]? =
      if x ∈ s.unseen (g.neighbours current) then some current else s.parents[x]? :=
  Search.parents_foldl_discover _ _ _ _

end Graph

namespace Search

/-- What holds of a search from `a` whenever the next vertex is about to leave the queue. -/
structure Invariant (g : Graph) (a : EdgePointId) (expanded : List EdgePointId) (s : Search) :
    Prop where
  seen_iff : ∀ x, s.seen.contains x = true ↔ x ∈ expanded ++ s.queue
  nodup : (expanded ++ s.queue).Nodup
  start_seen : a ∈ expanded ++ s.queue
  reached : ∀ x ∈ expanded ++ s.queue, g.Reaches a x
  closed : ∀ x ∈ expanded, ∀ y, g.hasEdge x y = true → y ∈ expanded ++ s.queue
  start_parent : s.parents[a]? = none
  parent : ∀ x ∈ expanded ++ s.queue, x ≠ a → ∃ p ∈ expanded, s.parents[x]? = some p ∧
    g.hasEdge p x = true ∧ g.distance a x = g.distance a p + 1
  ascending : s.queue.Pairwise fun x y => g.distance a x ≤ g.distance a y
  span : ∀ x ∈ s.queue, ∀ y ∈ s.queue, g.distance a y ≤ g.distance a x + 1

variable {g : Graph} {a : EdgePointId} {expanded : List EdgePointId} {s : Search}
  {current : EdgePointId} {rest : List EdgePointId}

theorem invariant_start (g : Graph) (a : EdgePointId) : (start a).Invariant g a [] where
  seen_iff x := by
    simp only [start, Std.TreeSet.contains_insert, Std.LawfulEqOrd.compare_eq_iff_eq,
      Bool.or_eq_true, beq_iff_eq, List.nil_append, List.mem_singleton, @eq_comm _ a x]
    simp
  nodup := by simp [start]
  start_seen := by simp [start]
  reached x hx := by
    rw [show x = a by simpa [start] using hx]
    exact ⟨0, .start⟩
  closed x hx := nomatch hx
  start_parent := by simp [start]
  parent x hx hne := absurd (by simpa [start] using hx) hne
  ascending := by simp [start]
  span x hx y hy := by
    rw [show y = a by simpa [start] using hy, Graph.distance_self]
    exact Nat.zero_le _

namespace Invariant

/-- A walk ends at a vertex that is seen, or leads through the queue. -/
theorem seen_or_through_queue (h : s.Invariant g a expanded) {x : EdgePointId} {n : Nat}
    (hw : g.Walk a x n) :
    x ∈ expanded ++ s.queue ∨ ∃ q ∈ s.queue, g.distance a q < n := by
  induction hw with
  | start => exact .inl h.start_seen
  | @step b c n hw hedge ih =>
      rcases ih with hb | ⟨q, hq, hlt⟩
      · rcases List.mem_append.1 hb with hb | hb
        · exact .inl (h.closed b hb c hedge)
        · exact .inr ⟨b, hb, Nat.lt_succ_of_le (Graph.distance_le hw)⟩
      · exact .inr ⟨q, hq, Nat.lt_succ_of_lt hlt⟩

/-- An empty queue means that everything in reach is seen. -/
theorem mem_expanded_of_reaches (h : s.Invariant g a expanded) (hqueue : s.queue = [])
    {x : EdgePointId} (hx : g.Reaches a x) : x ∈ expanded := by
  obtain ⟨n, hw⟩ := hx
  rcases h.seen_or_through_queue hw with hx | ⟨q, hq, _⟩
  · rwa [hqueue, List.append_nil] at hx
  · rw [hqueue] at hq
    exact nomatch hq

/-- The head of the queue is as near to the start as anything in it. -/
theorem distance_head_le (h : s.Invariant g a expanded) (hqueue : s.queue = current :: rest)
    {q : EdgePointId} (hq : q ∈ s.queue) : g.distance a current ≤ g.distance a q := by
  have hasc := h.ascending
  rw [hqueue] at hasc hq
  rcases List.mem_cons.1 hq with rfl | hq
  · exact Nat.le_refl _
  · exact (List.pairwise_cons.1 hasc).1 q hq

/-- A neighbour that is not seen yet is one edge further than the head of the queue. -/
theorem distance_unseen (h : s.Invariant g a expanded) (hqueue : s.queue = current :: rest)
    {x : EdgePointId} (hx : x ∈ s.unseen (g.neighbours current)) :
    g.Reaches a x ∧ g.distance a x = g.distance a current + 1 := by
  obtain ⟨hedge, hunseen⟩ := mem_unseen.1 hx
  rw [Graph.mem_neighbours] at hedge
  have hcurrent : current ∈ s.queue := hqueue ▸ List.mem_cons_self
  have hreached : g.Reaches a current := h.reached current (List.mem_append_right _ hcurrent)
  have hx : g.Reaches a x := hreached.step hedge
  refine ⟨hx, Nat.le_antisymm (Graph.distance_le_succ hreached hedge) ?_⟩
  rcases h.seen_or_through_queue (Graph.walk_distance hx) with hseen | ⟨q, hq, hlt⟩
  · rw [← h.seen_iff, hunseen] at hseen
    exact nomatch hseen
  · have := h.distance_head_le hqueue hq
    omega

/-- What is seen is not unseen. -/
theorem not_mem_unseen (h : s.Invariant g a expanded) {x : EdgePointId}
    (hx : x ∈ expanded ++ s.queue) (ids : List EdgePointId) : x ∉ s.unseen ids := by
  intro hunseen
  rw [← h.seen_iff, (mem_unseen.1 hunseen).2] at hx
  exact nomatch hx

/-- Expanding the head of the queue adds its unseen neighbours to those seen. -/
theorem order_visit (g : Graph) (expanded : List EdgePointId)
    (hqueue : s.queue = current :: rest) :
    (expanded ++ [current]) ++ (g.visit current rest s).queue =
      (expanded ++ s.queue) ++ s.unseen (g.neighbours current) := by
  rw [Graph.queue_visit, hqueue]
  simp

theorem seen_visit_iff (h : s.Invariant g a expanded) (rest : List EdgePointId)
    (x : EdgePointId) :
    (g.visit current rest s).seen.contains x = true ↔
      x ∈ (expanded ++ s.queue) ++ s.unseen (g.neighbours current) := by
  rw [Graph.seen_visit, h.seen_iff, List.mem_append (s := expanded ++ s.queue), mem_unseen,
    Graph.mem_neighbours, ← Bool.not_eq_true, h.seen_iff]
  by_cases hx : x ∈ expanded ++ s.queue <;> simp [hx]

/-- Vertices seen before keep their parents. -/
theorem parents_visit_of_seen (h : s.Invariant g a expanded) {x : EdgePointId}
    (hx : x ∈ expanded ++ s.queue) :
    (g.visit current rest s).parents[x]? = s.parents[x]? := by
  rw [Graph.parents_visit, if_neg (h.not_mem_unseen hx _)]

/-- What is in the queue after the head is expanded is no nearer than the head, and no more than one
edge further. -/
theorem distance_visit (h : s.Invariant g a expanded) (hqueue : s.queue = current :: rest)
    {x : EdgePointId} (hx : x ∈ (g.visit current rest s).queue) :
    g.distance a current ≤ g.distance a x ∧ g.distance a x ≤ g.distance a current + 1 := by
  rw [Graph.queue_visit] at hx
  rcases List.mem_append.1 hx with hx | hx
  · have hcurrent : current ∈ s.queue := hqueue ▸ List.mem_cons_self
    have hold : x ∈ s.queue := hqueue ▸ List.mem_cons_of_mem _ hx
    exact ⟨h.distance_head_le hqueue hold, h.span current hcurrent x hold⟩
  · have hdist := (h.distance_unseen hqueue hx).2
    omega

/-- Expanding the head of the queue keeps the invariant. -/
theorem visit (h : s.Invariant g a expanded) (hqueue : s.queue = current :: rest) :
    (g.visit current rest s).Invariant g a (expanded ++ [current]) := by
  have horder := order_visit g expanded hqueue
  have hnew := fun x (hx : x ∈ s.unseen (g.neighbours current)) => h.distance_unseen hqueue hx
  constructor
  case seen_iff =>
    rw [horder]
    exact h.seen_visit_iff rest
  case nodup =>
    rw [horder]
    refine h.nodup.append ((g.neighbours_nodup current).filter _) fun x hx hunseen => ?_
    exact h.not_mem_unseen hx _ hunseen
  case start_seen =>
    rw [horder]
    exact List.mem_append_left _ h.start_seen
  case reached =>
    intro x hx
    rw [horder] at hx
    rcases List.mem_append.1 hx with hx | hx
    · exact h.reached x hx
    · exact (hnew x hx).1
  case closed =>
    intro x hx y hedge
    rw [horder, ← h.seen_visit_iff rest, Graph.seen_visit]
    rcases List.mem_append.1 hx with hx | hx
    · exact .inl ((h.seen_iff y).2 (h.closed x hx y hedge))
    · rw [List.mem_singleton.1 hx] at hedge
      exact .inr hedge
  case start_parent => rw [h.parents_visit_of_seen h.start_seen, h.start_parent]
  case parent =>
    intro x hx hne
    rw [horder] at hx
    rcases List.mem_append.1 hx with hx | hx
    · obtain ⟨p, hp, hparent, hrest⟩ := h.parent x hx hne
      exact ⟨p, List.mem_append_left _ hp, by rw [h.parents_visit_of_seen hx, hparent], hrest⟩
    · refine ⟨current, by simp, ?_, Graph.mem_neighbours.1 (mem_unseen.1 hx).1, (hnew x hx).2⟩
      rw [Graph.parents_visit, if_pos hx]
  case ascending =>
    rw [Graph.queue_visit]
    refine List.pairwise_append.2 ⟨?_, ?_, ?_⟩
    · have hasc := h.ascending
      rw [hqueue] at hasc
      exact hasc.of_cons
    · refine List.pairwise_of_forall_mem_list fun x hx y hy => ?_
      rw [(hnew x hx).2, (hnew y hy).2]
    · intro x hx y hy
      have hqueued : x ∈ (g.visit current rest s).queue := by
        rw [Graph.queue_visit]
        exact List.mem_append_left _ hx
      rw [(hnew y hy).2]
      exact (h.distance_visit hqueue hqueued).2
  case span =>
    intro x hx y hy
    have hx := h.distance_visit hqueue hx
    have hy := h.distance_visit hqueue hy
    omega

end Invariant

end Search

end Connectivity
