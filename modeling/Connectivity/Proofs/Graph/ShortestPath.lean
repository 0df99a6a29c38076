import Connectivity.Proofs.Collections
import Connectivity.Proofs.Graph.SearchInvariant
import Connectivity.Topology.Sample
import Mathlib.Data.List.Nodup
import Mathlib.Data.List.Range

/-!
# Breadth-first search finds shortest paths

Parents lead from any vertex that was seen back to the start, over as many edges as its distance.
The search meets its goal if there is a walk to it, and it ends since no vertex is expanded twice.
-/
namespace Connectivity

namespace Search

variable {g : Graph} {a : EdgePointId} {expanded : List EdgePointId} {s : Search}

theorem trace_of_no_parent {id : EdgePointId} (h : s.parents[id]? = none) (fuel : Nat) :
    s.trace fuel id = [id] := by
  cases fuel with
  | zero => rfl
  | succ fuel => simp only [trace, h]

namespace Invariant

/-- Parents lead back to the start over as many edges as the distance, so that many are enough. -/
theorem trace_spec (h : s.Invariant g a expanded) (fuel : Nat) {x : EdgePointId}
    (hx : x ∈ expanded ++ s.queue) (hfuel : g.distance a x ≤ fuel) :
    g.IsRoute a x (s.trace fuel x) ∧
      (s.trace fuel x).map (g.distance a) = List.range (g.distance a x + 1) ∧
      ∀ y ∈ s.trace fuel x, y ∈ expanded ++ s.queue := by
  induction fuel generalizing x with
  | zero =>
      by_cases hxa : x = a
      · subst hxa
        simpa [trace, Graph.isRoute_self] using hx
      · obtain ⟨p, _, _, _, hdist⟩ := h.parent x hx hxa
        omega
  | succ fuel ih =>
      by_cases hxa : x = a
      · subst hxa
        rw [trace_of_no_parent h.start_parent]
        simpa [Graph.isRoute_self] using hx
      · obtain ⟨p, hp, hparent, hedge, hdist⟩ := h.parent x hx hxa
        have hpfuel : g.distance a p ≤ fuel := by omega
        obtain ⟨hroute, hdistances, hseen⟩ := ih (List.mem_append_left _ hp) hpfuel
        have htrace : s.trace (fuel + 1) x = s.trace fuel p ++ [x] := by simp only [trace, hparent]
        rw [htrace]
        refine ⟨hroute.concat hedge, ?_, ?_⟩
        · rw [List.map_append, hdistances, hdist, List.range_succ (n := g.distance a p + 1),
            List.map_singleton, hdist]
        · intro y hy
          rcases List.mem_append.1 hy with hy | hy
          · exact hseen y hy
          · rw [List.mem_singleton.1 hy]
            exact hx

/-- Every vertex on the way to `x` but the start has a parent of its own. -/
theorem distance_le_parents (h : s.Invariant g a expanded) {x : EdgePointId}
    (hx : x ∈ expanded ++ s.queue) : g.distance a x ≤ s.parents.size := by
  obtain ⟨hroute, hdistances, hseen⟩ := h.trace_spec _ hx (Nat.le_refl _)
  set route := s.trace (g.distance a x) x with hdef
  have hnodup : route.Nodup := List.Nodup.of_map _ (hdistances ▸ List.nodup_range)
  have hlength : route.length = g.distance a x + 1 := by
    rw [← List.length_map (f := g.distance a), hdistances, List.length_range]
  have hcons : route = a :: route.tail := List.eq_cons_of_mem_head? hroute.starts
  have hkeys : ∀ y ∈ route.tail, y ∈ s.parents := by
    intro y hy
    rw [hcons] at hnodup
    have hya : y ≠ a := fun heq => (List.nodup_cons.1 hnodup).1 (heq ▸ hy)
    obtain ⟨p, _, hparent, _⟩ := h.parent y (hseen y (List.mem_of_mem_tail hy)) hya
    rw [Std.TreeMap.mem_iff_isSome_getElem?, hparent]
    rfl
  have := length_le_size_of_nodup hnodup.tail hkeys
  rw [List.length_tail] at this
  omega

/-- The path by which a search came to a vertex is a shortest one. -/
theorem path_spec (h : s.Invariant g a expanded) {x : EdgePointId}
    (hx : x ∈ expanded ++ s.queue) :
    g.IsRoute a x (s.path x) ∧ (s.path x).map (g.distance a) = List.range (g.distance a x + 1) ∧
      ∀ y ∈ s.path x, g.Reaches a y := by
  obtain ⟨hroute, hdistances, hseen⟩ := h.trace_spec _ hx (h.distance_le_parents hx)
  exact ⟨hroute, hdistances, fun y hy => h.reached y (hseen y hy)⟩

/-- Only vertices are expanded, and none twice. -/
theorem length_expanded_le (h : s.Invariant g a expanded) (hg : g.WellFormed)
    (ha : g.hasVertex a = true) : expanded.length ≤ g.vertexCount := by
  refine length_le_size_of_nodup (List.nodup_append.1 h.nodup).1 fun x hx => ?_
  obtain ⟨n, hw⟩ := h.reached x (List.mem_append_left _ hx)
  exact Std.TreeMap.mem_iff_contains.2 (hw.hasVertex hg ha)

end Invariant

end Search

namespace Graph

variable {g : Graph} {a b : EdgePointId}

section Rounds

variable {P : List EdgePointId → Search → Prop}

/-- The search stops with its goal at the head of the queue. What every round keeps, besides the
invariant, holds of it then. -/
theorem searchLoop_eq_some
    (hvisit : ∀ {expanded s current rest}, s.Invariant g a expanded → P expanded s →
      s.queue = current :: rest → P (expanded ++ [current]) (g.visit current rest s))
    {fuel : Nat} {expanded : List EdgePointId} {s found : Search} (h : s.Invariant g a expanded)
    (hP : P expanded s) (hfound : g.searchLoop b fuel s = some found) :
    ∃ expanded, found.Invariant g a expanded ∧ P expanded found ∧ b ∈ expanded ++ found.queue := by
  induction fuel generalizing expanded s with
  | zero => exact nomatch hfound
  | succ fuel ih =>
      cases hqueue : s.queue with
      | nil => simp only [searchLoop, hqueue, reduceCtorEq] at hfound
      | cons current rest =>
          simp only [searchLoop, hqueue] at hfound
          split at hfound
          case isTrue heq =>
            cases hfound
            refine ⟨expanded, h, hP, List.mem_append_right _ ?_⟩
            rw [hqueue, heq]
            exact List.mem_cons_self
          case isFalse => exact ih (h.visit hqueue) (hvisit h hP hqueue) hfound

end Rounds

/-- The search gives up only if there is no walk to its goal; the rounds suffice for it. -/
theorem searchLoop_eq_none {fuel : Nat} {expanded : List EdgePointId} {s : Search}
    (h : s.Invariant g a expanded) (hg : g.WellFormed) (ha : g.hasVertex a = true)
    (hb : b ∉ expanded) (hfuel : g.vertexCount < fuel + expanded.length)
    (hnone : g.searchLoop b fuel s = none) : ¬ g.Reaches a b := by
  induction fuel generalizing expanded s with
  | zero =>
      have := h.length_expanded_le hg ha
      omega
  | succ fuel ih =>
      cases hqueue : s.queue with
      | nil => exact fun hreach => hb (h.mem_expanded_of_reaches hqueue hreach)
      | cons current rest =>
          simp only [searchLoop, hqueue] at hnone
          split at hnone
          case isTrue => exact nomatch hnone
          case isFalse hne =>
            refine ih (h.visit hqueue) ?_ ?_ hnone
            · rw [List.mem_append, List.mem_singleton, not_or]
              exact ⟨hb, Ne.symm hne⟩
            · rw [List.length_append, List.length_singleton]
              omega

theorem map_filterMap_vertex? (hg : g.WellFormed) {ids : List EdgePointId}
    (h : ∀ id ∈ ids, g.hasVertex id = true) :
    (ids.filterMap g.vertex?).map (·.edgePointId) = ids := by
  induction ids with
  | nil => rfl
  | cons id ids ih =>
      obtain ⟨hid, hids⟩ := List.forall_mem_cons.1 h
      obtain ⟨v, hv⟩ := hasVertex_iff.1 hid
      rw [List.filterMap_cons_some hv, List.map_cons, ih hids, hg.id_of_vertex hv]

/-- A path is found between vertices with a walk from one to the other. -/
theorem exists_shortestPath_iff (hg : g.WellFormed) :
    (∃ path, g.shortestPath a b = some path) ↔
      g.hasVertex a = true ∧ g.hasVertex b = true ∧ g.Reaches a b := by
  unfold shortestPath
  split
  case isTrue hends =>
    obtain ⟨ha, hb⟩ := Bool.and_eq_true_iff.1 hends
    cases hsearch : g.search a b with
    | none =>
        have hnot := searchLoop_eq_none (Search.invariant_start g a) hg ha List.not_mem_nil
          (Nat.lt_succ_self _) hsearch
        simp [hnot]
    | some s =>
        obtain ⟨expanded, hs, -, hbs⟩ := searchLoop_eq_some (P := fun _ _ => True)
          (fun _ _ _ => trivial) (Search.invariant_start g a) trivial hsearch
        simp [ha, hb, hs.reached b hbs]
  case isFalse hends =>
    simp only [Bool.and_eq_true, not_and] at hends
    simp only [reduceCtorEq, exists_false, false_iff]
    rintro ⟨ha, hb, _⟩
    exact hends ha hb

/-- A path found lists the vertices by which a search has come to its goal. -/
theorem exists_search_of_shortestPath (hg : g.WellFormed) {P : List EdgePointId → Search → Prop}
    (hstart : P [] (.start a))
    (hvisit : ∀ {expanded s current rest}, s.Invariant g a expanded → P expanded s →
      s.queue = current :: rest → P (expanded ++ [current]) (g.visit current rest s))
    {path : List Vertex} (h : g.shortestPath a b = some path) :
    ∃ expanded s, s.Invariant g a expanded ∧ P expanded s ∧ b ∈ expanded ++ s.queue ∧
      path = (s.path b).filterMap g.vertex? ∧ path.map (·.edgePointId) = s.path b := by
  unfold shortestPath at h
  split at h
  case isFalse => exact nomatch h
  case isTrue hends =>
    obtain ⟨s, hsearch, rfl⟩ := Option.map_eq_some_iff.1 h
    have ha := (Bool.and_eq_true_iff.1 hends).1
    obtain ⟨expanded, hs, hP, hbs⟩ :=
      searchLoop_eq_some hvisit (Search.invariant_start g a) hstart hsearch
    refine ⟨expanded, s, hs, hP, hbs, rfl, map_filterMap_vertex? hg fun id hid => ?_⟩
    obtain ⟨n, hw⟩ := (hs.path_spec hbs).2.2 id hid
    exact hw.hasVertex hg ha

/-- What is found is a path, and the distances from the start count its vertices. -/
theorem shortestPath_spec (hg : g.WellFormed) {path : List Vertex}
    (h : g.shortestPath a b = some path) :
    g.IsPath a b path ∧
      path.map (fun v => g.distance a v.edgePointId) = List.range (g.distance a b + 1) := by
  obtain ⟨expanded, s, hs, -, hbs, hpath, hids⟩ :=
    exists_search_of_shortestPath hg (P := fun _ _ => True) trivial (fun _ _ _ => trivial) h
  obtain ⟨hroute, hdistances, -⟩ := hs.path_spec hbs
  refine ⟨⟨fun v hv => ?_, ?_⟩, ?_⟩
  · rw [hpath] at hv
    obtain ⟨id, _, hid⟩ := List.mem_filterMap.1 hv
    rw [hg.id_of_vertex hid]
    exact hid
  · rw [hids]
    exact hroute
  · rw [← hdistances, ← hids, List.map_map]
    rfl

/-- A path found has one vertex more than the distance. -/
theorem length_shortestPath (hg : g.WellFormed) {path : List Vertex}
    (h : g.shortestPath a b = some path) : path.length = g.distance a b + 1 := by
  have hlength := congrArg List.length (shortestPath_spec hg h).2
  rwa [List.length_map, List.length_range] at hlength

/-- No vertex is on it twice. -/
theorem ids_shortestPath_nodup (hg : g.WellFormed) {path : List Vertex}
    (h : g.shortestPath a b = some path) : (path.map (·.edgePointId)).Nodup := by
  obtain ⟨-, hdistances⟩ := shortestPath_spec hg h
  -- vertices at different distances from the start are different
  refine List.Nodup.of_map (g.distance a) ?_
  rw [List.map_map]
  exact hdistances ▸ List.nodup_range

/-- Nothing is to be searched for from a vertex to itself. -/
theorem shortestPath_self (hg : g.WellFormed) {v : Vertex} (hv : g.vertex? a = some v) :
    g.shortestPath a a = some [v] := by
  have hvertex : g.hasVertex a = true := hasVertex_iff.2 ⟨v, hv⟩
  obtain ⟨path, hpath⟩ := (exists_shortestPath_iff hg).2 ⟨hvertex, hvertex, 0, .start⟩
  have hlength := length_shortestPath hg hpath
  rw [distance_self] at hlength
  obtain ⟨w, rfl⟩ := List.length_eq_one_iff.1 hlength
  obtain ⟨hspec, -⟩ := shortestPath_spec hg hpath
  have hmem := List.mem_singleton.1 (hspec.mem_of_start hv)
  rw [hpath, hmem]

/-- A path is found where there is a walk, and it is a shortest one. -/
theorem shortestPath_sound_complete_minimal {t : Topology} (hg : ofTopology t = .ok g)
    (a b : EdgePointId) :
    ((∃ path, g.shortestPath a b = some path) ↔
      g.hasVertex a = true ∧ g.hasVertex b = true ∧ g.Reaches a b) ∧
    (∀ v, g.vertex? a = some v → g.shortestPath a a = some [v]) ∧
    ∀ path, g.shortestPath a b = some path →
      g.IsPath a b path ∧ (path.map (·.edgePointId)).Nodup ∧
        ∀ n, g.Walk a b n → path.length ≤ n + 1 := by
  have hwf := ofTopology_wellFormed hg
  refine ⟨exists_shortestPath_iff hwf, fun v hv => shortestPath_self hwf hv, ?_⟩
  intro path hpath
  refine ⟨(shortestPath_spec hwf hpath).1, ids_shortestPath_nodup hwf hpath, ?_⟩
  intro n hwalk
  have hdistance := distance_le hwalk
  rw [length_shortestPath hwf hpath]
  omega

/-- From one end of a row of nodes to the other, the path passes through every node. -/
theorem chain_shortestPath :
    ∃ g, ofTopology (Sample.threeNodeChain .enabled) = .ok g ∧
      ∃ path, g.shortestPath "n1:2" "n3:1" = some path ∧
        path.map (·.edgePointId) = ["n1:2", "n1:1", "n2:1", "n2:3", "n3:3", "n3:1"] ∧
        ∀ n, g.Walk "n1:2" "n3:1" n → path.length ≤ n + 1 := by
  obtain ⟨g, hg⟩ := (exists_ofTopology_eq_ok_iff (Sample.threeNodeChain .enabled)).2 (by decide)
  have hfound : (ofTopology (Sample.threeNodeChain .enabled)).toOption.bind
      (fun g => (g.shortestPath "n1:2" "n3:1").map fun path => path.map (·.edgePointId)) =
        some ["n1:2", "n1:1", "n2:1", "n2:3", "n3:3", "n3:1"] := by decide +kernel
  rw [hg] at hfound
  obtain ⟨path, hpath, hids⟩ := Option.map_eq_some_iff.1 hfound
  refine ⟨g, hg, path, hpath, hids, ?_⟩
  exact ((shortestPath_sound_complete_minimal hg "n1:2" "n3:1").2.2 path hpath).2.2

end Graph

end Connectivity
