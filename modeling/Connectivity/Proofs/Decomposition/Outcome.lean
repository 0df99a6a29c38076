import Connectivity.Proofs.Decomposition.Checks
import Connectivity.Proofs.Decomposition.Grouping
import Connectivity.Proofs.Graph.ShortestPath
import Connectivity.Service.Manager
import Connectivity.Topology.Sample

/-!
# How a request is answered

An unknown sip is reported before any fault of the request itself, and a fault before anything is
said of paths. An admissible request has no decomposition if no two of its endpoints can be paired,
or if there is no walk between the vertices of some pair. Else the sub-requests tell of the vertices
on the paths of all pairs.
-/
namespace Connectivity

namespace Decomposition

variable {g : Graph} {endpoints : List ServiceEndPoint}

/-- All sips are known and all directions fit, and endpoints with one sip are equal. -/
structure Admissible (g : Graph) (endpoints : List ServiceEndPoint) : Prop where
  fits : ∀ e ∈ endpoints, ∃ v, Fits g e v
  distinct : ∀ e ∈ endpoints, ∀ f ∈ endpoints, e.sip = f.sip → e = f

theorem Admissible.known (h : Admissible g endpoints) :
    ∀ e ∈ endpoints, ∃ v, g.vertexOfSip? e.sip = some v :=
  fun e he => (h.fits e he).imp fun _ hv => hv.1

theorem malformed_or_admissible (hknown : ∀ e ∈ endpoints, ∃ v, g.vertexOfSip? e.sip = some v) :
    Malformed g endpoints ∨ Admissible g endpoints := by
  by_cases h : Malformed g endpoints
  · exact .inl h
  · obtain ⟨hdirections, haccepts, hsips⟩ := by simpa only [Malformed, not_or] using h
    refine .inr ⟨fun e he => ?_, fun e he f hf heq => ?_⟩
    · obtain ⟨v, hv⟩ := hknown e he
      refine ⟨v, hv, fun hunknown => hdirections ⟨e, he, hunknown⟩, ?_⟩
      by_contra hrefused
      exact haccepts ⟨e, he, v, hv, Bool.not_eq_true _ ▸ hrefused⟩
    · by_contra hne
      exact hsips ⟨e, he, f, hf, hne, heq⟩

theorem Admissible.not_malformed (h : Admissible g endpoints) : ¬ Malformed g endpoints := by
  rintro (⟨e, he, hunknown⟩ | ⟨e, he, v, hv, hrefused⟩ | ⟨e, he, f, hf, hne, heq⟩)
  · obtain ⟨v, -, hdirection, -⟩ := h.fits e he
    exact hdirection hunknown
  · obtain ⟨w, hw, -, haccepts⟩ := h.fits e he
    cases hv.symm.trans hw
    rw [hrefused] at haccepts
    exact nomatch haccepts
  · exact hne (h.distinct e he f hf heq)

/-- An endpoint in the input role on `v` and one in the output role on another vertex `w`. -/
structure RolePair (g : Graph) (endpoints : List ServiceEndPoint) (v w : Vertex) : Prop where
  input : ∃ i ∈ endpoints, i.direction.isInputCapable = true ∧ g.vertexOfSip? i.sip = some v
  output : ∃ o ∈ endpoints, o.direction.isOutputCapable = true ∧ g.vertexOfSip? o.sip = some w
  apart : v.edgePointId ≠ w.edgePointId

/-- An admissible request with endpoints to pair, and with a walk for every pair. -/
structure Connected (g : Graph) (endpoints : List ServiceEndPoint) : Prop where
  admissible : Admissible g endpoints
  paired : ∃ v w, RolePair g endpoints v w
  reaches : ∀ v w, RolePair g endpoints v w → g.Reaches v.edgePointId w.edgePointId

/-- The vertex is on the path of some pair. -/
def OnPath (g : Graph) (endpoints : List ServiceEndPoint) (u : Vertex) : Prop :=
  ∃ v w path, RolePair g endpoints v w ∧
    g.shortestPath v.edgePointId w.edgePointId = some path ∧ u ∈ path

/-- Both vertices of a pair are as the graph keeps them. -/
theorem RolePair.kept (hg : g.WellFormed) {v w : Vertex} (h : RolePair g endpoints v w) :
    g.vertex? v.edgePointId = some v ∧ g.vertex? w.edgePointId = some w := by
  obtain ⟨i, -, -, hv⟩ := h.input
  obtain ⟨o, -, -, hw⟩ := h.output
  exact ⟨(hg.vertexOfSip?_eq_some hv).2, (hg.vertexOfSip?_eq_some hw).2⟩

theorem RolePair.exists_path_iff (hg : g.WellFormed) {v w : Vertex} (h : RolePair g endpoints v w) :
    (∃ path, g.shortestPath v.edgePointId w.edgePointId = some path) ↔
      g.Reaches v.edgePointId w.edgePointId := by
  obtain ⟨hv, hw⟩ := h.kept hg
  have hv := Graph.hasVertex_iff.2 ⟨v, hv⟩
  have hw := Graph.hasVertex_iff.2 ⟨w, hw⟩
  rw [Graph.exists_shortestPath_iff hg, and_iff_right hv, and_iff_right hw]

/-- The two vertices of a connected pair are on its path. -/
theorem RolePair.onPath (hg : g.WellFormed) {v w : Vertex} (h : RolePair g endpoints v w)
    (hreach : g.Reaches v.edgePointId w.edgePointId) :
    OnPath g endpoints v ∧ OnPath g endpoints w := by
  obtain ⟨path, hpath⟩ := (h.exists_path_iff hg).2 hreach
  obtain ⟨hv, hw⟩ := h.kept hg
  have hispath := (Graph.shortestPath_spec hg hpath).1
  exact ⟨⟨v, w, path, h, hpath, hispath.mem_of_start hv⟩,
    ⟨v, w, path, h, hpath, hispath.mem_of_end hw⟩⟩

/-- Vertices on paths are as the graph keeps them. -/
theorem OnPath.kept (hg : g.WellFormed) {u : Vertex} (h : OnPath g endpoints u) :
    g.vertex? u.edgePointId = some u := by
  obtain ⟨v, w, path, -, hpath, hu⟩ := h
  exact (Graph.shortestPath_spec hg hpath).1.kept u hu

theorem OnPath.eq_of_id (hg : g.WellFormed) {u v : Vertex} (hu : OnPath g endpoints u)
    (hv : OnPath g endpoints v) (hid : u.edgePointId = v.edgePointId) : u = v := by
  have hu := hu.kept hg
  rw [hid, hv.kept hg] at hu
  exact (Option.some.inj hu).symm

/-- Vertices on paths are told apart by their refs. -/
theorem OnPath.eq_of_ref (hg : g.WellFormed) {u v : Vertex} (hu : OnPath g endpoints u)
    (hv : OnPath g endpoints v) (href : u.ref = v.ref) : u = v :=
  hu.eq_of_id hg hv (congrArg EdgePointRef.edgePointId href)

/-- The resolved endpoints of an admissible request. -/
theorem Admissible.exists_resolved (h : Admissible g endpoints) :
    ∃ resolved, endpoints.mapM (resolve g) = .ok resolved ∧
      ∀ v d, (⟨v, d⟩ : ResolvedEndPoint) ∈ resolved ↔
        ∃ e ∈ endpoints, g.vertexOfSip? e.sip = some v ∧ e.direction = d := by
  rcases mapM_except_cases (resolve g) endpoints with
    ⟨resolved, hok, hall⟩ | ⟨error, -, e, he, herror⟩
  · obtain ⟨hforward, hbackward⟩ := exists_of_forall₂ hall
    refine ⟨resolved, hok, fun v d => ⟨fun hr => ?_, ?_⟩⟩
    · obtain ⟨e, he, hresolve⟩ := hbackward _ hr
      obtain ⟨⟨hv, -⟩, hd⟩ := resolve_eq_ok_iff.1 hresolve
      exact ⟨e, he, hv, hd.symm⟩
    · rintro ⟨e, he, hv, rfl⟩
      obtain ⟨⟨w, d⟩, hr, hresolve⟩ := hforward e he
      obtain ⟨⟨hw, -⟩, hd⟩ := resolve_eq_ok_iff.1 hresolve
      cases hw.symm.trans hv
      cases hd
      exact hr
  · obtain ⟨v, hfits⟩ := h.fits e he
    have hok := (resolve_eq_ok_iff (r := ⟨v, e.direction⟩)).2 ⟨hfits, rfl⟩
    rw [herror] at hok
    exact nomatch hok

/-- The pairs of an admissible request are those of its roles. -/
theorem mem_pairs_iff {resolved : List ResolvedEndPoint}
    (h : ∀ v d, (⟨v, d⟩ : ResolvedEndPoint) ∈ resolved ↔
      ∃ e ∈ endpoints, g.vertexOfSip? e.sip = some v ∧ e.direction = d) {a b : EdgePointId} :
    (a, b) ∈ pairs resolved ↔
      ∃ v w, RolePair g endpoints v w ∧ v.edgePointId = a ∧ w.edgePointId = b := by
  simp only [pairs, List.mem_flatMap, List.mem_map, List.mem_filter, Prod.mk.injEq, ne_eq,
    decide_eq_true_eq]
  constructor
  · rintro ⟨⟨v, d⟩, ⟨hr, hinput⟩, ⟨w, d'⟩, ⟨⟨hr', houtput⟩, hne⟩, rfl, rfl⟩
    obtain ⟨i, hi, hv, rfl⟩ := (h v d).1 hr
    obtain ⟨o, ho, hw, rfl⟩ := (h w d').1 hr'
    exact ⟨v, w, ⟨⟨i, hi, hinput, hv⟩, ⟨o, ho, houtput, hw⟩, Ne.symm hne⟩, rfl, rfl⟩
  · rintro ⟨v, w, ⟨⟨i, hi, hinput, hv⟩, ⟨o, ho, houtput, hw⟩, hne⟩, rfl, rfl⟩
    exact ⟨⟨v, i.direction⟩, ⟨(h _ _).2 ⟨i, hi, hv, rfl⟩, hinput⟩, ⟨w, o.direction⟩,
      ⟨⟨(h _ _).2 ⟨o, ho, hw, rfl⟩, houtput⟩, Ne.symm hne⟩, rfl, rfl⟩

/-- The answer to a request, with the reason for it. -/
inductive Answered (g : Graph) (endpoints : List ServiceEndPoint) :
    Except Error (Option (List SubRequest)) → Prop where
  | unknown (h : ∃ e ∈ endpoints, g.vertexOfSip? e.sip = none) :
      Answered g endpoints (.error (.failureResult
        ("Some service interface points not found in the system: [" ++
          ",".intercalate (missingSips g endpoints) ++ "]")))
  | malformed (known : ∀ e ∈ endpoints, ∃ v, g.vertexOfSip? e.sip = some v)
      (h : Malformed g endpoints) (message : String) :
      Answered g endpoints (.error (.illegalArgument message))
  | unpaired (admissible : Admissible g endpoints) (h : ∀ v w, ¬ RolePair g endpoints v w) :
      Answered g endpoints (.ok none)
  | unreachable (admissible : Admissible g endpoints) {v w : Vertex}
      (pair : RolePair g endpoints v w) (h : ¬ g.Reaches v.edgePointId w.edgePointId) :
      Answered g endpoints (.ok none)
  | connected (h : Connected g endpoints) {vertices : List Vertex}
      (mem : ∀ u, u ∈ vertices ↔ OnPath g endpoints u)
      (nonempty : subRequests endpoints vertices ≠ []) :
      Answered g endpoints (.ok (some (subRequests endpoints vertices)))

/-- Either all pairs are connected and their paths are found, or some pair has no walk. -/
theorem paths?_cases (hg : g.WellFormed) {resolved : List ResolvedEndPoint}
    (hmem : ∀ v d, (⟨v, d⟩ : ResolvedEndPoint) ∈ resolved ↔
      ∃ e ∈ endpoints, g.vertexOfSip? e.sip = some v ∧ e.direction = d) :
    (∃ paths, paths? g (pairs resolved) = some paths ∧
        (∀ v w, RolePair g endpoints v w → g.Reaches v.edgePointId w.edgePointId) ∧
        ∀ u, u ∈ paths.flatten ↔ OnPath g endpoints u) ∨
      (paths? g (pairs resolved) = none ∧
        ∃ v w, RolePair g endpoints v w ∧ ¬ g.Reaches v.edgePointId w.edgePointId) := by
  rcases mapM_option_cases (fun (p : EdgePointId × EdgePointId) => g.shortestPath p.1 p.2)
    (pairs resolved) with ⟨paths, hpaths, hall⟩ | ⟨hnone, ⟨a, b⟩, hp, hnopath⟩
  · obtain ⟨hforward, hbackward⟩ := exists_of_forall₂ hall
    have hfound : ∀ v w, RolePair g endpoints v w →
        ∃ path ∈ paths, g.shortestPath v.edgePointId w.edgePointId = some path :=
      fun v w hpair => hforward _ ((mem_pairs_iff hmem).2 ⟨v, w, hpair, rfl, rfl⟩)
    refine .inl ⟨paths, hpaths, fun v w hpair => ?_, fun u => ?_⟩
    · obtain ⟨path, -, hpath⟩ := hfound v w hpair
      exact (hpair.exists_path_iff hg).1 ⟨path, hpath⟩
    · rw [List.mem_flatten]
      constructor
      · rintro ⟨path, hpath, hu⟩
        obtain ⟨⟨a, b⟩, hp, hshortest⟩ := hbackward path hpath
        obtain ⟨v, w, hpair, rfl, rfl⟩ := (mem_pairs_iff hmem).1 hp
        exact ⟨v, w, path, hpair, hshortest, hu⟩
      · rintro ⟨v, w, path, hpair, hshortest, hu⟩
        obtain ⟨path', hpath', hshortest'⟩ := hfound v w hpair
        cases hshortest.symm.trans hshortest'
        exact ⟨path, hpath', hu⟩
  · obtain ⟨v, w, hpair, rfl, rfl⟩ := (mem_pairs_iff hmem).1 hp
    refine .inr ⟨hnone, v, w, hpair, fun hreach => ?_⟩
    obtain ⟨path, hpath⟩ := (hpair.exists_path_iff hg).2 hreach
    cases hpath.symm.trans hnopath

theorem inGraph_of_admissible (hg : g.WellFormed) (h : Admissible g endpoints) :
    Answered g endpoints (inGraph g endpoints) := by
  have hmissing : missingSips g endpoints = [] := missingSips_eq_nil_iff.2 h.known
  have hshared : sharedSip? [] endpoints = none := sharedSip?_nil_eq_none_iff.2 h.distinct
  obtain ⟨resolved, hresolved, hmem⟩ := h.exists_resolved
  rcases paths?_cases hg hmem with ⟨paths, hpaths, hreach, hvertices⟩ | ⟨hnone, v, w, hpair, hreach⟩
  · have hanswer : inGraph g endpoints =
        .ok (if (subRequests endpoints paths.flatten).isEmpty then none
          else some (subRequests endpoints paths.flatten)) := by
      simp only [inGraph, hmissing, hresolved, hshared, List.isEmpty_nil, if_true, bind,
        Except.bind, hpaths]
      rfl
    rw [hanswer]
    by_cases hpair : ∃ v w, RolePair g endpoints v w
    · obtain ⟨v, w, hpair⟩ := hpair
      have hv : v ∈ paths.flatten := (hvertices v).2 (hpair.onPath hg (hreach v w hpair)).1
      have hne : subRequests endpoints paths.flatten ≠ [] :=
        mt subRequests_eq_nil_iff.1 (List.ne_nil_of_mem hv)
      rw [if_neg (by rwa [List.isEmpty_iff])]
      exact .connected ⟨h, ⟨v, w, hpair⟩, hreach⟩ hvertices hne
    · have hnil : paths.flatten = [] := by
        refine List.eq_nil_iff_forall_not_mem.2 fun u hu => hpair ?_
        obtain ⟨v, w, path, hvw, -⟩ := (hvertices u).1 hu
        exact ⟨v, w, hvw⟩
      rw [subRequests_eq_nil_iff.2 hnil, if_pos List.isEmpty_nil]
      exact .unpaired h fun v w hvw => hpair ⟨v, w, hvw⟩
  · have hanswer : inGraph g endpoints = .ok none := by
      simp only [inGraph, hmissing, hresolved, hshared, List.isEmpty_nil, if_true, bind,
        Except.bind, hnone]
      rfl
    rw [hanswer]
    exact .unreachable h hpair hreach

theorem inGraph_of_unknown (h : ∃ e ∈ endpoints, g.vertexOfSip? e.sip = none) :
    Answered g endpoints (inGraph g endpoints) := by
  obtain ⟨e, he, hnone⟩ := h
  have hmissing : missingSips g endpoints ≠ [] :=
    List.ne_nil_of_mem (mem_missingSips.2 ⟨e, he, rfl, hnone⟩)
  have hanswer : inGraph g endpoints = .error (.failureResult
      ("Some service interface points not found in the system: [" ++
        ",".intercalate (missingSips g endpoints) ++ "]")) := by
    simp only [inGraph, List.isEmpty_eq_false_iff.2 hmissing]
    rfl
  rw [hanswer]
  exact .unknown ⟨e, he, hnone⟩

/-- The first endpoint that cannot be resolved is what is said of a request on known sips. -/
theorem inGraph_of_resolve_error (hknown : ∀ e ∈ endpoints, ∃ v, g.vertexOfSip? e.sip = some v)
    {error : Error} (h : endpoints.mapM (resolve g) = .error error) :
    inGraph g endpoints = .error error := by
  simp only [inGraph, missingSips_eq_nil_iff.2 hknown, h]
  rfl

theorem inGraph_of_malformed (hknown : ∀ e ∈ endpoints, ∃ v, g.vertexOfSip? e.sip = some v)
    (h : Malformed g endpoints) : Answered g endpoints (inGraph g endpoints) := by
  have hmissing : missingSips g endpoints = [] := missingSips_eq_nil_iff.2 hknown
  rcases mapM_except_cases (resolve g) endpoints with
    ⟨resolved, hresolved, hall⟩ | ⟨error, hresolved, e, he, herror⟩
  · cases hshared : sharedSip? [] endpoints with
    | none =>
        have hadmissible : Admissible g endpoints := by
          refine ⟨fun e he => ?_, sharedSip?_nil_eq_none_iff.1 hshared⟩
          obtain ⟨r, -, hr⟩ := (exists_of_forall₂ hall).1 e he
          exact ⟨r.vertex, (resolve_eq_ok_iff.1 hr).1⟩
        exact absurd h hadmissible.not_malformed
    | some sip =>
        have hanswer : inGraph g endpoints = .error (.illegalArgument
            ("Service interface point " ++ sip ++ " requested by more than one endpoint")) := by
          simp only [inGraph, hmissing, hresolved, hshared]
          rfl
        rw [hanswer]
        exact .malformed hknown h _
  · obtain ⟨v, hv⟩ := hknown e he
    rcases resolve_cases hv with ⟨-, hok⟩ | ⟨-, message, hfault⟩
    · rw [herror] at hok
      exact nomatch hok
    · cases herror.symm.trans hfault
      rw [inGraph_of_resolve_error hknown hresolved]
      exact .malformed hknown h _

/-- Every request is answered for one of these reasons. -/
theorem inGraph_answered (hg : g.WellFormed) (endpoints : List ServiceEndPoint) :
    Answered g endpoints (inGraph g endpoints) := by
  by_cases hunknown : ∃ e ∈ endpoints, g.vertexOfSip? e.sip = none
  · exact inGraph_of_unknown hunknown
  · have hknown : ∀ e ∈ endpoints, ∃ v, g.vertexOfSip? e.sip = some v := fun e he =>
      Option.ne_none_iff_exists'.1 fun hnone => hunknown ⟨e, he, hnone⟩
    rcases malformed_or_admissible hknown with hmalformed | hadmissible
    · exact inGraph_of_malformed hknown hmalformed
    · exact inGraph_of_admissible hg hadmissible

namespace Answered

variable {answer : Except Error (Option (List SubRequest))}

theorem failureResult_iff (h : Answered g endpoints answer) :
    (∃ message, answer = .error (.failureResult message)) ↔
      ∃ e ∈ endpoints, g.vertexOfSip? e.sip = none := by
  have hknown : (∀ e ∈ endpoints, ∃ v, g.vertexOfSip? e.sip = some v) →
      ¬ ∃ e ∈ endpoints, g.vertexOfSip? e.sip = none := by
    rintro hknown ⟨e, he, hnone⟩
    obtain ⟨v, hv⟩ := hknown e he
    cases hnone.symm.trans hv
  cases h with
  | unknown h => exact iff_of_true ⟨_, rfl⟩ h
  | malformed known => exact iff_of_false nofun (hknown known)
  | unpaired h => exact iff_of_false nofun (hknown h.known)
  | unreachable h => exact iff_of_false nofun (hknown h.known)
  | connected h => exact iff_of_false nofun (hknown h.admissible.known)

theorem eq_of_unknown (h : Answered g endpoints answer)
    (hunknown : ∃ e ∈ endpoints, g.vertexOfSip? e.sip = none) :
    answer = .error (.failureResult
      ("Some service interface points not found in the system: [" ++
        ",".intercalate (missingSips g endpoints) ++ "]")) := by
  obtain ⟨message, hmessage⟩ := h.failureResult_iff.2 hunknown
  cases h with
  | unknown => rfl
  | malformed => cases hmessage
  | unpaired => cases hmessage
  | unreachable => cases hmessage
  | connected => cases hmessage

theorem illegalArgument_iff (h : Answered g endpoints answer)
    (hknown : ∀ e ∈ endpoints, g.vertexOfSip? e.sip ≠ none) :
    (∃ message, answer = .error (.illegalArgument message)) ↔ Malformed g endpoints := by
  cases h with
  | unknown h =>
      obtain ⟨e, he, hnone⟩ := h
      exact absurd hnone (hknown e he)
  | malformed _ h => exact iff_of_true ⟨_, rfl⟩ h
  | unpaired h => exact iff_of_false nofun h.not_malformed
  | unreachable h => exact iff_of_false nofun h.not_malformed
  | connected h => exact iff_of_false nofun h.admissible.not_malformed

/-- Of an admissible request it is said whether all its pairs are connected. -/
theorem ok_iff (h : Answered g endpoints answer)
    (hknown : ∀ e ∈ endpoints, g.vertexOfSip? e.sip ≠ none) (hok : ¬ Malformed g endpoints) :
    (answer = .ok none ↔ (¬ ∃ v w, RolePair g endpoints v w) ∨
        ∃ v w, RolePair g endpoints v w ∧ ¬ g.Reaches v.edgePointId w.edgePointId) ∧
      ((∃ subs, answer = .ok (some subs) ∧ subs ≠ []) ↔ (∃ v w, RolePair g endpoints v w) ∧
        ∀ v w, RolePair g endpoints v w → g.Reaches v.edgePointId w.edgePointId) := by
  have hnot : ¬ ∃ subs, Except.ok (ε := Error) (none : Option (List SubRequest)) = .ok (some subs) ∧
      subs ≠ [] := nofun
  cases h with
  | unknown h =>
      obtain ⟨e, he, hnone⟩ := h
      exact absurd hnone (hknown e he)
  | malformed _ h => exact absurd h hok
  | unpaired _ h =>
      have hnone : ¬ ∃ v w, RolePair g endpoints v w := fun ⟨v, w, hpair⟩ => h v w hpair
      exact ⟨iff_of_true rfl (.inl hnone), iff_of_false hnot fun hall => hnone hall.1⟩
  | unreachable _ pair h =>
      exact ⟨iff_of_true rfl (.inr ⟨_, _, pair, h⟩),
        iff_of_false hnot fun hall => h (hall.2 _ _ pair)⟩
  | connected h _ nonempty =>
      constructor
      · refine iff_of_false nofun ?_
        rintro (hnone | ⟨v, w, hpair, hreach⟩)
        · exact hnone h.paired
        · exact hreach (h.reaches v w hpair)
      · exact iff_of_true ⟨_, rfl, nonempty⟩ ⟨h.paired, h.reaches⟩

/-- A connected request has a decomposition. -/
theorem exists_subs_of_connected (h : Answered g endpoints answer) (hc : Connected g endpoints) :
    ∃ subs, answer = .ok (some subs) := by
  have hknown : ∀ e ∈ endpoints, g.vertexOfSip? e.sip ≠ none := fun e he =>
    Option.ne_none_iff_exists'.2 (hc.admissible.known e he)
  obtain ⟨subs, hsubs, -⟩ := (h.ok_iff hknown hc.admissible.not_malformed).2.2
    ⟨hc.paired, hc.reaches⟩
  exact ⟨subs, hsubs⟩

/-- A decomposition is made of the vertices on paths. -/
theorem connected_of_some {subs : List SubRequest} (h : Answered g endpoints (.ok (some subs))) :
    Connected g endpoints ∧ ∃ vertices, (∀ u, u ∈ vertices ↔ OnPath g endpoints u) ∧
      subs = subRequests endpoints vertices := by
  cases h with
  | connected h mem => exact ⟨h, _, mem, rfl⟩

theorem ne_nil_of_some {subs : List SubRequest} (h : Answered g endpoints (.ok (some subs))) :
    subs ≠ [] := by
  cases h with
  | connected _ _ nonempty => exact nonempty

end Answered

end Decomposition

open Decomposition

variable {t : Topology} {endpoints : List ServiceEndPoint}

theorem decompose_of_few (h : endpoints.length < 2) (t : Topology) :
    decompose t endpoints =
      .error (.illegalArgument "there should be at least two endpoints defined") := by
  rw [decompose, checkCount, if_pos h]
  rfl

theorem decompose_of_no_nodes (h : 2 ≤ endpoints.length) (hnodes : t.nodes = []) :
    decompose t endpoints =
      .error (.failureResult ("There are no nodes in " ++ t.id ++ " topology")) := by
  rw [decompose, checkCount, if_neg (Nat.not_lt.2 h), Graph.ofTopology,
    if_pos (List.isEmpty_iff.2 hnodes)]
  rfl

theorem decompose_of_graph {g : Graph} (h : 2 ≤ endpoints.length)
    (hg : Graph.ofTopology t = .ok g) :
    decompose t endpoints = inGraph g endpoints := by
  rw [decompose, checkCount, if_neg (Nat.not_lt.2 h), hg]
  rfl

theorem decomposeOver_of_few {σ : Type} [DataStore σ] (h : endpoints.length < 2)
    (topologyId : TopologyId) (store : σ) :
    decomposeOver topologyId store endpoints =
      .error (.illegalArgument "there should be at least two endpoints defined") := by
  rw [decomposeOver, checkCount, if_pos h]
  rfl

theorem two_le_of_decompose {result : Option (List SubRequest)}
    (h : decompose t endpoints = .ok result) : 2 ≤ endpoints.length := by
  by_contra hfew
  rw [decompose_of_few (Nat.not_le.1 hfew)] at h
  exact nomatch h

theorem decompose_eq_ok {result : Option (List SubRequest)}
    (h : decompose t endpoints = .ok result) :
    ∃ g, Graph.ofTopology t = .ok g ∧ Answered g endpoints (.ok result) := by
  have htwo := two_le_of_decompose h
  have hnodes : t.nodes ≠ [] := by
    intro hnodes
    rw [decompose_of_no_nodes htwo hnodes] at h
    exact nomatch h
  obtain ⟨g, hg⟩ := (Graph.exists_ofTopology_eq_ok_iff t).2 hnodes
  have hanswered := inGraph_answered (Graph.ofTopology_wellFormed hg) endpoints
  rw [← decompose_of_graph htwo hg, h] at hanswered
  exact ⟨g, hg, hanswered⟩

/-- What is answered to a request, and when. Of a request with fewer than two endpoints the topology
is not looked at, so that an error of the store does not show. -/
theorem decompose_outcome (t : Topology) (endpoints : List ServiceEndPoint) :
    (endpoints.length < 2 →
      decompose t endpoints =
          .error (.illegalArgument "there should be at least two endpoints defined") ∧
        ∀ {σ : Type} [DataStore σ] (topologyId : TopologyId) (store : σ),
          decomposeOver topologyId store endpoints =
            .error (.illegalArgument "there should be at least two endpoints defined")) ∧
    (2 ≤ endpoints.length →
      ((∃ message, decompose t endpoints = .error (.failureResult message)) ↔
        t.nodes = [] ∨ ∃ g, Graph.ofTopology t = .ok g ∧
          ∃ e ∈ endpoints, g.vertexOfSip? e.sip = none) ∧
      ∀ g, Graph.ofTopology t = .ok g →
        ((∃ e ∈ endpoints, g.vertexOfSip? e.sip = none) →
          ∃ sips : List SipId,
            decompose t endpoints = .error (.failureResult
              ("Some service interface points not found in the system: [" ++
                ",".intercalate sips ++ "]")) ∧
            sips.Pairwise (· < ·) ∧
            ∀ sip, sip ∈ sips ↔ ∃ e ∈ endpoints, e.sip = sip ∧ g.vertexOfSip? sip = none) ∧
        ((∀ e ∈ endpoints, g.vertexOfSip? e.sip ≠ none) →
          ((∃ message, decompose t endpoints = .error (.illegalArgument message)) ↔
            Malformed g endpoints) ∧
          (¬ Malformed g endpoints →
            (decompose t endpoints = .ok none ↔
              (¬ ∃ v w, RolePair g endpoints v w) ∨
                ∃ v w, RolePair g endpoints v w ∧
                  ¬ g.Reaches v.edgePointId w.edgePointId) ∧
            ((∃ subs, decompose t endpoints = .ok (some subs) ∧ subs ≠ []) ↔
              (∃ v w, RolePair g endpoints v w) ∧
                ∀ v w, RolePair g endpoints v w →
                  g.Reaches v.edgePointId w.edgePointId)))) := by
  refine ⟨fun hfew => ⟨decompose_of_few hfew t, fun _ _ => decomposeOver_of_few hfew _ _⟩, ?_⟩
  intro htwo
  refine ⟨?_, fun g hg => ?_⟩
  · by_cases hnodes : t.nodes = []
    · exact iff_of_true ⟨_, decompose_of_no_nodes htwo hnodes⟩ (.inl hnodes)
    · obtain ⟨g, hg⟩ := (Graph.exists_ofTopology_eq_ok_iff t).2 hnodes
      have hanswered := inGraph_answered (Graph.ofTopology_wellFormed hg) endpoints
      rw [decompose_of_graph htwo hg, hanswered.failureResult_iff, or_iff_right hnodes]
      constructor
      · exact fun hunknown => ⟨g, hg, hunknown⟩
      · rintro ⟨g', hg', hunknown⟩
        cases hg.symm.trans hg'
        exact hunknown
  · have hanswered := inGraph_answered (Graph.ofTopology_wellFormed hg) endpoints
    rw [decompose_of_graph htwo hg]
    refine ⟨fun hunknown => ?_, fun hknown => ⟨hanswered.illegalArgument_iff hknown,
      fun hok => hanswered.ok_iff hknown hok⟩⟩
    exact ⟨_, hanswered.eq_of_unknown hunknown, missingSips_ascending g endpoints,
      fun sip => mem_missingSips⟩

/-- The endpoints of two linked nodes are known, fit, and can be paired both ways. -/
theorem linkedPair_connected :
    ∃ g, Graph.ofTopology (Sample.linkedPair .enabled) = .ok g ∧
      (∀ e ∈ [Sample.endPoint "n1:1", Sample.endPoint "n2:1"], g.vertexOfSip? e.sip ≠ none) ∧
      ¬ Malformed g [Sample.endPoint "n1:1", Sample.endPoint "n2:1"] ∧
      (∃ v w, RolePair g [Sample.endPoint "n1:1", Sample.endPoint "n2:1"] v w) ∧
      ∀ v w, RolePair g [Sample.endPoint "n1:1", Sample.endPoint "n2:1"] v w →
        g.Reaches v.edgePointId w.edgePointId := by
  obtain ⟨g, hg⟩ := (Graph.exists_ofTopology_eq_ok_iff (Sample.linkedPair .enabled)).2 nofun
  have hsubs : decompose (Sample.linkedPair .enabled)
      [Sample.endPoint "n1:1", Sample.endPoint "n2:1"] = .ok (some
        [⟨"n1", "n1", [⟨some (Sample.endPoint "n1:1"), some (Sample.ref "n1:1")⟩]⟩,
          ⟨"n2", "n2", [⟨some (Sample.endPoint "n2:1"), some (Sample.ref "n2:1")⟩]⟩]) := by
    decide +kernel
  obtain ⟨hfailure, hgraph⟩ := (decompose_outcome (Sample.linkedPair .enabled)
    [Sample.endPoint "n1:1", Sample.endPoint "n2:1"]).2 (by decide)
  have hknown : ∀ e ∈ [Sample.endPoint "n1:1", Sample.endPoint "n2:1"],
      g.vertexOfSip? e.sip ≠ none := by
    intro e he hnone
    obtain ⟨message, herror⟩ := hfailure.2 (.inr ⟨g, hg, e, he, hnone⟩)
    cases hsubs.symm.trans herror
  obtain ⟨hillegal, hok⟩ := (hgraph g hg).2 hknown
  have hadmissible : ¬ Malformed g
      [Sample.endPoint "n1:1", Sample.endPoint "n2:1"] := by
    intro hmalformed
    obtain ⟨message, herror⟩ := hillegal.2 hmalformed
    cases hsubs.symm.trans herror
  exact ⟨g, hg, hknown, hadmissible, (hok hadmissible).2.1 ⟨_, hsubs, List.cons_ne_nil _ _⟩⟩

end Connectivity
