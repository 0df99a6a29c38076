import Connectivity.Driver.Registry
import Connectivity.Proofs.Collections

/-!
# Targets of sub-requests

A sub-request whose endpoints are all resolved has a target, of a kind that the number of its
endpoints tells. The target has an edge point for each endpoint, in their order, and can be made
again of its edge points. Where there is a target it is up to the builders whether a driver is
selected.
-/
namespace Connectivity

/-- The kind of target that a driver is selected for, if there is a target. -/
def SubRequest.targetKind? (s : SubRequest) : Option TargetKind :=
  (Target.ofSubRequest? s).map (·.kind)

/-- The number of edge points that the kind of target is for. -/
def TargetKind.Admits : TargetKind → Nat → Prop
  | single, count => count = 1
  | pair, count => count = 2
  | multipoint, count => 2 < count

theorem TargetKind.Admits.eq_multipoint_iff {kind : TargetKind} {count : Nat}
    (h : kind.Admits count) : kind = .multipoint ↔ 2 < count := by
  cases kind with
  | single => exact iff_of_false nofun (by rw [h]; decide)
  | pair => exact iff_of_false nofun (by rw [h]; decide)
  | multipoint => exact iff_of_true rfl h

theorem TargetKind.Admits.pos {kind : TargetKind} {count : Nat} (h : kind.Admits count) :
    0 < count := by
  cases kind <;> simp only [Admits] at h <;> omega

/-- A resolved endpoint as an edge point to be driven: where it is and whose it is stay, and the
driver family is added. -/
structure TargetPoint.Drives (driverId : String) (e : EndPoint) (p : TargetPoint) : Prop where
  ref : e.point = some p.ref
  driverId : p.driverId = driverId
  endpoint : p.endpoint = e.endpoint

theorem TargetPoint.ofEndPoint?_eq_some_iff {driverId : String} {e : EndPoint} {p : TargetPoint} :
    ofEndPoint? driverId e = some p ↔ Drives driverId e p := by
  rw [ofEndPoint?, Option.map_eq_some_iff]
  constructor
  · rintro ⟨ref, href, rfl⟩
    exact ⟨href, rfl, rfl⟩
  · rintro ⟨href, rfl, hendpoint⟩
    exact ⟨p.ref, href, by rw [← hendpoint]⟩

theorem TargetPoint.ofEndPoint?_eq_none_iff {driverId : String} {e : EndPoint} :
    ofEndPoint? driverId e = none ↔ e.point = none := Option.map_eq_none_iff

namespace Target

variable {points : List TargetPoint} {s : SubRequest} {target : Target}

/-- The target of some edge points is the one that has them, in their order, and is of the kind for
that many. -/
theorem ofPoints?_eq_some_iff :
    ofPoints? points = some target ↔ target.points = points ∧ target.kind.Admits points.length := by
  constructor
  · intro h
    match points, h with
    | [_], h => cases h; exact ⟨rfl, rfl⟩
    | [_, _], h => cases h; exact ⟨rfl, rfl⟩
    | _ :: _ :: _ :: rest, h =>
        cases h
        exact ⟨rfl, Nat.le_add_left 3 rest.length⟩
  · rintro ⟨rfl, hkind⟩
    cases target with
    | single p => rfl
    | pair a z => rfl
    | multipoint points =>
        -- a list for this kind is too long for the cases before it
        match points, hkind with
        | _ :: _ :: _ :: _, _ => rfl

theorem ofPoints?_eq_none_iff : ofPoints? points = none ↔ points = [] := by
  match points with
  | [] => exact iff_of_true rfl rfl
  | [_] => exact iff_of_false nofun nofun
  | [_, _] => exact iff_of_false nofun nofun
  | _ :: _ :: _ :: _ => exact iff_of_false nofun nofun

/-- A target comes back from its edge points unless it is called a multipoint target for too few of
them. -/
theorem ofPoints?_points_iff :
    ofPoints? target.points = some target ↔ target.kind.Admits target.points.length := by
  rw [ofPoints?_eq_some_iff, and_iff_right rfl]

example (p : TargetPoint) : ofPoints? (multipoint [p]).points = some (single p) := rfl

theorem ofSubRequest?_eq_some_iff :
    ofSubRequest? s = some target ↔ target.kind.Admits s.endpoints.length ∧
      List.Forall₂ (TargetPoint.Drives s.driverId) s.endpoints target.points := by
  simp only [ofSubRequest?, Option.bind_eq_bind, Option.bind_eq_some_iff, mapM_option_eq_some_iff,
    TargetPoint.ofEndPoint?_eq_some_iff, ofPoints?_eq_some_iff]
  constructor
  · rintro ⟨points, hall, rfl, hkind⟩
    exact ⟨hall.length_eq ▸ hkind, hall⟩
  · rintro ⟨hkind, hall⟩
    exact ⟨target.points, hall, rfl, hall.length_eq ▸ hkind⟩

theorem ofSubRequest?_eq_none_iff :
    ofSubRequest? s = none ↔ s.endpoints = [] ∨ ∃ e ∈ s.endpoints, e.point = none := by
  have hunresolved : s.endpoints.mapM (TargetPoint.ofEndPoint? s.driverId) = none ↔
      ∃ e ∈ s.endpoints, e.point = none := by
    simp only [mapM_option_eq_none_iff, TargetPoint.ofEndPoint?_eq_none_iff]
  cases hpoints : s.endpoints.mapM (TargetPoint.ofEndPoint? s.driverId) with
  | none =>
      have hnone : ofSubRequest? s = none := by
        rw [ofSubRequest?, hpoints]
        rfl
      exact iff_of_true hnone (.inr (hunresolved.1 hpoints))
  | some points =>
      have hresolved : ¬ ∃ e ∈ s.endpoints, e.point = none := by
        rw [← hunresolved, hpoints]
        exact nofun
      have hlength := (mapM_option_eq_some_iff.1 hpoints).length_eq
      have hpointless : ofSubRequest? s = ofPoints? points := by
        rw [ofSubRequest?, hpoints]
        rfl
      rw [hpointless, ofPoints?_eq_none_iff, or_iff_left hresolved, ← List.length_eq_zero_iff,
        ← hlength, List.length_eq_zero_iff]

/-- A target has the edge points of the endpoints, all with the driver family of the sub-request. -/
theorem of_ofSubRequest? (h : ofSubRequest? s = some target) :
    target.points ≠ [] ∧
      ∀ p ∈ target.points, p.driverId = s.driverId ∧ ∃ e ∈ s.endpoints, e.point = some p.ref := by
  obtain ⟨hkind, hall⟩ := ofSubRequest?_eq_some_iff.1 h
  have hpos : 0 < target.points.length := hall.length_eq ▸ hkind.pos
  refine ⟨List.ne_nil_of_length_pos hpos, fun p hp => ?_⟩
  obtain ⟨e, he, hdrives⟩ := (exists_of_forall₂ hall).2 p hp
  exact ⟨hdrives.driverId, e, he, hdrives.ref⟩

/-- A sub-request with endpoints, all of which are resolved, has a target on as many edge points. -/
theorem exists_ofSubRequest? (hne : s.endpoints ≠ [])
    (hresolved : ∀ e ∈ s.endpoints, e.point.isSome) :
    ∃ target, ofSubRequest? s = some target ∧ target.points.length = s.endpoints.length ∧
      (target.kind = .multipoint ↔ 2 < s.endpoints.length) := by
  have hsome : ofSubRequest? s ≠ none := by
    rw [Ne, ofSubRequest?_eq_none_iff]
    rintro (hnil | ⟨e, he, hnone⟩)
    · exact hne hnil
    · have hpoint := hresolved e he
      rw [hnone] at hpoint
      exact nomatch hpoint
  obtain ⟨target, htarget⟩ := Option.ne_none_iff_exists'.1 hsome
  obtain ⟨hkind, hall⟩ := ofSubRequest?_eq_some_iff.1 htarget
  exact ⟨target, htarget, hall.length_eq.symm, hkind.eq_multipoint_iff⟩

end Target

/-- A sub-request has no target if it has no endpoints or one that is not resolved. Otherwise the
target is of the kind for as many edge points as there are endpoints, has one for each of them in
their order, and is again made of its edge points. -/
theorem target_of_subRequest (s : SubRequest) :
    (Target.ofSubRequest? s = none ↔ s.endpoints = [] ∨ ∃ e ∈ s.endpoints, e.point = none) ∧
      ∀ target,
        (Target.ofSubRequest? s = some target ↔ target.kind.Admits s.endpoints.length ∧
          List.Forall₂ (TargetPoint.Drives s.driverId) s.endpoints target.points) ∧
        (Target.ofSubRequest? s = some target →
          Target.ofPoints? target.points = some target) := by
  refine ⟨Target.ofSubRequest?_eq_none_iff, fun target => ⟨Target.ofSubRequest?_eq_some_iff, ?_⟩⟩
  intro h
  obtain ⟨hkind, hall⟩ := Target.ofSubRequest?_eq_some_iff.1 h
  rw [Target.ofPoints?_points_iff, ← hall.length_eq]
  exact hkind

/-- Traffic of one endpoint branches to two edge points that the caller did not ask for. -/
def branching : SubRequest :=
  ⟨"n0", "d", [⟨some (.ofSip "s"), some ⟨"n0", "n0:1"⟩⟩, ⟨none, some ⟨"n0", "n0:2"⟩⟩,
    ⟨none, some ⟨"n0", "n0:3"⟩⟩]⟩

theorem branching_target : ∃ target, Target.ofSubRequest? branching = some target ∧
    target.kind = .multipoint ∧
    List.Forall₂ (TargetPoint.Drives "d") branching.endpoints target.points ∧
    Target.ofPoints? target.points = some target := by
  obtain ⟨target, htarget⟩ : ∃ target, Target.ofSubRequest? branching = some target := ⟨_, rfl⟩
  obtain ⟨hiff, hagain⟩ := (target_of_subRequest branching).2 target
  obtain ⟨hkind, hall⟩ := hiff.1 htarget
  exact ⟨target, htarget, hkind.eq_multipoint_iff.2 (by decide), hall, hagain htarget⟩

namespace Registry

variable {ε : Type}

/-- Candidates that are not one are an error of selection. -/
theorem isSelectionError_of_choose {target : Target} {candidates : List (Instance ε)}
    {error : Error} (h : choose target candidates = .error error) :
    error.isSelectionError = true := by
  unfold choose at h
  split at h
  · cases h
    rfl
  · cases h
  · cases h
    rfl

/-- Where a sub-request has a target, no driver is selected only if no builder offers one, or if
several do. -/
theorem isSelectionError_of_select {r : Registry ε} {s : SubRequest} {target : Target}
    (htarget : Target.ofSubRequest? s = some target) {slot : Nat} {context : Context}
    {error : Error} (h : (r.select slot s context).result = .error error) :
    error.isSelectionError = true := by
  rw [select, htarget] at h
  exact isSelectionError_of_choose h

end Registry

end Connectivity
