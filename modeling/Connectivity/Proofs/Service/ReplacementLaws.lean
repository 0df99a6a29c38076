import Connectivity.Proofs.Service.Replacement
import Mathlib.Data.List.Induction

/-!
# Laws of replacement

What gives way to an endpoint of its local id, and all that stays. Of several replacements in turn
the last one of each local id counts. So a replacement may be repeated, is lost under a later one of
its local id, and may change places with one of another.
-/
namespace Connectivity

/-- What becomes of an endpoint when `e` is put in the place of those that have its local id. An
endpoint of another local id, or of none, stays. -/
structure ServiceEndPoint.GivesWay (e old new : ServiceEndPoint) : Prop where
  same : e.localId.isSome → old.localId = e.localId → new = e
  other : old.localId = none ∨ old.localId ≠ e.localId → new = old

/-- The caller's part may give way, if there is one. A synthetic endpoint remains without it. -/
structure EndPoint.Replaced (e : ServiceEndPoint) (old new : EndPoint) : Prop where
  point : new.point = old.point
  endpoint : Option.Rel e.GivesWay old.endpoint new.endpoint

structure Connection.Replaced (e : ServiceEndPoint) (old new : Connection) : Prop where
  id : new.id = old.id
  nodeId : new.nodeId = old.nodeId
  driverId : new.driverId = old.driverId
  endpoints : List.Forall₂ (EndPoint.Replaced e) old.endpoints new.endpoints

/-- Endpoints give way where they stand, in the list and in the connections. All lists stay as long
as they are. -/
structure Service.Replaced (e : ServiceEndPoint) (old new : Service) : Prop where
  id : new.id = old.id
  serviceType : new.serviceType = old.serviceType
  exclusive : new.exclusive = old.exclusive
  createdAt : new.createdAt = old.createdAt
  endpoints : List.Forall₂ e.GivesWay old.endpoints new.endpoints
  connections : List.Forall₂ (Connection.Replaced e) old.connections new.connections

/-- The last of several endpoints that has the local id of `old`, and `old` if none of them has. -/
def ServiceEndPoint.lastInPlaceOf (es : List ServiceEndPoint) (old : ServiceEndPoint) :
    ServiceEndPoint :=
  (es.reverse.find? fun e => e.localId.isSome ∧ old.localId = e.localId).getD old

/-- The service after replacements in turn. -/
def Service.replaceAll (s : Service) (es : List ServiceEndPoint) : Service :=
  es.foldl replaceEndpoint s

/-! ## What gives way and what stays -/

theorem ServiceEndPoint.stays_iff {e old : ServiceEndPoint} :
    (old.localId = none ∨ old.localId ≠ e.localId) ↔
      ¬ (e.localId.isSome ∧ old.localId = e.localId) := by
  cases e.localId <;> cases old.localId <;> simp

theorem ServiceEndPoint.givesWay_iff (e old new : ServiceEndPoint) :
    e.GivesWay old new ↔ new = e.inPlaceOf old := by
  constructor
  · intro h
    unfold inPlaceOf
    split
    case isTrue hsame => exact h.same hsame.1 hsame.2
    case isFalse hother => exact h.other (stays_iff.2 hother)
  · rintro rfl
    exact ⟨fun hsome hold => if_pos ⟨hsome, hold⟩, fun hother => if_neg (stays_iff.1 hother)⟩

theorem EndPoint.replaced_iff (e : ServiceEndPoint) (old new : EndPoint) :
    Replaced e old new ↔ new = { old with endpoint := old.endpoint.map e.inPlaceOf } := by
  have hcaller : Option.Rel e.GivesWay old.endpoint new.endpoint ↔
      new.endpoint = old.endpoint.map e.inPlaceOf := by
    cases old.endpoint <;> cases new.endpoint <;>
      simp [ServiceEndPoint.givesWay_iff]
  constructor
  · intro h
    cases new
    congr 1
    · exact hcaller.1 h.endpoint
    · exact h.point
  · rintro rfl
    exact ⟨rfl, hcaller.2 rfl⟩

theorem Connection.replaced_iff (e : ServiceEndPoint) (old new : Connection) :
    Replaced e old new ↔ new = old.mapEndpoints e.inPlaceOf := by
  constructor
  · intro h
    have hpoints := (forall₂_iff_eq_map (EndPoint.replaced_iff e)).1 h.endpoints
    cases new
    cases h.id
    cases h.nodeId
    cases h.driverId
    cases hpoints
    rfl
  · rintro rfl
    exact ⟨rfl, rfl, rfl, (forall₂_iff_eq_map (EndPoint.replaced_iff e)).2 rfl⟩

namespace Service

variable {s s' : Service} {e : ServiceEndPoint}

/-- The replacement changes what gives way, leaves what stays, and does nothing else. -/
theorem replaced_iff : s.Replaced e s' ↔ s' = s.replaceEndpoint e := by
  rw [replaceEndpoint_eq_mapEndpoints]
  constructor
  · intro h
    have hendpoints := (forall₂_iff_eq_map e.givesWay_iff).1 h.endpoints
    have hconnections := (forall₂_iff_eq_map (Connection.replaced_iff e)).1 h.connections
    cases s'
    cases h.id
    cases h.serviceType
    cases h.exclusive
    cases h.createdAt
    cases hendpoints
    cases hconnections
    rfl
  · rintro rfl
    exact ⟨rfl, rfl, rfl, rfl,
      (forall₂_iff_eq_map e.givesWay_iff).2 rfl,
      (forall₂_iff_eq_map (Connection.replaced_iff e)).2 rfl⟩

end Service

/-! ## Replacements in turn -/

namespace ServiceEndPoint

variable {e f : ServiceEndPoint} {es : List ServiceEndPoint}

@[simp] theorem localId_lastInPlaceOf (es : List ServiceEndPoint) (old : ServiceEndPoint) :
    (lastInPlaceOf es old).localId = old.localId := by
  unfold lastInPlaceOf
  cases hfound : es.reverse.find? fun e => e.localId.isSome ∧ old.localId = e.localId with
  | none => rfl
  | some e =>
      have hsame : e.localId.isSome ∧ old.localId = e.localId := by
        simpa using List.find?_some hfound
      exact hsame.2.symm

theorem lastInPlaceOf_concat (es : List ServiceEndPoint) (e old : ServiceEndPoint) :
    lastInPlaceOf (es ++ [e]) old = e.inPlaceOf (lastInPlaceOf es old) := by
  by_cases hsame : e.localId.isSome ∧ old.localId = e.localId
  · rw [inPlaceOf, localId_lastInPlaceOf, if_pos hsame, lastInPlaceOf, List.reverse_concat,
      List.find?_cons_of_pos (by simpa using hsame)]
    rfl
  · rw [inPlaceOf, localId_lastInPlaceOf, if_neg hsame, lastInPlaceOf, List.reverse_concat,
      List.find?_cons_of_neg (by simpa using hsame)]
    rfl

/-- An endpoint does not count if a later one has its local id. -/
theorem lastInPlaceOf_cons_of_mem (hf : f ∈ es) (hid : f.localId = e.localId)
    (old : ServiceEndPoint) : lastInPlaceOf (e :: es) old = lastInPlaceOf es old := by
  unfold lastInPlaceOf
  rw [List.reverse_cons, List.find?_append]
  by_cases hsame : e.localId.isSome ∧ old.localId = e.localId
  · have hfound : (es.reverse.find? fun e => e.localId.isSome ∧ old.localId = e.localId).isSome :=
      List.find?_isSome.2 ⟨f, List.mem_reverse.2 hf, by simpa [hid] using hsame⟩
    rw [Option.or_of_isSome hfound]
  · rw [List.find?_cons_of_neg (by simpa using hsame), List.find?_nil, Option.or_none]

end ServiceEndPoint

namespace Service

variable {s : Service} {e f : ServiceEndPoint} {es : List ServiceEndPoint}

/-- After several replacements each endpoint is the last one of its local id. -/
theorem replaceAll_eq_mapEndpoints (s : Service) (es : List ServiceEndPoint) :
    s.replaceAll es = s.mapEndpoints (ServiceEndPoint.lastInPlaceOf es) := by
  induction es using List.reverseRecOn with
  | nil => exact mapEndpoints_self.symm
  | append_singleton es e ih =>
      rw [replaceAll, List.foldl_concat, ← replaceAll, ih, replaceEndpoint_eq_mapEndpoints,
        mapEndpoints_mapEndpoints]
      congr 1
      exact (funext (ServiceEndPoint.lastInPlaceOf_concat es e)).symm

/-- A replacement is lost under a later one of its local id. -/
theorem replaceAll_cons_of_mem (hf : f ∈ es) (hid : f.localId = e.localId) :
    s.replaceAll (e :: es) = s.replaceAll es := by
  rw [replaceAll_eq_mapEndpoints, replaceAll_eq_mapEndpoints]
  congr 1
  exact funext (ServiceEndPoint.lastInPlaceOf_cons_of_mem hf hid)

/-! ## The answer -/

theorem replaces_iff : s.replaces e = true ↔
    ∃ localId, e.localId = some localId ∧ ∃ old ∈ s.endpoints, old.localId = some localId := by
  cases h : e.localId <;> simp [replaces, h]

/-- Which local ids the service knows does not change, and so neither does the answer. -/
theorem replaces_replaceEndpoint (s : Service) (e f : ServiceEndPoint) :
    (s.replaceEndpoint e).replaces f = s.replaces f := by
  rw [Bool.eq_iff_iff, replaces_iff, replaces_iff]
  simp only [← List.mem_filterMap, localIds_replaceEndpoint]

theorem replaces_of_checkUpdate_ok (h : (s.checkUpdate e).toExcept = .ok ()) :
    s.replaces e = true := by
  obtain ⟨localId, existing, hlocal, hexisting, hid, -⟩ := of_checkUpdate_ok h
  exact replaces_iff.2 ⟨localId, hlocal, existing, hexisting, hid⟩

end Service

/-- The answer of a replacement tells whether the service has an endpoint to be replaced, which it
has if the change is accepted. The service becomes what gives way and what stays make of it, and
nothing changes without a local id. To replace again is to replace once; the later of two
replacements of one local id is the only one that counts, those of different local ids may come in
either order, and no answer depends on replacements before. -/
theorem replacement_laws (s : Service) (e f : ServiceEndPoint) :
    (s.replaces e = true ↔ ∃ localId, e.localId = some localId ∧
        ∃ old ∈ s.endpoints, old.localId = some localId) ∧
      ((s.checkUpdate e).toExcept = .ok () → s.replaces e = true) ∧
      (∀ s', s.Replaced e s' ↔ s' = s.replaceEndpoint e) ∧
      (e.localId = none → s.replaceEndpoint e = s) ∧
      (s.replaceEndpoint e).replaceEndpoint e = s.replaceEndpoint e ∧
      (e.localId = f.localId →
        (s.replaceEndpoint e).replaceEndpoint f = s.replaceEndpoint f) ∧
      (e.localId ≠ f.localId →
        (s.replaceEndpoint e).replaceEndpoint f = (s.replaceEndpoint f).replaceEndpoint e) ∧
      (s.replaceEndpoint e).replaces f = s.replaces f := by
  refine ⟨Service.replaces_iff, Service.replaces_of_checkUpdate_ok,
    fun s' => Service.replaced_iff, ?unnamed, ?twice, ?later, Service.replaceEndpoint_comm,
    s.replaces_replaceEndpoint e f⟩
  case unnamed =>
    intro hnone
    simp only [Service.replaceEndpoint, hnone]
  case twice =>
    show s.replaceAll [e, e] = s.replaceAll [e]
    exact Service.replaceAll_cons_of_mem List.mem_cons_self rfl
  case later =>
    intro hid
    show s.replaceAll [e, f] = s.replaceAll [f]
    exact Service.replaceAll_cons_of_mem List.mem_cons_self hid.symm

/-- Two endpoints of one local id, one of another and one of none, and a synthetic one. -/
def mixedService : Service where
  id := "s"
  serviceType := .multiPoint
  exclusive := false
  endpoints := [⟨some "a", "s1", .input, none⟩, ⟨some "a", "s2", .output, none⟩,
    ⟨some "b", "s3", .output, none⟩, .ofSip "s4"]
  connections := [⟨"s:n", "n", "d", [⟨some ⟨some "a", "s1", .input, none⟩, some ⟨"n", "p1"⟩⟩,
    ⟨none, some ⟨"n", "p2"⟩⟩, ⟨some (.ofSip "s4"), some ⟨"n", "p3"⟩⟩]⟩]
  createdAt := .epoch

/-- The first local id turned around, then turned off, and the second one turned around. -/
theorem mixedService_replaced :
    let turned : ServiceEndPoint := ⟨some "a", "s1", .output, none⟩
    let unsettled : ServiceEndPoint := ⟨some "a", "s1", .unknown, none⟩
    let other : ServiceEndPoint := ⟨some "b", "s3", .input, none⟩
    (mixedService.checkUpdate turned).toExcept = .ok () ∧ mixedService.replaces turned = true ∧
      (mixedService.replaceEndpoint turned).replaceEndpoint unsettled =
        mixedService.replaceEndpoint unsettled ∧
      (mixedService.replaceEndpoint turned).replaceEndpoint other =
        (mixedService.replaceEndpoint other).replaceEndpoint turned ∧
      mixedService.replaceEndpoint (.ofSip "s4") = mixedService := by
  intro turned unsettled other
  have hvalid : (mixedService.checkUpdate turned).toExcept = .ok () := by decide
  obtain ⟨-, hreplaces, -, -, -, hlater, -, -⟩ := replacement_laws mixedService turned unsettled
  obtain ⟨-, -, -, -, -, -, hcomm, -⟩ := replacement_laws mixedService turned other
  obtain ⟨-, -, -, hunnamed, -⟩ := replacement_laws mixedService (.ofSip "s4") turned
  exact ⟨hvalid, hreplaces hvalid, hlater rfl, hcomm (by decide), hunnamed rfl⟩

end Connectivity
