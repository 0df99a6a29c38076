import Connectivity.Proofs.Service.Consistency
import Connectivity.Proofs.Service.Validity

/-!
# The endpoint that a change addresses

A change names an endpoint by its local id and its sip. The check looks at the first endpoint of the
local id, while all of that local id are replaced. So a change leaves the other endpoints alone if
and only if the local id is that of one endpoint only.
-/
namespace Connectivity

/-- The endpoint has the local id and the sip of the other one. -/
def ServiceEndPoint.Addresses (e f : ServiceEndPoint) : Prop :=
  f.localId = e.localId ∧ f.sip = e.sip

instance (e f : ServiceEndPoint) : Decidable (e.Addresses f) :=
  inferInstanceAs (Decidable (_ ∧ _))

/-- The endpoint itself in the place of one that it addresses, and no change to any other. -/
def ServiceEndPoint.atAddress (e f : ServiceEndPoint) : ServiceEndPoint :=
  if e.Addresses f then e else f

/-- A change of the one endpoint that is addressed: it gives way where it stands in the list, and in
the connections too. All else is as it was. -/
structure Service.ChangedOnly (e : ServiceEndPoint) (old new : Service) : Prop where
  endpoint : ∃ before f after, old.endpoints = before ++ f :: after ∧ e.Addresses f ∧
    (∀ o ∈ before ++ after, ¬ e.Addresses o) ∧ new.endpoints = before ++ e :: after
  frame : new = old.mapEndpoints e.atAddress

namespace ServiceEndPoint

variable {e f : ServiceEndPoint}

theorem atAddress_of_addresses (h : e.Addresses f) : e.atAddress f = e := if_pos h

/-- Where every endpoint of the local id is addressed, those that give way are the same. -/
theorem inPlaceOf_eq_atAddress (hlocal : e.localId.isSome)
    (h : f.localId = e.localId → f.sip = e.sip) : e.inPlaceOf f = e.atAddress f := by
  by_cases hid : f.localId = e.localId
  · rw [inPlaceOf, if_pos ⟨hlocal, hid⟩, atAddress_of_addresses ⟨hid, h hid⟩]
  · rw [inPlaceOf_of_ne hid, atAddress, if_neg fun haddressed => hid haddressed.1]

/-- An endpoint that could give way and stays as it is, is addressed. -/
theorem addresses_of_inPlaceOf_eq (hlocal : e.localId.isSome) (hid : f.localId = e.localId)
    (h : e.inPlaceOf f = f) : e.Addresses f := by
  rw [inPlaceOf, if_pos ⟨hlocal, hid⟩] at h
  exact h ▸ ⟨rfl, rfl⟩

end ServiceEndPoint

namespace Service

variable {s : Service} {e : ServiceEndPoint}

theorem changedOnly_iff (hcallers : ∀ f, f ∈ s.callers ↔ f ∈ s.endpoints)
    (he : (s.checkUpdate e).toExcept = .ok ()) :
    s.ChangedOnly e (s.replaceEndpoint e) ↔
      s.endpoints.countP (fun f => f.localId = e.localId) = 1 := by
  obtain ⟨localId, existing, hlocal, hexisting, hid, hsip⟩ := of_checkUpdate_ok he
  have hisSome : e.localId.isSome := by rw [hlocal]; rfl
  have hone : ∀ {before f after}, s.endpoints = before ++ f :: after → f.localId = e.localId →
      (s.endpoints.countP (fun f => f.localId = e.localId) = 1 ↔
        ∀ o ∈ before ++ after, ¬ o.localId = e.localId) := by
    intro before f after hold hf
    rw [hold]
    exact countP_middle_eq_one_iff (P := fun o : ServiceEndPoint => o.localId = e.localId) hf
  constructor
  · intro h
    obtain ⟨before, f, after, hold, hf, hothers, hnew⟩ := h.endpoint
    rw [endpoints_replaceEndpoint, hold, List.map_append, List.map_cons] at hnew
    obtain ⟨hbefore, hrest⟩ := List.append_inj hnew (List.length_map _)
    have hstay : (before ++ after).map e.inPlaceOf = before ++ after := by
      rw [List.map_append, hbefore, (List.cons.inj hrest).2]
    refine (hone hold hf.1).2 fun o ho hsame => ?_
    refine hothers o ho (ServiceEndPoint.addresses_of_inPlaceOf_eq hisSome hsame ?_)
    exact List.map_inj_left.1 (hstay.trans (List.map_id _).symm) o ho
  · intro hcount
    obtain ⟨before, after, hold⟩ := List.append_of_mem hexisting
    have haddressed : e.Addresses existing := ⟨hid.trans hlocal.symm, hsip⟩
    replace hcount := (hone hold haddressed.1).1 hcount
    have hsame : ∀ f ∈ s.endpoints, e.inPlaceOf f = e.atAddress f := by
      intro f hf
      refine ServiceEndPoint.inPlaceOf_eq_atAddress hisSome fun hlocalId => ?_
      rw [hold, List.mem_append, List.mem_cons, or_left_comm, ← List.mem_append] at hf
      rcases hf with rfl | hf
      · exact hsip
      · exact absurd hlocalId (hcount f hf)
    constructor
    case endpoint =>
      have hstay : (before ++ after).map e.inPlaceOf = before ++ after := by
        refine (List.map_congr_left fun o ho => ?_).trans (List.map_id _)
        exact ServiceEndPoint.inPlaceOf_of_ne (hcount o ho)
      refine ⟨before, existing, after, hold, haddressed, fun o ho h => hcount o ho h.1, ?_⟩
      rw [List.map_append] at hstay
      obtain ⟨hbefore, hafter⟩ := List.append_inj hstay (List.length_map _)
      rw [endpoints_replaceEndpoint, hold, List.map_append, List.map_cons, hbefore, hafter,
        ServiceEndPoint.inPlaceOf_of_eq hlocal hid]
    case frame =>
      rw [replaceEndpoint_eq_mapEndpoints]
      exact mapEndpoints_congr hsame fun f hf => hsame f ((hcallers f).1 hf)

/-- The sips stay if those of the local id have the sip of the endpoint. -/
theorem sips_replaceEndpoint_iff (hlocal : e.localId.isSome) :
    (s.replaceEndpoint e).endpoints.map (·.sip) = s.endpoints.map (·.sip) ↔
      ∀ f ∈ s.endpoints, f.localId = e.localId → f.sip = e.sip := by
  rw [endpoints_replaceEndpoint, List.map_map, List.map_inj_left]
  refine forall₂_congr fun f _ => ?_
  by_cases hid : f.localId = e.localId
  · simp [ServiceEndPoint.inPlaceOf, hlocal, hid, eq_comm]
  · simp [ServiceEndPoint.inPlaceOf_of_ne hid, hid]

theorem countP_localId_eq_one (h : (s.endpoints.filterMap (·.localId)).Nodup)
    (he : (s.checkUpdate e).toExcept = .ok ()) :
    s.endpoints.countP (fun f => f.localId = e.localId) = 1 := by
  obtain ⟨localId, existing, hlocal, hexisting, hid, -⟩ := of_checkUpdate_ok he
  have hmem : localId ∈ s.endpoints.filterMap (·.localId) :=
    List.mem_filterMap.2 ⟨existing, hexisting, hid⟩
  have hone := List.count_eq_one_of_mem h hmem
  rw [List.count_filterMap] at hone
  refine (List.countP_congr fun f _ => ?_).trans hone
  simp [hlocal]

end Service

/-- If the step asks for a new service of that id, the local ids of its endpoints must differ. -/
def Step.ComparesLocalIds {ε : Type} (id : ServiceId) : Step ε → Prop
  | .command config _ (.create id' _ _) =>
      id' = id → config.validation.rejectDuplicateLocalIds = true
  | _ => True

section Update

variable {ε : Type} {config : Config} {registry : Registry ε} {steps : List (Step ε)}
  {store : Store} {id : ServiceId} {e : ServiceEndPoint} {updated : Service}

/-- Local ids that differ at the creation differ ever after. -/
theorem localIds_nodup_runAll (hempty : ∀ id, store.getService id = none)
    (h : ∀ step ∈ steps, step.ComparesLocalIds id) :
    ∀ s, (store.runAll steps).getService id = some s →
      (s.endpoints.filterMap (·.localId)).Nodup := by
  have hall : ∀ id' s, (store.runAll steps).getService id' = some s → id' = id →
      (s.endpoints.filterMap (·.localId)).Nodup := by
    refine Store.stored_runAll (P := fun id' s => id' = id →
        (s.endpoints.filterMap (·.localId)).Nodup) (R := fun step _ => step.ComparesLocalIds id)
      (Store.throughout_of_forall fun step hstep _ => h step hstep)
      (Store.filed_of_none hempty) (Store.forall_stored_of_none hempty) ?_ ?_
    · intro config registry store id' now r subs s hcompares hcreated heq
      rw [hcreated.record]
      exact (ValidationSettings.checkCreate_ok_iff.1 hcreated.valid).localIds (hcompares heq)
    · intro step store id' e old _ _ _ hold heq
      rw [Service.localIds_replaceEndpoint]
      exact hold heq
  exact fun s hs => hall id s hs rfl

/-- A change touches only the endpoint that it addresses, if and only if no other endpoint has the
local id; it leaves the sips as they are, if and only if those of the local id all have the sip.
Both are so where local ids were compared when the service was created. -/
theorem update_changes_only_addressed_iff (hsteps : Store.empty.runAll steps = store)
    (hupdate : (((Manager.new config registry).update id e).run store).1.result = .ok updated) :
    ∃ old, store.getService id = some old ∧
      (((Manager.new config registry).update id e).run store).2.getService id = some updated ∧
      (old.ChangedOnly e updated ↔
        old.endpoints.countP (fun f => f.localId = e.localId) = 1) ∧
      (updated.endpoints.map (·.sip) = old.endpoints.map (·.sip) ↔
        ∀ f ∈ old.endpoints, f.localId = e.localId → f.sip = e.sip) ∧
      ((∀ step ∈ steps, step.ComparesLocalIds id) → old.ChangedOnly e updated) := by
  obtain ⟨old, t, sub, hupdated⟩ := Manager.of_update_ok hupdate
  subst hsteps
  have hvalid := hupdated.valid
  have hcallers := (Store.consistent_runAll Store.getService_empty steps id old
    hupdated.stored).callers
  have hlocal : e.localId.isSome := by
    obtain ⟨localId, -, hlocal, -⟩ := Service.of_checkUpdate_ok hvalid
    rw [hlocal]
    rfl
  refine ⟨old, hupdated.stored, ?stored, ?changed, ?sips, ?compared⟩
  case stored =>
    exact hupdated.stored_after
      (Store.runAll_filed (Store.filed_of_none Store.getService_empty) steps)
  case changed =>
    rw [hupdated.record]
    exact Service.changedOnly_iff hcallers hvalid
  case sips =>
    rw [hupdated.record]
    exact Service.sips_replaceEndpoint_iff hlocal
  case compared =>
    intro hcompares
    have hdistinct := localIds_nodup_runAll Store.getService_empty hcompares old hupdated.stored
    rw [hupdated.record, Service.changedOnly_iff hcallers hvalid]
    exact Service.countP_localId_eq_one hdistinct hvalid

end Update

/-- A change of one endpoint of two that have local ids of their own. -/
theorem pair_update_changes_addressed :
    ∃ old updated, (Store.empty.runAll [.writeTopology (Sample.linkedPair .enabled),
        .command {} obliging (.create "s" .epoch pairRequest)]).getService "s" = some old ∧
      (((Manager.new {} obliging).update "s" (Sample.directedEndPoint "n1:1" .input)).run
        (Store.empty.runAll [.writeTopology (Sample.linkedPair .enabled),
          .command {} obliging (.create "s" .epoch pairRequest)])).1.result = .ok updated ∧
      old.ChangedOnly (Sample.directedEndPoint "n1:1" .input) updated := by
  have hsteps : Store.empty.runAll [.writeTopology (Sample.linkedPair .enabled),
      .command {} obliging (.create "s" .epoch pairRequest)] =
        (Store.ofTopology (Sample.linkedPair .enabled)).putService pairService :=
    Store.runAll_created pair_created []
  obtain ⟨updated, hupdated⟩ : ∃ s, (((Manager.new {} obliging).update "s"
      (Sample.directedEndPoint "n1:1" .input)).run ((Store.ofTopology
        (Sample.linkedPair .enabled)).putService pairService)).1.result = .ok s :=
    exists_of_isOk (by decide +kernel)
  obtain ⟨old, hold, -, -, -, hchanged⟩ := update_changes_only_addressed_iff hsteps hupdated
  rw [hsteps]
  exact ⟨old, updated, hold, hupdated, hchanged (by simp [Step.ComparesLocalIds])⟩

/-- Of two endpoints of one local id both are replaced, and none of the second sip is left. -/
theorem namesake_update_changes_both :
    ∃ old updated, ((Store.ofTopology (Sample.linkedPair .enabled)).runAll
        [.command lenient obliging (.create "s" .epoch namesakes)]).getService "s" = some old ∧
      (((Manager.new {} obliging).update "s" changedNamesake).run
        ((Store.ofTopology (Sample.linkedPair .enabled)).runAll
          [.command lenient obliging (.create "s" .epoch namesakes)])).1.result = .ok updated ∧
      old.endpoints.map (·.sip) = ["sip:n1:1", "sip:n2:1"] ∧
      updated.endpoints.map (·.sip) = ["sip:n1:1", "sip:n1:1"] ∧
      ¬ old.ChangedOnly changedNamesake updated := by
  have hupdated : (((Manager.new {} obliging).update "s" changedNamesake).run
      ((Store.ofTopology (Sample.linkedPair .enabled)).putService namesakesService)).1.result =
        .ok (namesakesService.replaceEndpoint changedNamesake) := by decide +kernel
  rw [Store.runAll_created namesakes_created]
  refine ⟨namesakesService, _, by rfl, hupdated, by decide, by decide, fun h => ?_⟩
  exact absurd h.frame (by decide)

end Connectivity
