import Connectivity.Proofs.Service.Run

/-!
# The history of a service

What happens to services in the course of a run. A stored service was written by a step that created
it or changed it. Once it is stored it stays, and only an endpoint of it is replaced, until a step
deletes it.
-/
namespace Connectivity

namespace Step

variable {ε : Type}

/-- The step carries out a command, and it succeeds. -/
def CarriesOut (step : Step ε) (c : Command) (store : Store) : Prop :=
  ∃ config registry s, step = command config registry c ∧
    (((Manager.new config registry).perform c).run store).1.result = .ok s

variable {step : Step ε} {store : Store}

theorem not_carriesOut_of_error {config : Config} {registry : Registry ε} {c : Command}
    (h : (((Manager.new config registry).perform c).run store).1.result.isOk = false)
    (c' : Command) : ¬ (command config registry c).CarriesOut c' store := by
  rintro ⟨_, _, s, heq, hs⟩
  cases heq
  rw [hs] at h
  exact nomatch h

/-- A change that is carried out puts the endpoint into the service that is stored. -/
theorem CarriesOut.replaces (hfiled : store.Filed) {id : ServiceId} {e : ServiceEndPoint}
    (h : step.CarriesOut (.updateEndpoint id e) store) :
    ∃ old, store.getService id = some old ∧ (old.checkUpdate e).toExcept = .ok () ∧
      (step.after store).getService id = some (old.replaceEndpoint e) := by
  obtain ⟨config, registry, s, rfl, hs⟩ := h
  obtain ⟨old, t, sub, hupdated⟩ := Manager.of_update_ok hs
  refine ⟨old, hupdated.stored, hupdated.valid, ?_⟩
  rw [← hupdated.record]
  exact hupdated.stored_after hfiled

/-- What holds of services when they are created, and what their changes keep, holds of all that are
stored. -/
theorem stored_after {P : ServiceId → Service → Prop} (hfiled : store.Filed)
    (hP : ∀ id s, store.getService id = some s → P id s)
    (hcreate : ∀ config registry id now r subs s,
      step = command config registry (.create id now r) →
      Manager.Created (.new config registry) store id now r subs s → P id s)
    (hchange : ∀ id e old, step.CarriesOut (.updateEndpoint id e) store →
      (old.checkUpdate e).toExcept = .ok () → P id old → P id (old.replaceEndpoint e)) :
    ∀ id s, (step.after store).getService id = some s → P id s := by
  intro id s hs
  cases step with
  | writeTopology t => exact hP id s hs
  | command config registry c =>
      have heffect := Manager.perform_effect (.new config registry) c store
      rcases heffect.service_cases hfiled hs with
        hold | ⟨now, r, subs, rfl, hcreated⟩ | ⟨e, old, t, sub, rfl, hupdated⟩
      · exact hP id s hold
      · exact hcreate config registry id now r subs s rfl hcreated
      · rw [hupdated.record]
        refine hchange id e old ⟨config, registry, s, rfl, hupdated.result⟩ hupdated.valid ?_
        exact hP id old hupdated.stored

/-- A service that is stored stays, as it is or with an endpoint replaced, unless it is deleted or
another one is created in its place. -/
theorem service_kept (hfiled : store.Filed) {id : ServiceId} {s : Service}
    (hs : store.getService id = some s) (hcreate : ¬ step.Creates id)
    (hdelete : ¬ step.CarriesOut (.delete id) store) :
    (step.after store).getService id = some s ∨
      ∃ e, step.CarriesOut (.updateEndpoint id e) store ∧ (s.checkUpdate e).toExcept = .ok () ∧
        (step.after store).getService id = some (s.replaceEndpoint e) := by
  cases step with
  | writeTopology t => exact .inl hs
  | command config registry c =>
      have heffect := Manager.perform_effect (.new config registry) c store
      simp only [after]
      generalize (((Manager.new config registry).perform c).run store).2 = later at heffect ⊢
      cases heffect with
      | nothing => exact .inl hs
      | created hcreated =>
          have hid := congrArg Service.id hcreated.record
          rw [Store.getService_putService, hid]
          exact .inl ((if_neg hcreate).trans hs)
      | @updated id' e old s' t sub hupdated =>
          have hid := congrArg Service.id hupdated.record
          rw [Service.id_replaceEndpoint, hfiled id' old hupdated.stored] at hid
          rw [Store.getService_putService, hid]
          by_cases heq : id' = id
          · subst heq
            cases Option.some.inj (hs.symm.trans hupdated.stored)
            refine .inr ⟨e, ⟨config, registry, s', rfl, hupdated.result⟩, hupdated.valid, ?_⟩
            rw [if_pos rfl, hupdated.record]
          · exact .inl ((if_neg heq).trans hs)
      | @removed id' s' hremoved =>
          have hne : s'.id ≠ id := by
            rw [hfiled id' s' hremoved.stored]
            rintro rfl
            exact hdelete ⟨config, registry, s', rfl, hremoved.result⟩
          rw [Store.getService_removeService]
          exact .inl ((if_neg hne).trans hs)

end Step

namespace Store

variable {ε : Type}

/-- The property holds of every step of a run and the store that it comes to. -/
def Throughout (P : Step ε → Store → Prop) : List (Step ε) → Store → Prop
  | [], _ => True
  | step :: rest, store => P step store ∧ Throughout P rest (step.after store)

variable {P P' : Step ε → Store → Prop} {Q : Store → Prop} {steps : List (Step ε)} {store : Store}

theorem throughout_of_forall (h : ∀ step ∈ steps, ∀ store, P step store) :
    Throughout P steps store := by
  induction steps generalizing store with
  | nil => trivial
  | cons step rest ih =>
      obtain ⟨hstep, hrest⟩ := List.forall_mem_cons.1 h
      exact ⟨hstep store, ih hrest⟩

theorem Throughout.and (h : Throughout P steps store) (h' : Throughout P' steps store) :
    Throughout (fun step store => P step store ∧ P' step store) steps store := by
  induction steps generalizing store with
  | nil => trivial
  | cons step rest ih => exact ⟨⟨h.1, h'.1⟩, ih h.2 h'.2⟩

/-- What steps of a kind keep, a run of such steps keeps. -/
theorem Throughout.runAll (h : Throughout P steps store) (hQ : Q store)
    (hstep : ∀ step store, P step store → Q store → Q (step.after store)) :
    Q (store.runAll steps) := by
  induction steps generalizing store with
  | nil => exact hQ
  | cons step rest ih => exact ih h.2 (hstep step store h.1 hQ)

/-- What every step keeps holds throughout. -/
theorem throughout_of_kept (hQ : Q store)
    (hkept : ∀ step ∈ steps, ∀ store, Q store → Q (step.after store)) :
    Throughout (fun _ store => Q store) steps store := by
  induction steps generalizing store with
  | nil => trivial
  | cons step rest ih =>
      obtain ⟨hstep, hrest⟩ := List.forall_mem_cons.1 hkept
      exact ⟨hQ, ih (hstep store hQ) hrest⟩

/-- If a step keeps a property when it is of some kind and only then, the property holds of all
stores of a run when all its steps are of that kind and only then. -/
theorem forall_prefix_iff_throughout {I : Store → Prop} (hI : I store) (hQ : Q store)
    (hkept : ∀ step ∈ steps, ∀ store, I store → I (step.after store))
    (hstep : ∀ step ∈ steps, ∀ store, I store → Q store → (Q (step.after store) ↔ P step store)) :
    (∀ before, before <+: steps → Q (store.runAll before)) ↔ Throughout P steps store := by
  induction steps generalizing store with
  | nil =>
      simp only [List.prefix_nil, Throughout, iff_true]
      rintro _ rfl
      exact hQ
  | cons step rest ih =>
      obtain ⟨hkeptFirst, hkeptRest⟩ := List.forall_mem_cons.1 hkept
      obtain ⟨hfirst, hrest⟩ := List.forall_mem_cons.1 hstep
      have hI' := hkeptFirst store hI
      constructor
      · intro h
        have hQ' : Q (step.after store) := h [step] (List.prefix_append [step] rest)
        refine ⟨(hfirst store hI hQ).1 hQ', (ih hI' hQ' hkeptRest hrest).1 fun before hbefore => ?_⟩
        exact h (step :: before) (List.cons_prefix_cons.2 ⟨rfl, hbefore⟩)
      · rintro ⟨hP, hthroughout⟩ before hbefore
        rcases List.prefix_cons_iff.1 hbefore with rfl | ⟨others, rfl, hothers⟩
        · exact hQ
        · have hQ' := (hfirst store hI hQ).2 hP
          exact (ih hI' hQ' hkeptRest hrest).2 hthroughout others hothers

/-- What holds of services when they are created, and what their changes keep, holds of all that are
stored after a run. -/
theorem stored_runAll {P : ServiceId → Service → Prop} {R : Step ε → Store → Prop}
    (h : Throughout R steps store) (hfiled : store.Filed)
    (hP : ∀ id s, store.getService id = some s → P id s)
    (hcreate : ∀ config registry store id now r subs s,
      R (.command config registry (.create id now r)) store →
      Manager.Created (.new config registry) store id now r subs s → P id s)
    (hchange : ∀ step store id e old, R step store → step.CarriesOut (.updateEndpoint id e) store →
      (old.checkUpdate e).toExcept = .ok () → P id old → P id (old.replaceEndpoint e)) :
    ∀ id s, (store.runAll steps).getService id = some s → P id s := by
  have hboth : (store.runAll steps).Filed ∧
      ∀ id s, (store.runAll steps).getService id = some s → P id s := by
    refine h.runAll (Q := fun store => store.Filed ∧ ∀ id s, store.getService id = some s → P id s)
      ⟨hfiled, hP⟩ ?_
    rintro step store hR ⟨hfiled, hP⟩
    refine ⟨Step.filed_after hfiled, Step.stored_after hfiled hP ?_ ?_⟩
    · rintro config registry id now r subs s rfl hcreated
      exact hcreate config registry store id now r subs s hR hcreated
    · intro id e old hcarried hvalid hold
      exact hchange step store id e old hR hcarried hvalid hold
  exact hboth.2

/-- What all changes of its endpoints keep of a service holds of it as long as it is stored. -/
theorem service_runAll {P : Service → Prop} {id : ServiceId} (hfiled : store.Filed)
    (h : ∀ step ∈ steps, ¬ step.Creates id)
    (hchange : ∀ old e, (old.checkUpdate e).toExcept = .ok () → P old → P (old.replaceEndpoint e))
    (hP : ∀ s, store.getService id = some s → P s) :
    ∀ s, (store.runAll steps).getService id = some s → P s := by
  have hall : ∀ id' s, (store.runAll steps).getService id' = some s → id' = id → P s := by
    refine stored_runAll (P := fun id' s => id' = id → P s) (R := fun step _ => ¬ step.Creates id)
      (throughout_of_forall fun step hstep _ => h step hstep) hfiled ?_ ?_ ?_
    · rintro id' s hs rfl
      exact hP s hs
    · intro config registry store id' now r subs s hcreates _ heq
      exact absurd heq hcreates
    · intro step store id' e old _ _ hvalid hold heq
      exact hchange old e hvalid (hold heq)
  exact fun s hs => hall id s hs rfl

/-- What the changes of a service keep holds of it for as long as it is not deleted. -/
theorem kept_runAll {R : Step ε → Store → Prop} {P : Service → Prop} {id : ServiceId} {s : Service}
    (hkept : Throughout (fun step store => ¬ step.Creates id ∧ ¬ step.CarriesOut (.delete id) store)
      steps store) (h : Throughout R steps store)
    (hfiled : store.Filed) (hs : store.getService id = some s) (hP : P s)
    (hchange : ∀ step store e old, R step store → step.CarriesOut (.updateEndpoint id e) store →
      P old → P (old.replaceEndpoint e)) :
    ∃ s, (store.runAll steps).getService id = some s ∧ P s := by
  have hboth : (store.runAll steps).Filed ∧
      ∃ s, (store.runAll steps).getService id = some s ∧ P s := by
    refine (hkept.and h).runAll
      (Q := fun store => store.Filed ∧ ∃ s, store.getService id = some s ∧ P s)
      ⟨hfiled, s, hs, hP⟩ ?_
    rintro step store ⟨⟨hcreate, hdelete⟩, hR⟩ ⟨hfiled, old, hold, hP⟩
    refine ⟨Step.filed_after hfiled, ?_⟩
    rcases Step.service_kept hfiled hold hcreate hdelete with hsame | ⟨e, hcarried, -, hnew⟩
    · exact ⟨old, hsame, hP⟩
    · exact ⟨_, hnew, hchange step store e old hR hcarried hP⟩
  exact hboth.2

end Store

end Connectivity
