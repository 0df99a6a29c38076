import Connectivity.Service.Validation
import Mathlib.Data.List.Nodup

/-!
# Valid requests

The check of a request for a new service passes if there are enough endpoints, no two of one sip,
and no two of one local id where local ids must differ.
-/
namespace Connectivity

section Repetition

variable {α : Type} [DecidableEq α]

theorem firstRepeated?_eq_none_iff (before xs : List α) :
    firstRepeated? before xs = none ↔ xs.Nodup ∧ ∀ x ∈ xs, x ∉ before := by
  induction xs generalizing before with
  | nil => simp [firstRepeated?]
  | cons x xs ih =>
      simp only [firstRepeated?]
      split
      case isTrue hx =>
        simp only [reduceCtorEq, false_iff]
        exact fun h => h.2 x List.mem_cons_self hx
      case isFalse hx =>
        rw [ih, List.nodup_cons, List.forall_mem_cons]
        constructor
        · rintro ⟨hnodup, hnew⟩
          refine ⟨⟨fun hmem => hnew x hmem (by simp), hnodup⟩, hx, fun y hy hbefore => ?_⟩
          exact hnew y hy (List.mem_append_left [x] hbefore)
        · rintro ⟨⟨hmem, hnodup⟩, -, hnew⟩
          refine ⟨hnodup, fun y hy happend => ?_⟩
          rcases List.mem_append.1 happend with hbefore | hsame
          · exact hnew y hy hbefore
          · exact hmem (List.mem_singleton.1 hsame ▸ hy)

theorem firstRepeated?_nil_eq_none_iff (xs : List α) : firstRepeated? [] xs = none ↔ xs.Nodup := by
  simp [firstRepeated?_eq_none_iff]

end Repetition

namespace Validation

variable {v : Validation}

theorem toExcept_eq_ok_iff : v.toExcept = .ok () ↔ v.problems = [] := by
  simp [toExcept, isValid]

@[simp] theorem problems_problem (message : String) : (v.problem message).problems ≠ [] := by
  simp [problem]

@[simp] theorem problems_problemIf (condition : Bool) (message : String) :
    (v.problemIf condition message).problems = [] ↔ condition = false ∧ v.problems = [] := by
  cases condition <;> simp [problemIf]

end Validation

/-- What a request for a new service must be like. -/
structure ValidationSettings.Accepts (settings : ValidationSettings) (r : CreateRequest) :
    Prop where
  nonempty : r.endpoints ≠ []
  enough : settings.minEndpoints ≤ r.endpoints.length
  localIds : settings.rejectDuplicateLocalIds = true → (r.endpoints.filterMap (·.localId)).Nodup
  sips : (r.endpoints.map (·.sip)).Nodup

namespace ValidationSettings

variable {settings : ValidationSettings} {r : CreateRequest}

theorem checkCreate_ok_iff : (settings.checkCreate r).toExcept = .ok () ↔ settings.Accepts r := by
  have hids := firstRepeated?_nil_eq_none_iff (r.endpoints.filterMap (·.localId))
  have hsips := firstRepeated?_nil_eq_none_iff (r.endpoints.map (·.sip))
  rw [Validation.toExcept_eq_ok_iff, checkCreate]
  by_cases hempty : r.endpoints = []
  · rw [if_pos (List.isEmpty_iff.2 hempty)]
    exact iff_of_false (Validation.problems_problem _) fun h => h.nonempty hempty
  rw [if_neg (mt List.isEmpty_iff.1 hempty)]
  cases hsip : firstRepeated? [] (r.endpoints.map (·.sip)) with
  | some sip =>
      refine iff_of_false (Validation.problems_problem _) fun h => ?_
      rw [hsips.2 h.sips] at hsip
      exact nomatch hsip
  | none =>
      -- without a repeated sip, the problems are those of the count and of the local ids
      have haccepts : settings.Accepts r ↔ settings.minEndpoints ≤ r.endpoints.length ∧
          (settings.rejectDuplicateLocalIds = true →
            (r.endpoints.filterMap (·.localId)).Nodup) :=
        ⟨fun h => ⟨h.enough, h.localIds⟩, fun h => ⟨hempty, h.1, h.2, hsips.1 hsip⟩⟩
      rw [haccepts, ← hids]
      by_cases hreject : settings.rejectDuplicateLocalIds = true
      · cases hid : firstRepeated? [] (r.endpoints.filterMap (·.localId)) with
        | some id => simp [hreject]
        | none => simp [hreject, Validation.clean]
      · simp [hreject, Validation.clean]

end ValidationSettings

end Connectivity
