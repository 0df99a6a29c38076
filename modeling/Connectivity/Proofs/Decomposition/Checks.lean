import Connectivity.Decomposition.Basic
import Connectivity.Proofs.Collections

/-!
# The checks of a request

Before any path is looked for, the sips of a request must be known, its directions must fit the edge
points they ask for, and no two different endpoints may name one sip.
-/
namespace Connectivity

namespace Decomposition

variable {g : Graph} {endpoints : List ServiceEndPoint}

/-- An endpoint asks for what its edge point can do. -/
def Fits (g : Graph) (e : ServiceEndPoint) (v : Vertex) : Prop :=
  g.vertexOfSip? e.sip = some v ∧ e.direction ≠ .unknown ∧ v.direction.accepts e.direction = true

/-- Some endpoint leaves its direction unknown, or asks for one that its edge point does not have,
or two different endpoints share a sip. -/
def Malformed (g : Graph) (endpoints : List ServiceEndPoint) : Prop :=
  (∃ e ∈ endpoints, e.direction = .unknown) ∨
    (∃ e ∈ endpoints, ∃ v, g.vertexOfSip? e.sip = some v ∧
      v.direction.accepts e.direction = false) ∨
    ∃ e ∈ endpoints, ∃ f ∈ endpoints, e ≠ f ∧ e.sip = f.sip

theorem mem_missingSips {sip : SipId} :
    sip ∈ missingSips g endpoints ↔
      ∃ e ∈ endpoints, e.sip = sip ∧ g.vertexOfSip? sip = none := by
  rw [missingSips, Std.TreeSet.mem_toList, mem_foldl_insert,
    or_iff_right Std.TreeSet.not_mem_emptyc, List.mem_filter, List.mem_map,
    Option.isNone_iff_eq_none]
  constructor
  · rintro ⟨⟨e, he, rfl⟩, hnone⟩
    exact ⟨e, he, rfl, hnone⟩
  · rintro ⟨e, he, rfl, hnone⟩
    exact ⟨⟨e, he, rfl⟩, hnone⟩

theorem missingSips_ascending (g : Graph) (endpoints : List ServiceEndPoint) :
    (missingSips g endpoints).Pairwise (· < ·) := toList_ascending _

theorem missingSips_eq_nil_iff :
    missingSips g endpoints = [] ↔ ∀ e ∈ endpoints, ∃ v, g.vertexOfSip? e.sip = some v := by
  rw [List.eq_nil_iff_forall_not_mem]
  constructor
  · intro h e he
    refine Option.ne_none_iff_exists'.1 fun hnone => h e.sip ?_
    exact mem_missingSips.2 ⟨e, he, rfl, hnone⟩
  · intro h sip hsip
    obtain ⟨e, he, rfl, hnone⟩ := mem_missingSips.1 hsip
    obtain ⟨v, hv⟩ := h e he
    rw [hnone] at hv
    exact nomatch hv

/-- An endpoint with a known sip is resolved if it fits, and is at fault otherwise. -/
theorem resolve_cases {e : ServiceEndPoint} {v : Vertex} (hv : g.vertexOfSip? e.sip = some v) :
    (Fits g e v ∧ resolve g e = .ok ⟨v, e.direction⟩) ∨
      ((e.direction = .unknown ∨ v.direction.accepts e.direction = false) ∧
        ∃ message, resolve g e = .error (.illegalArgument message)) := by
  simp only [resolve, hv]
  by_cases hunknown : e.direction = .unknown
  · exact .inr ⟨.inl hunknown, _, if_pos hunknown⟩
  · rw [if_neg hunknown]
    by_cases haccepts : v.direction.accepts e.direction = true
    · exact .inl ⟨⟨hv, hunknown, haccepts⟩, if_pos haccepts⟩
    · exact .inr ⟨.inr (Bool.not_eq_true _ ▸ haccepts), _, if_neg haccepts⟩

theorem resolve_eq_ok_iff {e : ServiceEndPoint} {r : ResolvedEndPoint} :
    resolve g e = .ok r ↔ Fits g e r.vertex ∧ r.requested = e.direction := by
  cases hv : g.vertexOfSip? e.sip with
  | none => simp [resolve, Fits, hv]
  | some v =>
      rcases resolve_cases hv with ⟨hfits, hok⟩ | ⟨hfault, message, herror⟩
      · rw [hok]
        constructor
        · rintro ⟨⟩
          exact ⟨hfits, rfl⟩
        · rintro ⟨⟨hw, -⟩, hdirection⟩
          cases r
          cases hv.symm.trans hw
          exact congrArg _ (congrArg _ hdirection.symm)
      · rw [herror]
        refine ⟨nofun, ?_⟩
        rintro ⟨⟨hw, hknown, haccepts⟩, -⟩
        cases hv.symm.trans hw
        rcases hfault with hunknown | hrefused
        · exact absurd hunknown hknown
        · rw [hrefused] at haccepts
          exact nomatch haccepts

theorem sharedSip?_eq_none_iff (before : List ServiceEndPoint) :
    sharedSip? before endpoints = none ↔
      (∀ o ∈ before, ∀ e ∈ endpoints, o.sip = e.sip → o = e) ∧
        endpoints.Pairwise fun o e => o.sip = e.sip → o = e := by
  induction endpoints generalizing before with
  | nil => simp [sharedSip?]
  | cons e rest ih =>
      have hany : (before.any fun o => o.sip = e.sip && o ≠ e) = true ↔
          ¬ ∀ o ∈ before, o.sip = e.sip → o = e := by
        simp [List.any_eq_true]
      simp only [sharedSip?]
      split
      case isTrue h =>
        have hnot := hany.1 h
        simp only [reduceCtorEq, List.forall_mem_cons, false_iff]
        exact fun hall => hnot fun o ho => (hall.1 o ho).1
      case isFalse h =>
        have hall := not_not.1 (mt hany.2 h)
        rw [ih, List.pairwise_cons]
        simp only [List.forall_mem_append, List.forall_mem_cons, List.not_mem_nil, false_implies,
          implies_true, and_true]
        constructor
        · rintro ⟨⟨hbefore, he⟩, hrest⟩
          exact ⟨fun o ho => ⟨hall o ho, hbefore o ho⟩, he, hrest⟩
        · rintro ⟨hbefore, he, hrest⟩
          exact ⟨⟨fun o ho => (hbefore o ho).2, he⟩, hrest⟩

/-- No sip is shared if endpoints with one sip are equal. -/
theorem sharedSip?_nil_eq_none_iff :
    sharedSip? [] endpoints = none ↔
      ∀ e ∈ endpoints, ∀ f ∈ endpoints, e.sip = f.sip → e = f := by
  rw [sharedSip?_eq_none_iff]
  constructor
  · rintro ⟨-, hpairs⟩ e he f hf
    exact hpairs.forall_of_forall_of_flip (fun _ _ _ => rfl)
      (hpairs.imp fun h heq => (h heq.symm).symm) he hf
  · intro h
    exact ⟨nofun, List.pairwise_of_forall_mem_list fun e he f hf => h e he f hf⟩

end Decomposition

end Connectivity
