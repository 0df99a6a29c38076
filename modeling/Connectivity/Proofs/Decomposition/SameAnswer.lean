import Connectivity.Proofs.Decomposition.Outcome

/-!
# Requests that are answered alike

A request is answered by what is wrong with it, or else by whether its pairs are connected. So two
requests for which this is the same have answers of one kind, be it in two graphs: both have a
decomposition, or both have none, or both fail for the same cause.
-/
namespace Connectivity

/-- Errors that come of one cause, whatever they tell of it. -/
def Error.SameCause (e f : Error) : Prop := e.ctorIdx = f.ctorIdx

/-- Answers of one kind. Where both are decompositions these are related. -/
inductive AnsweredAlike (R : List SubRequest → List SubRequest → Prop) :
    Except Error (Option (List SubRequest)) → Except Error (Option (List SubRequest)) → Prop where
  | decomposed {subs subs' : List SubRequest} (related : R subs subs') :
      AnsweredAlike R (.ok (some subs)) (.ok (some subs'))
  | disconnected : AnsweredAlike R (.ok none) (.ok none)
  | refused {e f : Error} (cause : e.SameCause f) : AnsweredAlike R (.error e) (.error f)

theorem AnsweredAlike.of_some {R : List SubRequest → List SubRequest → Prop}
    {subs : List SubRequest} {answer : Except Error (Option (List SubRequest))}
    (h : AnsweredAlike R (.ok (some subs)) answer) :
    ∃ subs', answer = .ok (some subs') ∧ R subs subs' := by
  cases h with
  | decomposed related => exact ⟨_, rfl, related⟩

namespace Decomposition

variable {g h : Graph} {es fs : List ServiceEndPoint}
  {answer answer' : Except Error (Option (List SubRequest))}

namespace Answered

/-- An admissible request that is not connected has no decomposition. -/
theorem eq_none_of_admissible (ha : Answered g es answer) (hadmissible : Admissible g es)
    (hnot : ¬ Connected g es) : answer = .ok none := by
  have hknown : ∀ e ∈ es, g.vertexOfSip? e.sip ≠ none := fun e he =>
    Option.ne_none_iff_exists'.2 (hadmissible.known e he)
  refine (ha.ok_iff hknown hadmissible.not_malformed).1.2 ?_
  by_contra hall
  obtain ⟨hpaired, hreaches⟩ := not_or.1 hall
  refine hnot ⟨hadmissible, not_not.1 hpaired, fun v w hpair => ?_⟩
  by_contra hreach
  exact hreaches ⟨v, w, hpair, hreach⟩

/-- Requests are answered alike if both name unknown sips or neither does, if both are malformed or
neither is, and if both are connected or neither is. -/
theorem alike (ha : Answered g es answer) (ha' : Answered h fs answer')
    (hunknown : (∃ e ∈ es, g.vertexOfSip? e.sip = none) ↔ ∃ f ∈ fs, h.vertexOfSip? f.sip = none)
    (hmalformed : Malformed g es ↔ Malformed h fs) (hconnected : Connected g es ↔ Connected h fs)
    {R : List SubRequest → List SubRequest → Prop}
    (hrelated : Connected g es → ∀ vs ws, (∀ u, u ∈ vs ↔ OnPath g es u) →
      (∀ u, u ∈ ws ↔ OnPath h fs u) → R (subRequests es vs) (subRequests fs ws)) :
    AnsweredAlike R answer answer' := by
  by_cases hu : ∃ e ∈ es, g.vertexOfSip? e.sip = none
  · obtain ⟨message, rfl⟩ := ha.failureResult_iff.2 hu
    obtain ⟨message', rfl⟩ := ha'.failureResult_iff.2 (hunknown.1 hu)
    exact .refused rfl
  have hknown : ∀ e ∈ es, g.vertexOfSip? e.sip ≠ none := fun e he hnone => hu ⟨e, he, hnone⟩
  have hknown' : ∀ f ∈ fs, h.vertexOfSip? f.sip ≠ none := fun f hf hnone =>
    hu (hunknown.2 ⟨f, hf, hnone⟩)
  rcases malformed_or_admissible fun e he => Option.ne_none_iff_exists'.1 (hknown e he) with
    hm | hadmissible
  · obtain ⟨message, rfl⟩ := (ha.illegalArgument_iff hknown).2 hm
    obtain ⟨message', rfl⟩ := (ha'.illegalArgument_iff hknown').2 (hmalformed.1 hm)
    exact .refused rfl
  by_cases hc : Connected g es
  · obtain ⟨subs, rfl⟩ := ha.exists_subs_of_connected hc
    obtain ⟨subs', rfl⟩ := ha'.exists_subs_of_connected (hconnected.1 hc)
    obtain ⟨-, vs, hvs, rfl⟩ := ha.connected_of_some
    obtain ⟨-, ws, hws, rfl⟩ := ha'.connected_of_some
    exact .decomposed (hrelated hc vs ws hvs hws)
  · have hadmissible' : Admissible h fs :=
      (malformed_or_admissible fun f hf => Option.ne_none_iff_exists'.1 (hknown' f hf)).resolve_left
        fun hm => hadmissible.not_malformed (hmalformed.2 hm)
    rw [ha.eq_none_of_admissible hadmissible hc,
      ha'.eq_none_of_admissible hadmissible' (mt hconnected.2 hc)]
    exact .disconnected

end Answered

end Decomposition

end Connectivity
