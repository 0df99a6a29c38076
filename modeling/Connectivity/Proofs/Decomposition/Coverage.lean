import Connectivity.Decomposition.Coverage
import Connectivity.Proofs.Collections
import Connectivity.Topology.Sample
import Mathlib.Data.List.Induction
import Mathlib.Data.List.Nodup

/-!
# What the coverage check accepts

The check counts the sips of the callers' endpoints in a table that has the requested sips from the
beginning, and it wants every count to be one. Of a sip that was not requested it only sees that it
is in the table: found twice it is reported, but found once it passes for a requested one.
-/
namespace Connectivity

/-- The sips of the callers' endpoints of some sub-requests, as often as they occur. -/
def foundSips (result : List SubRequest) : List SipId :=
  result.flatMap fun s => s.serviceEndpoints.filterMap EndPoint.sip?

/-- No sub-request is without endpoints, and the sips found are the requested ones, each once. -/
structure Covers (requested : List ServiceEndPoint) (result : List SubRequest) : Prop where
  nonempty : ∀ s ∈ result, s.endpoints ≠ []
  once : (foundSips result).Nodup
  same : ∀ sip, sip ∈ foundSips result ↔ ∃ e ∈ requested, e.sip = sip

namespace Coverage

/-- The table has every sip that was requested or found, with the number of times it was found. -/
def Tallies (requested : List ServiceEndPoint) (found : List SipId) (counts : Counts) : Prop :=
  ∀ (sip : SipId) (n : Nat), counts[sip]? = some n ↔
    ((∃ e ∈ requested, e.sip = sip) ∨ sip ∈ found) ∧ n = found.count sip

variable {requested : List ServiceEndPoint} {found : List SipId} {counts : Counts}

theorem tallies_empty : Tallies [] [] ∅ := by
  intro sip n
  simp

/-- As long as nothing is found all counts are zero. -/
theorem Tallies.request (h : Tallies requested [] counts) (e : ServiceEndPoint) :
    Tallies (requested ++ [e]) [] (counts.insert e.sip 0) := by
  intro sip n
  rw [getElem?_insert]
  by_cases hsip : e.sip = sip
  · simp [hsip, eq_comm]
  · rw [if_neg hsip, h sip n]
    simp [hsip]

theorem tallies_start (requested : List ServiceEndPoint) :
    Tallies requested [] (start requested) := by
  induction requested using List.reverseRecOn with
  | nil => exact tallies_empty
  | append_singleton requested e ih =>
      rw [start, List.foldl_append]
      exact ih.request e

theorem Tallies.getD (h : Tallies requested found counts) (sip : SipId) :
    counts.getD sip 0 = found.count sip := by
  rw [Std.TreeMap.getD_eq_getD_getElem?]
  cases hn : counts[sip]? with
  | some n => exact ((h sip n).1 hn).2
  | none =>
      have hnot : sip ∉ found := by
        intro hmem
        rw [(h sip (found.count sip)).2 ⟨.inr hmem, rfl⟩] at hn
        exact nomatch hn
      rw [List.count_eq_zero_of_not_mem hnot, Option.getD_none]

/-- The table after a sip is found. -/
def addFound (counts : Counts) (sip : SipId) : Counts :=
  counts.insert sip (counts.getD sip 0 + 1)

/-- A sip that is found is counted, whether it was requested or not. -/
theorem Tallies.addFound (h : Tallies requested found counts) (sip : SipId) :
    Tallies requested (found ++ [sip]) (addFound counts sip) := by
  intro other n
  rw [Coverage.addFound, getElem?_insert, h.getD, List.count_append]
  by_cases hsip : sip = other
  · simp [hsip, eq_comm]
  · rw [if_neg hsip, h other n, List.count_singleton]
    simp [hsip, Ne.symm hsip]

theorem Tallies.foldl_addFound (h : Tallies requested found counts) (sips : List SipId) :
    Tallies requested (found ++ sips) (sips.foldl Coverage.addFound counts) := by
  induction sips generalizing found counts with
  | nil => rwa [List.append_nil]
  | cons sip sips ih =>
      have hrest := ih (h.addFound sip)
      rwa [List.append_assoc, List.singleton_append] at hrest

theorem countIn_of_nonempty {s : SubRequest} (h : s.endpoints ≠ []) (counts : Counts) :
    countIn counts s =
      .ok ((s.serviceEndpoints.filterMap EndPoint.sip?).foldl addFound counts) := by
  rw [countIn, if_neg (mt List.isEmpty_iff.1 h)]
  rfl

theorem countIn_of_empty {s : SubRequest} (h : s.endpoints = []) (counts : Counts) :
    countIn counts s = .error (.emptySubRequest s.nodeId) := by
  rw [countIn, if_pos (List.isEmpty_iff.2 h)]

/-- All sub-requests are counted if each has endpoints. -/
theorem Tallies.foldlM_countIn (h : Tallies requested found counts) {result : List SubRequest}
    (hne : ∀ s ∈ result, s.endpoints ≠ []) :
    ∃ after, result.foldlM countIn counts = .ok after ∧
      Tallies requested (found ++ foundSips result) after := by
  induction result generalizing found counts with
  | nil => exact ⟨counts, rfl, by rwa [foundSips, List.flatMap_nil, List.append_nil]⟩
  | cons s result ih =>
      obtain ⟨hs, hne⟩ := List.forall_mem_cons.1 hne
      obtain ⟨after, hafter, htallies⟩ :=
        ih (h.foldl_addFound (s.serviceEndpoints.filterMap EndPoint.sip?)) hne
      refine ⟨after, ?_, ?_⟩
      · rw [List.foldlM_cons, countIn_of_nonempty hs]
        exact hafter
      · rwa [List.append_assoc] at htallies

/-- The count ends at the first sub-request without endpoints, whatever was found before. -/
theorem foldlM_countIn_of_empty {result : List SubRequest} (h : ∃ s ∈ result, s.endpoints = [])
    (counts : Counts) :
    ∃ node, result.foldlM countIn counts = .error (.emptySubRequest node) := by
  induction result generalizing counts with
  | nil =>
      obtain ⟨s, hs, -⟩ := h
      exact nomatch hs
  | cons s result ih =>
      rw [List.foldlM_cons]
      by_cases hs : s.endpoints = []
      · rw [countIn_of_empty hs]
        exact ⟨s.nodeId, rfl⟩
      · rw [countIn_of_nonempty hs]
        rw [List.exists_mem_cons_iff, or_iff_right hs] at h
        exact ih h _

/-- No entry is reported if all counts are one. -/
theorem find?_toList_eq_none_iff (counts : Counts) :
    (counts.toList.find? fun entry => entry.2 ≠ 1) = none ↔
      ∀ (sip : SipId) (n : Nat), counts[sip]? = some n → n = 1 := by
  simp only [List.find?_eq_none, decide_eq_true_eq, not_not]
  constructor
  · intro h sip n hn
    exact h (sip, n) (Std.TreeMap.mem_toList_iff_getElem?_eq_some.2 hn)
  · rintro h ⟨sip, n⟩ hn
    exact h sip n (Std.TreeMap.mem_toList_iff_getElem?_eq_some.1 hn)

/-- Every count is one if no sip is found twice and every requested sip is found. -/
theorem Tallies.counts_one_iff (h : Tallies requested found counts) :
    (∀ (sip : SipId) (n : Nat), counts[sip]? = some n → n = 1) ↔
      found.Nodup ∧ ∀ e ∈ requested, e.sip ∈ found := by
  constructor
  · intro hone
    have hcount : ∀ sip, ((∃ e ∈ requested, e.sip = sip) ∨ sip ∈ found) → found.count sip = 1 :=
      fun sip hsip => hone sip _ ((h sip _).2 ⟨hsip, rfl⟩)
    constructor
    · exact List.nodup_iff_count_eq_one.2 fun sip hsip => hcount sip (.inr hsip)
    · intro e he
      have hfound := hcount e.sip (.inl ⟨e, he, rfl⟩)
      exact List.count_pos_iff.1 (by omega)
  · rintro ⟨hnodup, hfound⟩ sip n hn
    obtain ⟨hsip, rfl⟩ := (h sip n).1 hn
    rcases hsip with ⟨e, he, rfl⟩ | hsip
    · exact List.nodup_iff_count_eq_one.1 hnodup e.sip (hfound e he)
    · exact List.nodup_iff_count_eq_one.1 hnodup sip hsip

end Coverage

variable (requested : List ServiceEndPoint) (result : List SubRequest)

theorem checkCoverage_ok_iff :
    checkCoverage requested result = .ok () ↔
      (∀ s ∈ result, s.endpoints ≠ []) ∧ (foundSips result).Nodup ∧
        ∀ e ∈ requested, e.sip ∈ foundSips result := by
  by_cases hne : ∀ s ∈ result, s.endpoints ≠ []
  · obtain ⟨counts, hcounts, htallies⟩ := (Coverage.tallies_start requested).foldlM_countIn hne
    rw [List.nil_append] at htallies
    rw [and_iff_right hne, ← htallies.counts_one_iff, ← Coverage.find?_toList_eq_none_iff,
      checkCoverage, hcounts]
    simp only [bind, Except.bind]
    split
    case h_1 sip n hfind => exact iff_of_false nofun (by rw [hfind]; exact nofun)
    case h_2 hfind => exact iff_of_true rfl hfind
  · have hempty : ∃ s ∈ result, s.endpoints = [] := by simpa using hne
    obtain ⟨node, herror⟩ :=
      Coverage.foldlM_countIn_of_empty hempty (Coverage.start requested)
    rw [checkCoverage, herror]
    exact iff_of_false nofun fun h => hne h.1

/-- The check accepts a result if no sub-request is without endpoints, no sip is found twice and
every requested sip is found. So it accepts every result that covers the request; and what it
accepts covers the request unless a sip is found that was not requested. -/
theorem coverage_accepts_iff :
    (checkCoverage requested result = .ok () ↔
      (∀ s ∈ result, s.endpoints ≠ []) ∧ (foundSips result).Nodup ∧
        ∀ e ∈ requested, e.sip ∈ foundSips result) ∧
    (Covers requested result ↔ checkCoverage requested result = .ok () ∧
      ∀ sip ∈ foundSips result, ∃ e ∈ requested, e.sip = sip) := by
  have hok := checkCoverage_ok_iff requested result
  refine ⟨hok, ?_⟩
  rw [hok]
  constructor
  · intro h
    exact ⟨⟨h.nonempty, h.once, fun e he => (h.same e.sip).2 ⟨e, he, rfl⟩⟩,
      fun sip hsip => (h.same sip).1 hsip⟩
  · rintro ⟨⟨hne, honce, hfound⟩, hrequested⟩
    refine ⟨hne, honce, fun sip => ⟨hrequested sip, ?_⟩⟩
    rintro ⟨e, he, rfl⟩
    exact hfound e he

/-- A result with the endpoint of a sip that was not requested beside the requested one. -/
def withStranger : List SubRequest :=
  [⟨"n1", "n1", [⟨some (Sample.endPoint "n1:1"), some (Sample.ref "n1:1")⟩,
    ⟨some (Sample.endPoint "n1:2"), some (Sample.ref "n1:2")⟩]⟩]

theorem withStranger_accepted :
    checkCoverage [Sample.endPoint "n1:1"] withStranger = .ok () ∧
      ¬ Covers [Sample.endPoint "n1:1"] withStranger := by
  constructor
  · decide +kernel
  · intro h
    obtain ⟨e, he, hsip⟩ := (h.same (Sample.sip "n1:2")).1 (by decide)
    cases List.mem_singleton.1 he
    exact absurd hsip (by decide)

end Connectivity
