import Mathlib.Data.Set.Card
import Connectivity.Driver.Registry
import Connectivity.Proofs.Collections

/-!
# Selection of a driver

Every builder that is bound to an id is asked once, in the order of ids. The builders that answer
tell the result: there is a driver if exactly one of them does.
-/
namespace Connectivity

variable {ε : Type}

/-- The ids to which builders are bound that offer a driver for a target. -/
def answering (bound : String → Option (Builder ε)) (target : Target) (context : Context) :
    Set String :=
  {id | ∃ b, bound id = some b ∧ (b.offer target context).2.isSome}

namespace Registry

/-- The builder bound to an id. -/
def bound (r : Registry ε) (id : String) : Option (Builder ε) := r.builders[id]?

/-- Every builder is bound to its own id. -/
def Keyed (r : Registry ε) : Prop := ∀ id b, r.bound id = some b → b.id = id

/-- How a driver is selected from the builders bound. A selection asks each of them once, in the
order of ids, and nobody else. -/
structure Selects (r : Registry ε) (bound : String → Option (Builder ε)) (slot : Nat)
    (target : Target) (context : Context) : Prop where
  probes : (r.selectFor slot target context).probesAt slot = r.ids
  trace : (r.selectFor slot target context).trace = (r.ids.filterMap bound).flatMap fun b =>
    .probed slot b.id :: (b.offer target context).1.map .emitted
  finite : (answering bound target context).Finite
  notFound : (r.selectFor slot target context).result = .error (.driverNotFound target.text) ↔
    answering bound target context = ∅
  selected : ∀ i, (r.selectFor slot target context).result = .ok i ↔
    ∃ b d, answering bound target context = {b.id} ∧ bound b.id = some b ∧
      (b.offer target context).2 = some d ∧ i = ⟨⟨slot, b.id⟩, d⟩
  ambiguous : ∀ n,
    (r.selectFor slot target context).result = .error (.driverAmbiguous target.text n) ↔
      2 ≤ n ∧ (answering bound target context).ncard = n

section Choice

variable {target : Target} {candidates : List (Instance ε)}

theorem choose_eq_notFound_iff :
    choose target candidates = .error (.driverNotFound target.text) ↔ candidates = [] := by
  match candidates with
  | [] => exact iff_of_true rfl rfl
  | [i] => exact iff_of_false nofun nofun
  | i :: j :: rest => exact iff_of_false nofun nofun

theorem choose_eq_ok_iff {i : Instance ε} :
    choose target candidates = .ok i ↔ candidates = [i] := by
  match candidates with
  | [] => exact iff_of_false nofun nofun
  | [j] => simp [choose]
  | j :: k :: rest => exact iff_of_false nofun nofun

theorem choose_eq_ambiguous_iff {n : Nat} :
    choose target candidates = .error (.driverAmbiguous target.text n) ↔
      2 ≤ n ∧ candidates.length = n := by
  match candidates with
  | [] => exact iff_of_false nofun (by rintro ⟨hn, rfl⟩; simp at hn)
  | [i] => exact iff_of_false nofun (by rintro ⟨hn, rfl⟩; simp at hn)
  | i :: j :: rest =>
      simp only [choose, List.length_cons, Except.error.injEq, Error.driverAmbiguous.injEq,
        true_and]
      omega

end Choice

variable {r : Registry ε} {slot : Nat} {target : Target} {context : Context}

theorem values_eq_filterMap_ids (r : Registry ε) : r.builders.values = r.ids.filterMap r.bound := by
  rw [values_eq_map_toList, map_toList_eq_filterMap r.builders fun _ b => b]
  exact List.filterMap_congr fun id _ => Option.map_id_apply

theorem mem_builders_values {b : Builder ε} : b ∈ r.builders.values ↔ ∃ id, r.bound id = some b :=
  mem_values

theorem Keyed.map_id_values (h : r.Keyed) : r.builders.values.map (·.id) = r.ids := by
  rw [values_eq_map_toList, List.map_map, ids, ← Std.TreeMap.map_fst_toList_eq_keys]
  refine List.map_congr_left fun x hx => ?_
  exact h x.1 x.2 (Std.TreeMap.mem_toList_iff_getElem?_eq_some.1 hx)

/-- The drivers that builders offer, in the order of ids. -/
def candidates (r : Registry ε) (slot : Nat) (target : Target) (context : Context) :
    List (Instance ε) :=
  (r.builders.values.map (probe slot target context)).filterMap (·.2)

theorem mem_candidates {i : Instance ε} :
    i ∈ r.candidates slot target context ↔ ∃ id b d, r.bound id = some b ∧
      (b.offer target context).2 = some d ∧ i = ⟨⟨slot, b.id⟩, d⟩ := by
  rw [candidates, List.filterMap_map, List.mem_filterMap]
  simp only [mem_builders_values, Function.comp_apply, probe, Option.map_eq_some_iff]
  constructor
  · rintro ⟨b, ⟨id, hb⟩, d, hd, rfl⟩
    exact ⟨id, b, d, hb, hd, rfl⟩
  · rintro ⟨id, b, d, hb, hd, rfl⟩
    exact ⟨b, ⟨id, hb⟩, d, hd, rfl⟩

namespace Keyed

/-- No two candidates come from builders of the same id. -/
theorem candidates_nodup (h : r.Keyed) :
    ((r.candidates slot target context).map (·.id.builder)).Nodup := by
  have hids : (r.builders.values.map (·.id)).Nodup := by
    rw [h.map_id_values]
    exact nodup_of_ascending (keys_ascending r.builders)
  rw [candidates, List.filterMap_map, List.Nodup, List.pairwise_map, List.pairwise_filterMap]
  refine (List.pairwise_map.1 hids).imp fun hne i hi j hj => ?_
  obtain ⟨d, -, rfl⟩ := Option.map_eq_some_iff.1 hi
  obtain ⟨e, -, rfl⟩ := Option.map_eq_some_iff.1 hj
  exact hne

/-- The candidates are those of the builders that answer. -/
theorem mem_answering (h : r.Keyed) {id : String} :
    id ∈ answering r.bound target context ↔
      id ∈ (r.candidates slot target context).map (·.id.builder) := by
  rw [List.mem_map]
  constructor
  · rintro ⟨b, hb, hanswers⟩
    obtain ⟨d, hd⟩ := Option.isSome_iff_exists.1 hanswers
    exact ⟨_, mem_candidates.2 ⟨id, b, d, hb, hd, rfl⟩, h id b hb⟩
  · rintro ⟨i, hi, rfl⟩
    obtain ⟨id, b, d, hb, hd, rfl⟩ := mem_candidates.1 hi
    refine ⟨b, ?_, Option.isSome_iff_exists.2 ⟨d, hd⟩⟩
    rw [h id b hb]
    exact hb

variable (slot) in
theorem answering_eq (h : r.Keyed) :
    answering r.bound target context =
      ((r.candidates slot target context).map (·.id.builder)).toFinset := by
  ext id
  rw [h.mem_answering, Finset.mem_coe, List.mem_toFinset]

theorem ncard_answering (h : r.Keyed) :
    (answering r.bound target context).ncard = (r.candidates slot target context).length := by
  rw [h.answering_eq slot, Set.ncard_coe_finset, List.toFinset_card_of_nodup h.candidates_nodup,
    List.length_map]

theorem candidates_eq_nil_iff (h : r.Keyed) :
    r.candidates slot target context = [] ↔ answering r.bound target context = ∅ := by
  rw [h.answering_eq slot, Finset.coe_eq_empty, List.toFinset_eq_empty_iff, List.map_eq_nil_iff]

/-- There is one candidate if one builder answers. -/
theorem candidates_eq_singleton_iff (h : r.Keyed) {i : Instance ε} :
    r.candidates slot target context = [i] ↔
      ∃ b d, answering r.bound target context = {b.id} ∧ r.bound b.id = some b ∧
        (b.offer target context).2 = some d ∧ i = ⟨⟨slot, b.id⟩, d⟩ := by
  constructor
  · intro hone
    obtain ⟨id, b, d, hb, hd, rfl⟩ := mem_candidates.1 (hone ▸ List.mem_singleton_self i)
    obtain rfl := h id b hb
    refine ⟨b, d, ?_, hb, hd, rfl⟩
    rw [h.answering_eq slot, hone]
    simp
  · rintro ⟨b, d, hanswering, hb, hd, rfl⟩
    -- there are as many candidates as builders that answer, and this one is among them
    have hlength : (r.candidates slot target context).length = 1 := by
      rw [← h.ncard_answering, hanswering, Set.ncard_singleton]
    have hmem : ⟨⟨slot, b.id⟩, d⟩ ∈ r.candidates slot target context :=
      mem_candidates.2 ⟨b.id, b, d, hb, hd, rfl⟩
    obtain ⟨j, hj⟩ := List.length_eq_one_iff.1 hlength
    rw [hj] at hmem ⊢
    rw [List.mem_singleton.1 hmem]

/-- Every builder is asked once; whatever else it does is no question. -/
theorem probesAt_selectFor (h : r.Keyed) :
    (r.selectFor slot target context).probesAt slot = r.ids := by
  rw [← h.map_id_values, Activity.probesAt, selectFor, List.flatMap_map, List.filterMap_flatMap,
    List.map_eq_flatMap]
  refine List.flatMap_congr fun b _ => ?_
  have hevents : ((b.offer target context).1.map Occurrence.emitted).filterMap
      (Occurrence.probeAt? slot) = [] := Occurrence.filterMap_emitted (fun _ => rfl) _
  simp only [probe, List.filterMap_cons, Occurrence.probeAt?, if_true, hevents]

/-- Where builders are bound to their own ids, those that answer decide. -/
theorem selects (h : r.Keyed) (slot : Nat) (target : Target) (context : Context) :
    r.Selects r.bound slot target context where
  probes := h.probesAt_selectFor
  trace := by
    rw [← values_eq_filterMap_ids, selectFor, List.flatMap_map]
    rfl
  finite := by
    rw [h.answering_eq slot]
    exact Finset.finite_toSet _
  notFound := choose_eq_notFound_iff.trans h.candidates_eq_nil_iff
  selected _ := choose_eq_ok_iff.trans h.candidates_eq_singleton_iff
  ambiguous n := by
    rw [h.ncard_answering]
    exact choose_eq_ambiguous_iff

end Keyed

end Registry

end Connectivity
