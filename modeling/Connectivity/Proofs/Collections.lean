import Mathlib.Data.List.Forall2
import Mathlib.Data.List.Perm.Subperm
import Std.Data.TreeMap
import Std.Data.TreeSet

/-!
# Lists, sets and maps

Facts on traversals that stop at the first failure, on lists with keys, and on sets and maps whose
keys are texts.
-/
namespace Connectivity

theorem compare_eq_lt_iff {a b : String} : compare a b = .lt ↔ a < b := compareOfLessAndEq_eq_lt

/-- A traversal gives all results, or the first error and nothing else. -/
theorem mapM_except_cases {ε α β : Type} (f : α → Except ε β) (xs : List α) :
    (∃ ys, xs.mapM f = .ok ys ∧ List.Forall₂ (fun x y => f x = .ok y) xs ys) ∨
      ∃ e, xs.mapM f = .error e ∧ ∃ x ∈ xs, f x = .error e := by
  induction xs with
  | nil => exact .inl ⟨[], rfl, .nil⟩
  | cons x xs ih =>
      rw [List.mapM_cons]
      cases hx : f x with
      | error e => exact .inr ⟨e, rfl, x, List.mem_cons_self, hx⟩
      | ok y =>
          rcases ih with ⟨ys, hys, hall⟩ | ⟨e, he, z, hz, hfz⟩
          · exact .inl ⟨y :: ys, by rw [hys]; rfl, .cons hx hall⟩
          · exact .inr ⟨e, by rw [he]; rfl, z, List.mem_cons_of_mem x hz, hfz⟩

theorem mapM_option_eq_some_iff {α β : Type} {f : α → Option β} {xs : List α} {ys : List β} :
    xs.mapM f = some ys ↔ List.Forall₂ (fun x y => f x = some y) xs ys := by
  induction xs generalizing ys with
  | nil => simp [eq_comm]
  | cons x xs ih =>
      simp only [List.mapM_cons, Option.bind_eq_bind, Option.bind_eq_some_iff, Option.pure_def,
        Option.some.injEq, List.forall₂_cons_left_iff, exists_and_left, ih, @eq_comm _ ys]

theorem mapM_option_eq_none_iff {α β : Type} {f : α → Option β} {xs : List α} :
    xs.mapM f = none ↔ ∃ x ∈ xs, f x = none := by
  induction xs with
  | nil => simp
  | cons x xs ih =>
      rw [List.mapM_cons, List.exists_mem_cons_iff, ← ih]
      cases f x with
      | none => simp
      | some y => cases xs.mapM f <;> simp

theorem mapM_option_cases {α β : Type} (f : α → Option β) (xs : List α) :
    (∃ ys, xs.mapM f = some ys ∧ List.Forall₂ (fun x y => f x = some y) xs ys) ∨
      (xs.mapM f = none ∧ ∃ x ∈ xs, f x = none) := by
  cases h : xs.mapM f with
  | none => exact .inr ⟨rfl, mapM_option_eq_none_iff.1 h⟩
  | some ys => exact .inl ⟨ys, rfl, mapM_option_eq_some_iff.1 h⟩

/-- Every element has a partner, and every partner an element. -/
theorem exists_of_forall₂ {α β : Type} {R : α → β → Prop} {xs : List α} {ys : List β}
    (h : List.Forall₂ R xs ys) :
    (∀ x ∈ xs, ∃ y ∈ ys, R x y) ∧ ∀ y ∈ ys, ∃ x ∈ xs, R x y := by
  induction h with
  | nil => exact ⟨nofun, nofun⟩
  | cons hxy _ ih =>
      refine ⟨List.forall_mem_cons.2 ⟨⟨_, List.mem_cons_self, hxy⟩, fun x hx => ?_⟩,
        List.forall_mem_cons.2 ⟨⟨_, List.mem_cons_self, hxy⟩, fun y hy => ?_⟩⟩
      · obtain ⟨y, hy, hr⟩ := ih.1 x hx
        exact ⟨y, List.mem_cons_of_mem _ hy, hr⟩
      · obtain ⟨x, hx, hr⟩ := ih.2 y hy
        exact ⟨x, List.mem_cons_of_mem _ hx, hr⟩

/-- A relation that tells the second element of each pair tells the second list. -/
theorem forall₂_iff_eq_map {α β : Type} {R : α → β → Prop} {f : α → β}
    (h : ∀ x y, R x y ↔ y = f x) {xs : List α} {ys : List β} :
    List.Forall₂ R xs ys ↔ ys = xs.map f := by
  have hR : R = fun x y => f x = y := by
    funext x y
    exact propext ((h x y).trans eq_comm)
  rw [hR, ← List.forall₂_map_left_iff, List.forall₂_eq_eq_eq, eq_comm]

/-- Of elements no two of which are related, at most one is in a list of related ones. -/
theorem countP_le_one_of_pairwise {α : Type} {R : α → α → Prop} {P : α → Bool} {xs : List α}
    (h : xs.Pairwise R)
    (hP : ∀ x ∈ xs, ∀ y ∈ xs, P x = true → P y = true → ¬ R x y) : xs.countP P ≤ 1 := by
  induction xs with
  | nil => simp
  | cons x xs ih =>
      obtain ⟨hx, hxs⟩ := List.pairwise_cons.1 h
      by_cases hpx : P x = true
      · have hzero : xs.countP P = 0 := List.countP_eq_zero.2 fun y hy hpy =>
          hP x List.mem_cons_self y (List.mem_cons_of_mem x hy) hpx hpy (hx y hy)
        simp [List.countP_cons_of_pos hpx, hzero]
      · rw [List.countP_cons_of_neg hpx]
        exact ih hxs fun y hy z hz =>
          hP y (List.mem_cons_of_mem x hy) z (List.mem_cons_of_mem x hz)

/-- Elements with a property that at most one has are the same. -/
theorem eq_of_countP_le_one {α : Type} {P : α → Bool} {xs : List α} (h : xs.countP P ≤ 1) {x y : α}
    (hx : x ∈ xs) (hy : y ∈ xs) (hpx : P x = true) (hpy : P y = true) : x = y := by
  rw [List.countP_eq_length_filter] at h
  have hx := List.mem_filter.2 ⟨hx, hpx⟩
  have hy := List.mem_filter.2 ⟨hy, hpy⟩
  match hf : xs.filter P, h with
  | [], _ =>
      rw [hf] at hx
      exact nomatch hx
  | [z], _ =>
      rw [hf] at hx hy
      exact (List.mem_singleton.1 hx).trans (List.mem_singleton.1 hy).symm

/-- Lists with the same elements tell the same of their first element with a property, if all
elements with it tell the same. -/
theorem map_find?_congr {α β : Type} {f : α → β} {P : α → Bool} {xs ys : List α}
    (hmem : ∀ x, x ∈ xs ↔ x ∈ ys)
    (hsame : ∀ x ∈ xs, ∀ y ∈ xs, P x = true → P y = true → f x = f y) :
    (xs.find? P).map f = (ys.find? P).map f := by
  cases hx : xs.find? P with
  | none =>
      have hnone : ys.find? P = none := by
        rw [List.find?_eq_none] at hx ⊢
        exact fun y hy => hx y ((hmem y).2 hy)
      rw [hnone]
  | some x =>
      have hmemx := List.mem_of_find?_eq_some hx
      have hsome : (ys.find? P).isSome :=
        List.find?_isSome.2 ⟨x, (hmem x).1 hmemx, List.find?_some hx⟩
      obtain ⟨y, hy⟩ := Option.isSome_iff_exists.1 hsome
      have hmemy := (hmem y).2 (List.mem_of_find?_eq_some hy)
      rw [hy]
      exact congrArg some (hsame x hmemx y hmemy (List.find?_some hx) (List.find?_some hy))

/-- An element is the only one with a property if none before or after it has it. -/
theorem countP_middle_eq_one_iff {α : Type} {P : α → Prop} [DecidablePred P] {before after : List α}
    {x : α} (hx : P x) :
    (before ++ x :: after).countP (fun y => P y) = 1 ↔ ∀ y ∈ before ++ after, ¬ P y := by
  have hzero : (before ++ after).countP (fun y => P y) = 0 ↔ ∀ y ∈ before ++ after, ¬ P y := by
    simp only [List.countP_eq_zero, decide_eq_true_eq]
  have hone : (x :: after).countP (fun y => P y) = after.countP (fun y => P y) + 1 :=
    List.countP_cons_of_pos (decide_eq_true hx)
  rw [← hzero, List.countP_append, List.countP_append, hone]
  omega

theorem lookup_eq_none_iff_keys {β : Type} {key : String} {entries : List (String × β)} :
    entries.lookup key = none ↔ key ∉ entries.map Prod.fst := by
  simp only [List.lookup_eq_none_iff, bne_iff_ne, List.mem_map, not_exists, not_and]
  exact ⟨fun h entry hentry heq => h entry hentry heq.symm,
    fun h entry hentry heq => h entry hentry heq.symm⟩

theorem mem_of_lookup {β : Type} {key : String} {value : β} {entries : List (String × β)}
    (h : entries.lookup key = some value) : (key, value) ∈ entries := by
  obtain ⟨before, after, rfl, -⟩ := List.lookup_eq_some_iff.1 h
  exact List.mem_append_right before List.mem_cons_self

/-- Where no key comes twice, what is found at a key is what stands there. -/
theorem lookup_eq_some_iff_mem {β : Type} {key : String} {value : β}
    {entries : List (String × β)} (h : (entries.map Prod.fst).Nodup) :
    entries.lookup key = some value ↔ (key, value) ∈ entries := by
  refine ⟨mem_of_lookup, fun hmem => ?_⟩
  obtain ⟨before, after, rfl⟩ := List.append_of_mem hmem
  refine List.lookup_eq_some_iff.2 ⟨before, after, rfl, fun entry hentry => ?_⟩
  have hne : entry.1 ≠ key := (List.nodup_append.1 (by simpa using h)).2.2 entry.1
    (List.mem_map_of_mem hentry) key List.mem_cons_self
  simpa using hne.symm

/-- Different keys of a map are no more than it has. -/
theorem length_le_size_of_nodup {β : Type} {m : Std.TreeMap String β} {keys : List String}
    (hnodup : keys.Nodup) (h : ∀ k ∈ keys, k ∈ m) : keys.length ≤ m.size := by
  rw [← Std.TreeMap.length_keys]
  exact (List.subperm_of_subset hnodup fun k hk => Std.TreeMap.mem_keys.2 (h k hk)).length_le

theorem getElem?_insert {β : Type} (m : Std.TreeMap String β) (key k : String) (x : β) :
    (m.insert key x)[k]? = if key = k then some x else m[k]? := by
  simp only [Std.TreeMap.getElem?_insert, Std.LawfulEqOrd.compare_eq_iff_eq]

theorem values_eq_map_toList {β : Type} (m : Std.TreeMap String β) :
    m.values = m.toList.map (·.2) := by
  change m.foldr (fun _ x xs => x :: xs) [] = _
  rw [Std.TreeMap.foldr_eq_foldr_toList, List.foldr_cons_eq_append, List.append_nil]

theorem mem_values {β : Type} {m : Std.TreeMap String β} {x : β} :
    x ∈ m.values ↔ ∃ k : String, m[k]? = some x := by
  rw [values_eq_map_toList, List.mem_map]
  constructor
  · rintro ⟨⟨k, y⟩, hk, rfl⟩
    exact ⟨k, Std.TreeMap.mem_toList_iff_getElem?_eq_some.1 hk⟩
  · rintro ⟨k, hk⟩
    exact ⟨(k, x), Std.TreeMap.mem_toList_iff_getElem?_eq_some.2 hk, rfl⟩

/-- The entries of a map have different keys. -/
theorem toList_keys_ne {β : Type} (m : Std.TreeMap String β) :
    m.toList.Pairwise fun x y => x.1 ≠ y.1 :=
  Std.TreeMap.distinct_keys_toList.imp fun h heq => h (Std.LawfulEqOrd.compare_eq_iff_eq.2 heq)

/-- The entries of a map come by ascending keys. -/
theorem toList_keys_ascending {β : Type} (m : Std.TreeMap String β) :
    m.toList.Pairwise fun x y => x.1 < y.1 :=
  Std.TreeMap.ordered_keys_toList.imp fun h => compare_eq_lt_iff.1 h

theorem mem_foldl_insert (s : Std.TreeSet String) (xs : List String) (x : String) :
    x ∈ xs.foldl (fun s x => s.insert x) s ↔ x ∈ s ∨ x ∈ xs := by
  induction xs generalizing s with
  | nil => simp
  | cons y ys ih =>
      rw [List.foldl_cons, ih, Std.TreeSet.mem_insert, Std.LawfulEqOrd.compare_eq_iff_eq,
        List.mem_cons, @eq_comm _ y x, @or_comm (x = y), or_assoc]

/-- The elements of a set come in ascending order. -/
theorem toList_ascending (s : Std.TreeSet String) : s.toList.Pairwise (· < ·) :=
  Std.TreeSet.ordered_toList.imp fun h => compare_eq_lt_iff.1 h

theorem nodup_of_ascending {xs : List String} (h : xs.Pairwise (· < ·)) : xs.Nodup := by
  refine h.imp fun {x y} hlt heq => ?_
  rw [heq] at hlt
  exact String.lt_irrefl y hlt

/-- Ascending lists are equal if they have the same elements. -/
theorem eq_of_ascending {xs ys : List String} (hxs : xs.Pairwise (· < ·))
    (hys : ys.Pairwise (· < ·)) (h : ∀ x, x ∈ xs ↔ x ∈ ys) : xs = ys := by
  refine List.Perm.eq_of_pairwise (fun x y _ _ hxy hyx => ?_) hxs hys
    ((List.perm_ext_iff_of_nodup (nodup_of_ascending hxs) (nodup_of_ascending hys)).2 h)
  exact absurd hyx (String.lt_asymm hxy)

theorem keys_ascending {β : Type} (m : Std.TreeMap String β) : m.keys.Pairwise (· < ·) :=
  Std.TreeMap.ordered_keys.imp fun h => compare_eq_lt_iff.1 h

/-- What is told of the entries of a map can be looked up under its keys. -/
theorem map_toList_eq_filterMap {β γ : Type} (m : Std.TreeMap String β) (f : String → β → γ) :
    (m.toList.map fun x => f x.1 x.2) = m.keys.filterMap fun k => m[k]?.map (f k) := by
  rw [← Std.TreeMap.map_fst_toList_eq_keys, List.filterMap_map, ← List.filterMap_eq_map]
  refine List.filterMap_congr fun x hx => ?_
  rw [Function.comp_apply, Function.comp_apply, Std.TreeMap.mem_toList_iff_getElem?_eq_some.1 hx]
  rfl

/-- The same is told of the entries of two maps if it is told of the entry under each key. -/
theorem map_toList_congr {β γ : Type} {m m' : Std.TreeMap String β} {f : String → β → γ}
    (h : ∀ k : String, m[k]?.map (f k) = m'[k]?.map (f k)) :
    (m.toList.map fun x => f x.1 x.2) = m'.toList.map fun x => f x.1 x.2 := by
  have hkeys : m.keys = m'.keys := by
    refine eq_of_ascending (keys_ascending m) (keys_ascending m') fun k => ?_
    have hsome := congrArg Option.isSome (h k)
    rw [Option.isSome_map, Option.isSome_map] at hsome
    rw [Std.TreeMap.mem_keys, Std.TreeMap.mem_keys, Std.TreeMap.mem_iff_isSome_getElem?,
      Std.TreeMap.mem_iff_isSome_getElem?, hsome]
  rw [map_toList_eq_filterMap, map_toList_eq_filterMap, hkeys]
  simp only [h]

theorem values_congr {β : Type} {m m' : Std.TreeMap String β} (h : ∀ k : String, m[k]? = m'[k]?) :
    m.values = m'.values := by
  rw [values_eq_map_toList, values_eq_map_toList]
  exact map_toList_congr (f := fun _ x => x) fun k => by rw [h]

end Connectivity
