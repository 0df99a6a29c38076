import Connectivity.Document.Basic
import Connectivity.Proofs.Collections
import Mathlib.Data.List.Nodup

/-!
# Fields of a record

A record that was written with all its fields by name gives each of them, in whatever order. An
entry more or less makes a difference to one field at most.
-/
namespace Connectivity.Fields

variable {ν : Type}

/-- Entries for just the fields of a record are all given. -/
theorem ofEntries?_of_names {names : List String} {entries : List (String × ν)}
    (h : entries.map Prod.fst = names) (hnames : names.Nodup) :
    ofEntries? names entries = some ⟨entries, true⟩ := by
  have hknown : (entries.filter fun entry => names.contains entry.1) = entries := by
    refine List.filter_eq_self.2 fun entry hentry => ?_
    simpa [← h] using ⟨entry.2, hentry⟩
  simp only [ofEntries?, hknown, h, if_pos hnames]

@[simp] theorem get?_cons_self (name : String) (value : ν) (given : List (String × ν))
    (byName : Bool) : get? ⟨(name, value) :: given, byName⟩ name = some value := by
  simp [get?]

@[simp] theorem get?_cons_of_ne {name key : String} (h : name ≠ key) (value : ν)
    (given : List (String × ν)) (byName : Bool) :
    get? ⟨(key, value) :: given, byName⟩ name = get? ⟨given, byName⟩ name := by
  simp [get?, List.lookup_cons, beq_false_of_ne h]

/-- What holds of a default and of all that is read holds of a field with that default. -/
theorem of_orDefault {α : Type} {P : α → Prop} {read : ν → Option α} {default x : α}
    {f : Fields ν} {name : String} (hread : ∀ value x, read value = some x → P x)
    (hdefault : P default) (h : f.orDefault name default read = some x) : P x := by
  unfold orDefault at h
  split at h
  · exact Option.some.inj h ▸ hdefault
  · exact hread _ x h

/-! ## Entries by name and items by position -/

section

variable {byName : Bool} {name key : String}

theorem ofEntries?_eq_some_iff {names : List String} {entries : List (String × ν)} {f : Fields ν} :
    ofEntries? names entries = some f ↔
      ((entries.filter fun entry => names.contains entry.1).map Prod.fst).Nodup ∧
        ⟨entries.filter fun entry => names.contains entry.1, true⟩ = f := by
  simp only [ofEntries?, Option.ite_none_right_eq_some, Option.some.injEq]

theorem ofEntries?_add {names : List String} (h : key ∉ names) (before after : List (String × ν))
    (value : ν) :
    ofEntries? names (before ++ (key, value) :: after) = ofEntries? names (before ++ after) := by
  simp [ofEntries?, h]

theorem get?_eq_some_iff {given : List (String × ν)} (h : (given.map Prod.fst).Nodup) {value : ν} :
    get? ⟨given, byName⟩ name = some value ↔ (name, value) ∈ given := lookup_eq_some_iff_mem h

theorem get?_eq_none_iff {given : List (String × ν)} :
    get? ⟨given, byName⟩ name = none ↔ name ∉ given.map Prod.fst := lookup_eq_none_iff_keys

/-- The order of fields by name says nothing. -/
theorem get?_perm {given given' : List (String × ν)} (perm : given.Perm given')
    (h : (given.map Prod.fst).Nodup) : get? ⟨given', byName⟩ name = get? ⟨given, byName⟩ name := by
  have h' : (given'.map Prod.fst).Nodup := (perm.map Prod.fst).nodup_iff.1 h
  refine Option.ext fun value => ?_
  rw [get?_eq_some_iff h, get?_eq_some_iff h', perm.mem_iff]

section

variable {before after : List (String × ν)} {value : ν}

theorem get?_middle (h : ((before ++ (name, value) :: after).map Prod.fst).Nodup) :
    get? ⟨before ++ (name, value) :: after, byName⟩ name = some value :=
  (get?_eq_some_iff h).2 (List.mem_append_right before List.mem_cons_self)

theorem get?_middle_of_ne (h : name ≠ key) :
    get? ⟨before ++ (key, value) :: after, byName⟩ name = get? ⟨before ++ after, byName⟩ name := by
  simp only [get?, List.lookup_append, List.lookup_cons, beq_false_of_ne h]

/-- Of what is given once nothing is left when it is taken away. -/
theorem get?_without (h : ((before ++ (name, value) :: after).map Prod.fst).Nodup) :
    get? ⟨before ++ after, byName⟩ name = none := by
  rw [get?_eq_none_iff, List.map_append]
  rw [List.map_append, List.map_cons, List.nodup_middle] at h
  exact (List.nodup_cons.1 h).1

end

/-- What is given by position has no key twice if the fields have none. -/
theorem ofItems_keys_nodup {names : List String} (h : names.Nodup) (items : List ν) :
    ((ofItems names items).given.map Prod.fst).Nodup := by
  have sublist : ∀ (names : List String) (items : List ν),
      ((names.zip items).map Prod.fst).Sublist names := by
    intro names
    induction names with
    | nil => exact fun _ => List.nil_sublist _
    | cons name names ih =>
        intro items
        cases items with
        | nil => exact List.nil_sublist _
        | cons item items => exact (ih items).cons_cons name
  exact (sublist names items).nodup h

end

end Connectivity.Fields
