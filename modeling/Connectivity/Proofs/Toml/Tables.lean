import Connectivity.Proofs.Collections
import Connectivity.Toml.Table
import Mathlib.Data.List.Nodup

/-!
# What a statement does to the tables

A statement changes the entry of one key in each of the tables on its path, and it looks at no other
entry of them. So entries that no path leads to may be taken out of the tables before a statement or
after it.
-/
namespace Connectivity.Toml

/-! ## Changing the entry of a key -/

/-- Gives a key an entry: in its place if the key is there, and at the end if it is new. -/
def putEntry (key : String) (e : Entry) (entries : Entries) : Entries :=
  match entries.lookup key with
  | none => entries ++ [(key, e)]
  | some _ => replaceEntry key e entries

/-- Changes the entry of a key by what the entry was. -/
def updateEntry (key : String) (change : Option Entry → Option Entry) (entries : Entries) :
    Option Entries := (change (entries.lookup key)).map (putEntry key · entries)

section

variable {key other : String} {e : Entry} {entries entries' : Entries}
  {change : Option Entry → Option Entry}

theorem keys_replaceEntry : (replaceEntry key e entries).map Prod.fst = entries.map Prod.fst := by
  rw [replaceEntry, List.map_map]
  refine List.map_congr_left fun old _ => ?_
  by_cases h : old.1 = key <;> simp [h]

theorem lookup_replaceEntry_self (h : entries.lookup key ≠ none) :
    (replaceEntry key e entries).lookup key = some e := by
  induction entries with
  | nil => exact absurd rfl h
  | cons old entries ih =>
      obtain ⟨k, v⟩ := old
      by_cases hk : k = key
      · simp [replaceEntry, hk]
      · have hne : (key == k) = false := beq_false_of_ne (Ne.symm hk)
        rw [List.lookup_cons, hne] at h
        simpa [replaceEntry, hk, List.lookup_cons, hne] using ih h

theorem lookup_replaceEntry_of_ne (h : other ≠ key) :
    (replaceEntry key e entries).lookup other = entries.lookup other := by
  induction entries with
  | nil => rfl
  | cons old entries ih =>
      obtain ⟨k, v⟩ := old
      by_cases hk : k = key
      · subst hk
        simpa [replaceEntry, List.lookup_cons, beq_false_of_ne h] using ih
      · simp only [replaceEntry, List.map_cons, if_neg hk, List.lookup_cons] at ih ⊢
        rw [ih]

theorem lookup_putEntry_self : (putEntry key e entries).lookup key = some e := by
  unfold putEntry
  split
  case h_1 h => rw [List.lookup_append, h]; simp
  case h_2 h => exact lookup_replaceEntry_self (by simp [h])

theorem lookup_putEntry_of_ne (h : other ≠ key) :
    (putEntry key e entries).lookup other = entries.lookup other := by
  unfold putEntry
  split
  case h_1 => simp [List.lookup_append, List.lookup_cons, beq_false_of_ne h]
  case h_2 => exact lookup_replaceEntry_of_ne h

/-- A key is not given twice. -/
theorem nodup_putEntry (h : (entries.map Prod.fst).Nodup) :
    ((putEntry key e entries).map Prod.fst).Nodup := by
  unfold putEntry
  split
  case h_1 hnone =>
    rw [List.map_append]
    exact h.append (List.nodup_singleton key)
      (List.disjoint_singleton.2 (lookup_eq_none_iff_keys.1 hnone))
  case h_2 => rwa [keys_replaceEntry]

/-! ## Taking out entries -/

theorem lookup_filter (keep : String → Bool) (hkey : keep key = true) :
    (entries.filter (keep ·.1)).lookup key = entries.lookup key := by
  induction entries with
  | nil => rfl
  | cons old entries ih =>
      obtain ⟨k, v⟩ := old
      by_cases hk : keep k = true
      · simp [hk, List.lookup_cons, ih]
      · have hne : (key == k) = false := beq_false_of_ne (by rintro rfl; exact hk hkey)
        simp [hk, List.lookup_cons, hne, ih]

/-- Entries of other keys may be taken out before an entry is put or after it. -/
theorem filter_putEntry (keep : String → Bool) (hkey : keep key = true) :
    (putEntry key e entries).filter (keep ·.1) = putEntry key e (entries.filter (keep ·.1)) := by
  have hreplace : (replaceEntry key e entries).filter (keep ·.1) =
      replaceEntry key e (entries.filter (keep ·.1)) := by
    simp only [replaceEntry, List.filter_map]
    congr 1
    refine List.filter_congr fun old _ => ?_
    by_cases hold : old.1 = key <;> simp [hold, hkey]
  simp only [putEntry, lookup_filter keep hkey]
  split
  case h_1 => simp [hkey]
  case h_2 => exact hreplace

theorem filter_replaceEntry_of_neg (keep : String → Bool) (hkey : keep key = false) :
    (replaceEntry key e entries).filter (keep ·.1) = entries.filter (keep ·.1) := by
  rw [replaceEntry]
  induction entries with
  | nil => rfl
  | cons old entries ih =>
      rw [List.map_cons]
      by_cases hold : old.1 = key
      · rw [if_pos hold, List.filter_cons_of_neg (by simp [hkey]), ih,
          List.filter_cons_of_neg (by simp [hold, hkey])]
      · rw [if_neg hold, List.filter_cons, List.filter_cons, ih]

/-- An entry that is taken out may be put or not. -/
theorem filter_putEntry_of_neg (keep : String → Bool) (hkey : keep key = false) :
    (putEntry key e entries).filter (keep ·.1) = entries.filter (keep ·.1) := by
  unfold putEntry
  split
  case h_1 => simp [hkey]
  case h_2 => exact filter_replaceEntry_of_neg keep hkey

theorem updateEntry_filter (keep : String → Bool) (hkey : keep key = true) :
    updateEntry key change (entries.filter (keep ·.1)) =
      (updateEntry key change entries).map (·.filter (keep ·.1)) := by
  simp only [updateEntry, lookup_filter keep hkey, Option.map_map]
  congr 1
  exact funext fun e => (filter_putEntry keep hkey).symm

theorem filter_updateEntry_of_neg (keep : String → Bool) (hkey : keep key = false)
    (h : updateEntry key change entries = some entries') :
    entries'.filter (keep ·.1) = entries.filter (keep ·.1) := by
  obtain ⟨e, -, rfl⟩ := Option.map_eq_some_iff.1 h
  exact filter_putEntry_of_neg keep hkey

end

/-! ## Paths -/

/-- What a key on the way stands for after a change of the table that it leads to. -/
def within (dotted : Bool) (change : Origin → Entries → Option Entries) :
    Option Entry → Option Entry
  | none =>
      let origin := if dotted then Origin.dotted else .implied
      (change origin []).map (.table origin)
  | some (.value _) => none
  | some (.table origin sub) =>
      if dotted ∧ origin = .header then none else (change origin sub).map (.table origin)
  | some (.tables earlier last) => (change .header last).map (.tables earlier)

theorem changeAt_cons (dotted : Bool) (change : Origin → Entries → Option Entries) (key : String)
    (path : List String) (origin : Origin) (entries : Entries) :
    changeAt dotted change (key :: path) origin entries =
      updateEntry key (within dotted (changeAt dotted change path)) entries := by
  rw [changeAt, updateEntry]
  cases hlookup : entries.lookup key with
  | none =>
      simp only [within, putEntry, hlookup, Option.map_map]
      exact Option.map_eq_bind.symm
  | some e =>
      cases e with
      | value => rfl
      | table origin sub =>
          simp only [within, putEntry, hlookup]
          by_cases hclosed : dotted ∧ origin = .header
          · simp only [if_pos hclosed, Option.map_none]
          · simp only [if_neg hclosed, Option.map_map]
            exact Option.map_eq_bind.symm
      | tables earlier last =>
          simp only [within, putEntry, hlookup, Option.map_map]
          exact Option.map_eq_bind.symm

/-- What is read of an entry that is a table. -/
def tableOf : Option Entry → Entries
  | some (.table _ entries) => entries
  | _ => []

/-- Changes what a table holds. -/
def Entry.mapTable (f : Entries → Entries) : Entry → Entry
  | .table origin entries => .table origin (f entries)
  | e => e

/-- A change at the end of a path passes over what a table holds. -/
structure PassesOver (change : Option Entry → Option Entry) : Prop where
  mapTable : ∀ f : Entries → Entries, f [] = [] → ∀ e,
    change (e.map (.mapTable f)) = (change e).map (.mapTable f)
  tableOf_eq : ∀ e e', change e = some e' → tableOf (some e') = tableOf e

/-- The change of one statement to the tables, by the path of the key that it is about. It may fail
for reasons of its own. -/
inductive ActsAt : List String → (Origin → Entries → Option Entries) → Prop where
  | fails {path : List String} {act : Origin → Entries → Option Entries}
      (none : ∀ origin entries, act origin entries = none) : ActsAt path act
  | last {key : String} {act : Origin → Entries → Option Entries}
      (change : Origin → Option Entry → Option Entry)
      (passes : ∀ origin, PassesOver (change origin))
      (eq : ∀ origin entries, act origin entries = updateEntry key (change origin) entries) :
      ActsAt [key] act
  | through {key : String} {path : List String} {act inner : Origin → Entries → Option Entries}
      (dotted : Bool) (acts : ActsAt path inner)
      (eq : ∀ origin entries, act origin entries = updateEntry key (within dotted inner) entries) :
      ActsAt (key :: path) act

theorem actsAt_changeAt (dotted : Bool) {rest : List String}
    {change : Origin → Entries → Option Entries} (h : ActsAt rest change) (path : List String) :
    ActsAt (path ++ rest) (changeAt dotted change path) := by
  induction path with
  | nil => exact h
  | cons key path ih => exact .through dotted ih (changeAt_cons dotted change key path)

/-! ## Statements -/

/-- A new key gets its value. -/
def newValue (v : Toml) : Option Entry → Option Entry
  | none => some (.value v)
  | some _ => none

def openedTable : Option Entry → Option Entry
  | none => some (.table .header [])
  | some (.table .implied entries) => some (.table .header entries)
  | some _ => none

def openedArrayTable : Option Entry → Option Entry
  | none => some (.tables [] [])
  | some (.tables earlier last) => some (.tables (earlier ++ [last]) [])
  | some _ => none

theorem passesOver_newValue (v : Toml) : PassesOver (newValue v) where
  mapTable f _ e := by cases e <;> rfl
  tableOf_eq e e' h := by cases e <;> cases h; rfl

theorem passesOver_openedTable : PassesOver openedTable where
  mapTable f hf e := by
    obtain _ | _ | ⟨⟨⟩, _⟩ | _ := e <;> simp [openedTable, Entry.mapTable, hf]
  tableOf_eq e e' h := by
    obtain _ | _ | ⟨⟨⟩, _⟩ | _ := e <;> cases h <;> rfl

theorem passesOver_openedArrayTable : PassesOver openedArrayTable where
  mapTable f _ e := by obtain _ | _ | _ | _ := e <;> rfl
  tableOf_eq e e' h := by obtain _ | _ | _ | _ := e <;> cases h <;> rfl

theorem passesOver_none : PassesOver fun _ => none where
  mapTable _ _ _ := rfl
  tableOf_eq _ _ h := nomatch h

theorem assignAt_concat (front : List String) (key : String) (v : Toml) :
    assignAt (front ++ [key]) v = changeAt true (fun origin =>
      updateEntry key (if (front ++ [key]).length > 1 ∧ origin ≠ .dotted then fun _ => none
        else newValue v)) front := by
  unfold assignAt
  simp only [List.getLast?_concat, List.dropLast_concat]
  refine congrArg (changeAt true · front) (funext fun origin => funext fun entries => ?_)
  split
  case isTrue => rfl
  case isFalse => cases h : entries.lookup key <;> simp [updateEntry, newValue, putEntry, h]

theorem openTable_concat (front : List String) (key : String) :
    openTable (front ++ [key]) =
      changeAt false (fun _ => updateEntry key openedTable) front .header := by
  unfold openTable
  simp only [List.getLast?_concat, List.dropLast_concat]
  refine congrArg (changeAt false · front .header) (funext fun _ => funext fun entries => ?_)
  simp only [updateEntry]
  split
  case h_1 h => simp [openedTable, putEntry, h]
  case h_2 h => simp [openedTable, putEntry, h]
  case h_3 e hother h =>
    obtain _ | ⟨⟨⟩, _⟩ | _ := e <;> first | exact (hother _ rfl).elim | simp [openedTable, h]

theorem openArrayTable_concat (front : List String) (key : String) :
    openArrayTable (front ++ [key]) =
      changeAt false (fun _ => updateEntry key openedArrayTable) front .header := by
  unfold openArrayTable
  simp only [List.getLast?_concat, List.dropLast_concat]
  refine congrArg (changeAt false · front .header) (funext fun _ => funext fun entries => ?_)
  simp only [updateEntry]
  split
  case h_1 h => simp [openedArrayTable, putEntry, h]
  case h_2 h => simp [openedArrayTable, putEntry, h]
  case h_3 e hother h =>
    obtain _ | _ | _ := e <;>
      first | exact (hother _ _ rfl).elim | simp [openedArrayTable, h]

theorem actsAt_assignAt (path : List String) (v : Toml) : ActsAt path (assignAt path v) := by
  rcases List.eq_nil_or_concat path with rfl | ⟨front, key, rfl⟩
  case inl => exact .fails fun _ _ => rfl
  case inr =>
    rw [List.concat_eq_append, assignAt_concat]
    refine actsAt_changeAt true (.last _ (fun origin => ?_) fun _ _ => rfl) front
    split
    case isTrue => exact passesOver_none
    case isFalse => exact passesOver_newValue v

theorem actsAt_openTable (path : List String) :
    ∃ act, ActsAt path act ∧ openTable path = act .header := by
  rcases List.eq_nil_or_concat path with rfl | ⟨front, key, rfl⟩
  case inl => exact ⟨fun _ _ => none, .fails fun _ _ => rfl, rfl⟩
  case inr =>
    rw [List.concat_eq_append, openTable_concat]
    exact ⟨_, actsAt_changeAt false
      (.last _ (fun _ => passesOver_openedTable) fun _ _ => rfl) front, rfl⟩

theorem actsAt_openArrayTable (path : List String) :
    ∃ act, ActsAt path act ∧ openArrayTable path = act .header := by
  rcases List.eq_nil_or_concat path with rfl | ⟨front, key, rfl⟩
  case inl => exact ⟨fun _ _ => none, .fails fun _ _ => rfl, rfl⟩
  case inr =>
    rw [List.concat_eq_append, openArrayTable_concat]
    exact ⟨_, actsAt_changeAt false
      (.last _ (fun _ => passesOver_openedArrayTable) fun _ _ => rfl) front, rfl⟩

/-- The path of the key that a statement is about. -/
def Statement.path (current : List String) : Statement → List String
  | .assign path _ => current ++ path
  | .header path => path
  | .arrayHeader path => path

/-- The path of the table that assignments go to after a statement. -/
def Statement.next (current : List String) : Statement → List String
  | .assign _ _ => current
  | .header path => path
  | .arrayHeader path => path

theorem Builder.step_actsAt (current : List String) (s : Statement) :
    ∃ act, ActsAt (s.path current) act ∧ ∀ entries,
      Builder.step ⟨entries, current⟩ s = (act .header entries).map (⟨·, s.next current⟩) := by
  cases s with
  | header path =>
      obtain ⟨act, hacts, h⟩ := actsAt_openTable path
      exact ⟨act, hacts, fun entries => by rw [← h]; rfl⟩
  | arrayHeader path =>
      obtain ⟨act, hacts, h⟩ := actsAt_openArrayTable path
      exact ⟨act, hacts, fun entries => by rw [← h]; rfl⟩
  | assign path e =>
      cases hv : e.value? with
      | none => exact ⟨fun _ _ => none, .fails fun _ _ => rfl, fun _ => by simp [step, hv]⟩
      | some v =>
          refine ⟨_, actsAt_changeAt false (actsAt_assignAt path v) current, fun _ => ?_⟩
          simp only [step, hv, Option.bind_eq_bind, Option.bind_some]
          exact Option.map_eq_bind.symm

/-! ## What a statement leaves -/

section

variable {path : List String} {act : Origin → Entries → Option Entries} {origin : Origin}
  {entries entries' : Entries} {key : String}

/-- An action looks at the entry of one key in a table. -/
theorem ActsAt.eq_updateEntry (h : ActsAt (key :: path) act) :
    ∃ change, ∀ entries, act origin entries = updateEntry key change entries := by
  cases h with
  | fails none => exact ⟨fun _ => .none, fun entries => by rw [none]; rfl⟩
  | last change _ eq => exact ⟨change origin, eq origin⟩
  | through dotted _ eq => exact ⟨within dotted _, eq origin⟩

theorem ActsAt.eq_none (h : ActsAt [] act) : act origin entries = none := by
  cases h with
  | fails none => exact none origin entries

/-- An action gives one key an entry. -/
theorem ActsAt.exists_putEntry (h : ActsAt path act) (hact : act origin entries = some entries') :
    ∃ key rest e, path = key :: rest ∧ entries' = putEntry key e entries := by
  cases path with
  | nil => cases h.eq_none.symm.trans hact
  | cons key rest =>
      obtain ⟨change, hchange⟩ := h.eq_updateEntry
      rw [hchange] at hact
      obtain ⟨e, -, rfl⟩ := Option.map_eq_some_iff.1 hact
      exact ⟨key, rest, e, rfl, rfl⟩

/-- The tables still have no key twice. -/
theorem ActsAt.nodup (h : ActsAt path act) (hact : act origin entries = some entries')
    (hnodup : (entries.map Prod.fst).Nodup) : (entries'.map Prod.fst).Nodup := by
  obtain ⟨key, rest, e, -, rfl⟩ := h.exists_putEntry hact
  exact nodup_putEntry hnodup

/-- What was there is still there. -/
theorem ActsAt.lookup_ne_none (h : ActsAt path act) (hact : act origin entries = some entries')
    (hkey : entries.lookup key ≠ none) : entries'.lookup key ≠ none := by
  obtain ⟨other, rest, e, -, rfl⟩ := h.exists_putEntry hact
  by_cases heq : key = other
  · subst heq
    rw [lookup_putEntry_self]
    exact nofun
  · rwa [lookup_putEntry_of_ne heq]

theorem ActsAt.lookup_of_ne {other : String} (h : ActsAt (other :: path) act)
    (hact : act origin entries = some entries') (hne : key ≠ other) :
    entries'.lookup key = entries.lookup key := by
  obtain ⟨_, _, e, heq, rfl⟩ := h.exists_putEntry hact
  obtain ⟨rfl, -⟩ := List.cons.inj heq
  exact lookup_putEntry_of_ne hne

/-- A key stands for a table if it stands for anything. -/
def IsTable (e : Option Entry) : Prop :=
  e = none ∨ ∃ origin entries, e = some (.table origin entries)

/-- Below a table a statement may change anything. -/
theorem ActsAt.isTable {name : String} (h : ActsAt (key :: name :: path) act)
    (hact : act origin entries = some entries') (htable : IsTable (entries.lookup key)) :
    IsTable (entries'.lookup key) := by
  cases h with
  | fails none => cases (none origin entries).symm.trans hact
  | through dotted _ eq =>
      rw [eq] at hact
      obtain ⟨e', he', rfl⟩ := Option.map_eq_some_iff.1 hact
      rw [lookup_putEntry_self]
      obtain hnone | ⟨origin, sub, hsub⟩ := htable
      · rw [hnone] at he'
        obtain ⟨sub, -, rfl⟩ := Option.map_eq_some_iff.1 he'
        exact .inr ⟨_, sub, rfl⟩
      · simp only [hsub, within, Option.ite_none_left_eq_some] at he'
        obtain ⟨sub', -, rfl⟩ := Option.map_eq_some_iff.1 he'.2
        exact .inr ⟨origin, sub', rfl⟩

/-- A header without points opens a table. -/
theorem lookup_of_openTable (h : openTable [key] entries = some entries') :
    ∃ origin sub, entries'.lookup key = some (.table origin sub) := by
  have hopen : openTable [key] entries = updateEntry key openedTable entries :=
    congrFun (openTable_concat [] key) entries
  rw [hopen] at h
  obtain ⟨e', he', rfl⟩ := Option.map_eq_some_iff.1 h
  rw [lookup_putEntry_self]
  generalize entries.lookup key = e at he'
  obtain _ | _ | ⟨⟨⟩, _⟩ | _ := e <;> cases he' <;> exact ⟨_, _, rfl⟩

end

end Connectivity.Toml
