/-!
# Attributes

Settings of an endpoint that are passed on to drivers: keys with values, each key once and in
ascending order, so that equal attributes are equal values.
-/
namespace Connectivity

/-- Pairs with strictly ascending keys. -/
structure Attributes where
  entries : List (String × String)
  ascending : entries.Pairwise fun a b => a.1 < b.1
  deriving Repr

namespace Attributes

instance : DecidableEq Attributes := fun a b =>
  decidable_of_iff (a.entries = b.entries) (by cases a; cases b; simp)

@[ext] theorem ext_entries {a b : Attributes} (h : a.entries = b.entries) : a = b := by
  cases a; cases b; simpa using h

def empty : Attributes := ⟨[], .nil⟩

/-- Puts a pair in its place; a pair with the same key gives way. -/
def insertEntry (key value : String) : List (String × String) → List (String × String)
  | [] => [(key, value)]
  | entry :: rest =>
      if key < entry.1 then (key, value) :: entry :: rest
      else if key = entry.1 then (key, value) :: rest
      else entry :: insertEntry key value rest

theorem mem_insertEntry {key value : String} {entries : List (String × String)}
    {entry : String × String} (h : entry ∈ insertEntry key value entries) :
    entry = (key, value) ∨ entry ∈ entries := by
  induction entries with
  | nil => simpa [insertEntry] using h
  | cons first rest ih =>
      simp only [insertEntry] at h
      split at h
      · simpa using h
      · split at h
        · rcases List.mem_cons.1 h with h | h
          · exact .inl h
          · exact .inr (List.mem_cons_of_mem _ h)
        · rcases List.mem_cons.1 h with h | h
          · exact .inr (h ▸ List.mem_cons_self)
          · exact (ih h).imp_right (List.mem_cons_of_mem _)

theorem insertEntry_ascending (key value : String) {entries : List (String × String)}
    (h : entries.Pairwise fun a b => a.1 < b.1) :
    (insertEntry key value entries).Pairwise fun a b => a.1 < b.1 := by
  induction entries with
  | nil => simp [insertEntry]
  | cons first rest ih =>
      obtain ⟨hfirst, hrest⟩ := List.pairwise_cons.1 h
      simp only [insertEntry]
      split
      case isTrue hlt =>
        refine List.pairwise_cons.2 ⟨fun entry hentry => ?_, h⟩
        rcases List.mem_cons.1 hentry with rfl | hentry
        · exact hlt
        · exact String.lt_trans hlt (hfirst entry hentry)
      case isFalse hlt =>
        split
        case isTrue heq =>
          exact List.pairwise_cons.2 ⟨fun entry hentry => heq ▸ hfirst entry hentry, hrest⟩
        case isFalse hne =>
          refine List.pairwise_cons.2 ⟨fun entry hentry => ?_, ih hrest⟩
          rcases mem_insertEntry hentry with rfl | hentry
          · exact Std.lt_of_le_of_ne (String.not_lt.1 hlt) (Ne.symm hne)
          · exact hfirst entry hentry

def insert (a : Attributes) (key value : String) : Attributes :=
  ⟨insertEntry key value a.entries, insertEntry_ascending key value a.ascending⟩

/-- Of pairs with one key the last one counts. -/
def ofList (pairs : List (String × String)) : Attributes :=
  pairs.foldl (fun a pair => a.insert pair.1 pair.2) empty

end Attributes

end Connectivity
