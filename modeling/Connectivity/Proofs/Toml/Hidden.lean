import Connectivity.Proofs.Toml.Tables

/-!
# Hidden entries

Entries of the tables of a document may be hidden, by the keys of table and entry. A statement whose
path leads to no hidden entry does the same to the tables with them and without them, and leaves
them as they are. So what is hidden and what is seen can be told from each other in the whole of a
document, whatever the order of its statements.
-/
namespace Connectivity.Toml

/-! ## Changes below a table -/

theorem within_mapTable {dotted : Bool} {inner : Origin → Entries → Option Entries}
    {f : Entries → Entries} (hf : f [] = [])
    (h : ∀ origin entries, inner origin (f entries) = (inner origin entries).map f)
    (e : Option Entry) :
    within dotted inner (e.map (.mapTable f)) = (within dotted inner e).map (.mapTable f) := by
  obtain _ | _ | ⟨origin, sub⟩ | ⟨earlier, last⟩ := e
  · have hempty := h (if dotted then .dotted else .implied) []
    rw [hf] at hempty
    simp only [within, Option.map_none]
    conv_lhs => rw [hempty]
    simp only [Option.map_map]
    rfl
  · rfl
  · simp only [within, Option.map_some, Entry.mapTable]
    split
    case isTrue => rfl
    case isFalse =>
      rw [h, Option.map_map, Option.map_map]
      rfl
  · simp only [within, Option.map_some, Entry.mapTable, Option.map_map]
    rfl

/-- The entries that no path leads to are as they were. -/
theorem filter_tableOf_within {dotted : Bool} {inner : Origin → Entries → Option Entries}
    {keep : String × Entry → Bool} (h : ∀ origin entries entries',
      inner origin entries = some entries' → entries'.filter keep = entries.filter keep)
    {e : Option Entry} {e' : Entry} (he : within dotted inner e = some e') :
    (tableOf (some e')).filter keep = (tableOf e).filter keep := by
  obtain _ | _ | ⟨origin, sub⟩ | ⟨earlier, last⟩ := e
  · obtain ⟨sub', hsub', rfl⟩ := Option.map_eq_some_iff.1 he
    exact h _ _ _ hsub'
  · cases he
  · simp only [within, Option.ite_none_left_eq_some] at he
    obtain ⟨-, he⟩ := he
    obtain ⟨sub', hsub', rfl⟩ := Option.map_eq_some_iff.1 he
    exact h _ _ _ hsub'
  · obtain ⟨last', -, rfl⟩ := Option.map_eq_some_iff.1 he
    rfl

/-! ## With and without hidden entries -/

section

variable {path : List String} {act : Origin → Entries → Option Entries} {origin : Origin}
  {entries entries' : Entries} {key : String} {hidden : String → String → Bool}

/-- The entries of a table that are not hidden. -/
def visible (hidden : String → String → Bool) (key : String) (entries : Entries) : Entries :=
  entries.filter fun entry => !hidden key entry.1

/-- The tables without the hidden entries of the tables in them. -/
def strip (hidden : String → String → Bool) (entries : Entries) : Entries :=
  entries.map fun entry => (entry.1, entry.2.mapTable (visible hidden entry.1))

/-- A path that does not lead to a hidden entry or through it. -/
def Spares (hidden : String → String → Bool) (path : List String) : Prop :=
  ∀ key name rest, path = key :: name :: rest → hidden key name = false

theorem keys_strip : (strip hidden entries).map Prod.fst = entries.map Prod.fst := by
  rw [strip, List.map_map]
  rfl

theorem lookup_strip : (strip hidden entries).lookup key =
    (entries.lookup key).map (.mapTable (visible hidden key)) := by
  induction entries with
  | nil => rfl
  | cons entry entries ih =>
      obtain ⟨k, e⟩ := entry
      simp only [strip, List.map_cons, List.lookup_cons] at ih ⊢
      by_cases hk : key = k
      · simp [hk]
      · simp [beq_false_of_ne hk, ih]

theorem strip_putEntry (e : Entry) : strip hidden (putEntry key e entries) =
    putEntry key (e.mapTable (visible hidden key)) (strip hidden entries) := by
  have hreplace : strip hidden (replaceEntry key e entries) =
      replaceEntry key (e.mapTable (visible hidden key)) (strip hidden entries) := by
    simp only [strip, replaceEntry, List.map_map]
    refine List.map_congr_left fun entry _ => ?_
    by_cases hentry : entry.1 = key <;> simp [hentry]
  simp only [putEntry, lookup_strip]
  cases entries.lookup key with
  | none => simp [strip]
  | some => exact hreplace

theorem strip_updateEntry {change : Option Entry → Option Entry}
    (h : ∀ e, change (e.map (.mapTable (visible hidden key))) =
      (change e).map (.mapTable (visible hidden key))) :
    updateEntry key change (strip hidden entries) =
      (updateEntry key change entries).map (strip hidden) := by
  simp only [updateEntry, lookup_strip, h, Option.map_map]
  congr 1
  exact funext fun e => (strip_putEntry e).symm

/-- Hidden entries may be taken out before a statement that spares them or after it. -/
theorem ActsAt.strip (h : ActsAt path act) (hspares : Spares hidden path) :
    act origin (strip hidden entries) = (act origin entries).map (strip hidden) := by
  cases h with
  | fails none => rw [none, none]; rfl
  | last change passes eq =>
      rw [eq, eq]
      exact strip_updateEntry ((passes origin).mapTable _ rfl)
  | @through key path _ inner dotted acts eq =>
      rw [eq, eq]
      refine strip_updateEntry (within_mapTable rfl fun origin entries => ?_)
      cases path with
      | nil => rw [acts.eq_none, acts.eq_none]; rfl
      | cons name path =>
          obtain ⟨change, hchange⟩ := acts.eq_updateEntry
          have hname := hspares key name path rfl
          rw [hchange, hchange]
          exact updateEntry_filter (fun name => !hidden key name) (by simp [hname])

/-- A statement that spares the hidden entries leaves them as they are. -/
theorem ActsAt.hidden_eq (h : ActsAt path act) (hspares : Spares hidden path)
    (hact : act origin entries = some entries') (key : String) :
    (tableOf (entries'.lookup key)).filter (hidden key ·.1) =
      (tableOf (entries.lookup key)).filter (hidden key ·.1) := by
  cases h with
  | fails none => cases (none origin entries).symm.trans hact
  | @last other _ change passes eq =>
      rw [eq] at hact
      obtain ⟨e', he', rfl⟩ := Option.map_eq_some_iff.1 hact
      by_cases heq : key = other
      · subst heq
        rw [lookup_putEntry_self, (passes origin).tableOf_eq _ _ he']
      · rw [lookup_putEntry_of_ne heq]
  | @through other path _ inner dotted acts eq =>
      rw [eq] at hact
      obtain ⟨e', he', rfl⟩ := Option.map_eq_some_iff.1 hact
      by_cases heq : key = other
      · subst heq
        rw [lookup_putEntry_self]
        refine filter_tableOf_within (fun origin entries entries' hinner => ?_) he'
        cases path with
        | nil => cases acts.eq_none.symm.trans hinner
        | cons name path =>
            obtain ⟨change, hchange⟩ := acts.eq_updateEntry
            rw [hchange] at hinner
            exact filter_updateEntry_of_neg (hidden key) (hspares key name path rfl) hinner
      · rw [lookup_putEntry_of_ne heq]

end

/-! ## Hidden values -/

section

variable {entries sub known : Entries} {origin : Origin} {key name : String} {v : Toml}
  {hidden : String → String → Bool}

/-- An entry that is put where it stands changes nothing. -/
theorem putEntry_of_lookup {e : Entry} (hnodup : (entries.map Prod.fst).Nodup)
    (h : entries.lookup key = some e) : putEntry key e entries = entries := by
  simp only [putEntry, h, replaceEntry]
  refine (List.map_congr_left fun old hold => ?_).trans (List.map_id entries)
  split
  case isTrue heq =>
    exact List.inj_on_of_nodup_map hnodup (mem_of_lookup h) hold heq.symm
  case isFalse => rfl

/-- A value for a new key of the table that a header opened. -/
theorem Builder.step_newValue (h : entries.lookup key = some (.table origin sub))
    (hnew : sub.lookup name = none) :
    Builder.step ⟨entries, [key]⟩ (.assign [name] (.plain v)) =
      some ⟨putEntry key (.table origin (sub ++ [(name, .value v)])) entries, [key]⟩ := by
  have hassign : assignAt [name] v origin sub = some (sub ++ [(name, .value v)]) := by
    simp [assignAt, changeAt, hnew]
  simp [step, Expression.value?, changeAt, putEntry, h, hassign]

/-- A hidden value makes no difference to what is not hidden. -/
theorem strip_newValue (hnodup : (entries.map Prod.fst).Nodup)
    (h : entries.lookup key = some (.table origin sub)) (hname : hidden key name = true) :
    strip hidden (putEntry key (.table origin (sub ++ [(name, .value v)])) entries) =
      strip hidden entries := by
  have hvisible : visible hidden key (sub ++ [(name, .value v)]) = visible hidden key sub := by
    simp [visible, hname]
  rw [strip_putEntry, Entry.mapTable, hvisible]
  refine putEntry_of_lookup (by rwa [keys_strip]) ?_
  rw [lookup_strip, h]
  rfl

end

/-! ## Finished tables -/

section

variable {entries sub known : Entries} {origin : Origin} {key : String}
  {hidden : String → String → Bool}

theorem finishEntries_eq_map (entries : Entries) :
    finishEntries entries = entries.map fun entry => (entry.1, entry.2.finish) := by
  induction entries with
  | nil => rfl
  | cons entry entries ih => rw [finishEntries, ih]; rfl

theorem lookup_finishEntries :
    (finishEntries entries).lookup key = (entries.lookup key).map Entry.finish := by
  induction entries with
  | nil => rfl
  | cons entry entries ih =>
      obtain ⟨k, e⟩ := entry
      rw [finishEntries, List.lookup_cons, List.lookup_cons, ih]
      cases key == k <;> rfl

theorem entriesReadable_iff {entries : List (String × Toml)} :
    entriesReadable entries = true ↔ ∀ entry ∈ entries, entry.2.isReadable = true := by
  induction entries with
  | nil => simp [entriesReadable]
  | cons entry entries ih => simp [entriesReadable, ih]

/-- The fields of a record are the known keys of its table. -/
theorem fields?_finish {names : List String}
    (hreadable : ∀ entry ∈ entries, entry.1 ∉ names → entry.2.finish.isReadable = true)
    (hknown : entries.filter (names.contains ·.1) = known) (hnodup : (known.map Prod.fst).Nodup) :
    fields? names (.table (finishEntries entries)) = some ⟨finishEntries known, true⟩ := by
  have hunknown : entriesReadable
      ((finishEntries entries).filter fun entry => !names.contains entry.1) = true := by
    refine entriesReadable_iff.2 fun finished hfinished => ?_
    obtain ⟨hmem, hunknown⟩ := List.mem_filter.1 hfinished
    rw [finishEntries_eq_map] at hmem
    obtain ⟨entry, hentry, rfl⟩ := List.mem_map.1 hmem
    exact hreadable entry hentry (by simpa using hunknown)
  have hfilter : (finishEntries entries).filter (names.contains ·.1) = finishEntries known := by
    rw [finishEntries_eq_map, finishEntries_eq_map, ← hknown, List.filter_map]
    rfl
  have hkeys : ((finishEntries known).map Prod.fst).Nodup := by
    simpa [finishEntries_eq_map, Function.comp_def] using hnodup
  simp only [fields?, hunknown, if_true, Fields.ofEntries?, hfilter, hkeys]

theorem isReadable_of_strip
    (h : (Toml.table (finishEntries (strip hidden entries))).isReadable = true)
    {entry : String × Entry} (hentry : entry ∈ entries)
    (hnone : ∀ name, hidden entry.1 name = false) : entry.2.finish.isReadable = true := by
  have hvisible : visible hidden entry.1 = id := by
    funext entries
    simp [visible, hnone]
  have hmap : entry.2.mapTable (visible hidden entry.1) = entry.2 := by
    rw [hvisible]
    cases entry.2 <;> rfl
  rw [isReadable, finishEntries_eq_map] at h
  have hmem : (entry.1, entry.2) ∈ strip hidden entries :=
    List.mem_map.2 ⟨entry, hentry, by rw [hmap]⟩
  exact entriesReadable_iff.1 h _ (List.mem_map_of_mem hmem)

theorem isReadable_below_of_strip
    (h : (Toml.table (finishEntries (strip hidden entries))).isReadable = true)
    (hkey : entries.lookup key = some (.table origin sub)) {entry : String × Entry}
    (hentry : entry ∈ sub) (hseen : hidden key entry.1 = false) :
    entry.2.finish.isReadable = true := by
  have hmem : (key, Entry.table origin (visible hidden key sub)) ∈ strip hidden entries :=
    List.mem_map.2 ⟨_, mem_of_lookup hkey, rfl⟩
  rw [isReadable, finishEntries_eq_map] at h
  have htable := entriesReadable_iff.1 h _ (List.mem_map_of_mem hmem)
  simp only [Entry.finish, isReadable, finishEntries_eq_map] at htable
  have hvisible : entry ∈ visible hidden key sub := List.mem_filter.2 ⟨hentry, by simp [hseen]⟩
  exact entriesReadable_iff.1 htable _ (List.mem_map_of_mem hvisible)

end

end Connectivity.Toml
