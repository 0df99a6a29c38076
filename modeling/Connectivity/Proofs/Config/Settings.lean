import Connectivity.Proofs.Config.File
import Connectivity.Proofs.Toml.Hidden

/-!
# Settings in the tables of a document

Statements about other keys do the same to the tables of a document with the settings and without
them. So what else a document holds can be followed by itself, and each setting is found in its
section as it was given. One that was not given has its default.
-/
namespace Connectivity.Config

open Toml (Statement Entries strip tableOf IsTable)

/-! ## Settings -/

/-- The sections of a configuration, each a table of its document. -/
inductive Section where
  | topology
  | activation
  | validation
  deriving DecidableEq, Repr

/-- The settings of a configuration, each a key of a section. -/
inductive Setting where
  | topologyId
  | driverTimeout
  | rollbackOrder
  | rejectDuplicateLocalIds
  | minEndpoints
  deriving DecidableEq, Repr

def Section.name : Section → String
  | topology => "topology"
  | activation => "activation"
  | validation => "validation"

def sectionNames : List String := ["topology", "activation", "validation"]

namespace Setting

def all : List Setting :=
  [topologyId, driverTimeout, rollbackOrder, rejectDuplicateLocalIds, minEndpoints]

def name : Setting → String
  | topologyId => "topology_id"
  | driverTimeout => "driver_timeout_ms"
  | rollbackOrder => "rollback_order"
  | rejectDuplicateLocalIds => "reject_duplicate_local_ids"
  | minEndpoints => "min_endpoints"

/-- The section that a setting belongs to. -/
def home : Setting → Section
  | topologyId => .topology
  | driverTimeout => .activation
  | rollbackOrder => .activation
  | rejectDuplicateLocalIds => .validation
  | minEndpoints => .validation

def value (c : Config) : Setting → Toml
  | topologyId => .string c.topologyId
  | driverTimeout => .integer c.activation.driverTimeout
  | rollbackOrder => .string c.activation.rollbackOrder.name
  | rejectDuplicateLocalIds => .bool c.validation.rejectDuplicateLocalIds
  | minEndpoints => .integer c.validation.minEndpoints

def text (c : Config) : Setting → List Char
  | topologyId => Toml.printString c.topologyId
  | driverTimeout => Text.decimal c.activation.driverTimeout
  | rollbackOrder => Toml.printString c.activation.rollbackOrder.name
  | rejectDuplicateLocalIds =>
      if c.validation.rejectDuplicateLocalIds then "true".toList else "false".toList
  | minEndpoints => Text.decimal c.validation.minEndpoints

end Setting

/-- There is a setting of that name in the section of that name. -/
def isSetting (key name : String) : Bool :=
  Setting.all.any fun s => s.home.name = key ∧ s.name = name

/-- A configuration with some settings at their defaults. -/
def without (c : Config) (dropped : Setting → Bool) : Config :=
  let default : Config := {}
  { topologyId := if dropped .topologyId then default.topologyId else c.topologyId
    activation :=
      { driverTimeout := if dropped .driverTimeout then default.activation.driverTimeout
          else c.activation.driverTimeout
        rollbackOrder := if dropped .rollbackOrder then default.activation.rollbackOrder
          else c.activation.rollbackOrder }
    validation :=
      { rejectDuplicateLocalIds := if dropped .rejectDuplicateLocalIds
          then default.validation.rejectDuplicateLocalIds
          else c.validation.rejectDuplicateLocalIds
        minEndpoints := if dropped .minEndpoints then default.validation.minEndpoints
          else c.validation.minEndpoints } }

/-- What an added key or header is about: no section itself and no setting. -/
def isUnknown : List String → Bool
  | [] => false
  | [key] => !sectionNames.contains key
  | key :: name :: _ => !isSetting key name

/-! ## Tables with and without the settings -/

theorem isSetting_home (s : Setting) : isSetting s.home.name s.name = true := by
  cases s <;> decide

theorem name_injective {s t : Setting} (h : s.name = t.name) : s = t := by
  revert h
  cases s <;> cases t <;> decide

theorem section_name_injective {s t : Section} (h : s.name = t.name) : s = t := by
  revert h
  cases s <;> cases t <;> decide

/-- The entry that the line of a setting makes. -/
def settingEntry (c : Config) (s : Setting) : String × Toml.Entry := (s.name, .value (s.value c))

/-- The tables `b` that a file makes hold the given settings, and besides them what the tables
`frame` hold, which the file makes without the lines of its settings. -/
structure Mirrors (c : Config) (given : List Setting) (b frame : Toml.Builder) : Prop where
  current : frame.current = b.current
  entries : frame.entries = strip isSetting b.entries
  nodup : (b.entries.map Prod.fst).Nodup
  isTable : ∀ place : Section, IsTable (b.entries.lookup place.name)
  opened : ∀ place : Section, b.current = [place.name] → b.entries.lookup place.name ≠ none
  settings : ∀ place : Section,
    (tableOf (b.entries.lookup place.name)).filter (isSetting place.name ·.1) =
      (given.filter fun setting => setting.home = place).map (settingEntry c)

theorem mirrors_nil (c : Config) : Mirrors c [] ⟨[], []⟩ ⟨[], []⟩ where
  current := rfl
  entries := rfl
  nodup := List.nodup_nil
  isTable _ := .inl rfl
  opened _ h := by cases h
  settings _ := rfl

namespace Mirrors

variable {c : Config} {given : List Setting} {b frame frame' : Toml.Builder}

/-- A statement that spares the settings does the same to both tables. -/
theorem step_spares (h : Mirrors c given b frame) {statement : Statement}
    (hspares : Toml.Spares isSetting (statement.path b.current))
    (hstep : frame.step statement = some frame') :
    ∃ act entries, Toml.ActsAt (statement.path b.current) act ∧
      act .header b.entries = some entries ∧
      b.step statement = some ⟨entries, statement.next b.current⟩ ∧
      frame' = ⟨strip isSetting entries, statement.next b.current⟩ := by
  obtain ⟨act, hacts, hact⟩ := Toml.Builder.step_actsAt b.current statement
  have hframe : frame = ⟨strip isSetting b.entries, b.current⟩ := by rw [← h.entries, ← h.current]
  rw [hframe, hact, hacts.strip hspares, Option.map_map] at hstep
  obtain ⟨entries, hentries, rfl⟩ := Option.map_eq_some_iff.1 hstep
  exact ⟨act, entries, hacts, hentries, by rw [hact b.entries, hentries]; rfl, rfl⟩

theorem of_spares (h : Mirrors c given b frame) {path current : List String} {entries : Entries}
    {act : Toml.Origin → Entries → Option Entries} (hacts : Toml.ActsAt path act)
    (hspares : Toml.Spares isSetting path) (hentries : act .header b.entries = some entries)
    (isTable : ∀ place : Section, IsTable (entries.lookup place.name))
    (opened : ∀ place : Section, current = [place.name] → entries.lookup place.name ≠ none) :
    Mirrors c given ⟨entries, current⟩ ⟨strip isSetting entries, current⟩ where
  current := rfl
  entries := rfl
  nodup := hacts.nodup hentries h.nodup
  isTable := isTable
  opened := opened
  settings place := (hacts.hidden_eq hspares hentries place.name).trans (h.settings place)

theorem step_header (h : Mirrors c given b frame) (place : Section)
    (hstep : frame.step (.header [place.name]) = some frame') :
    ∃ b', b.step (.header [place.name]) = some b' ∧ Mirrors c given b' frame' ∧
      b'.current = [place.name] := by
  have hspares : Toml.Spares isSetting ((Statement.header [place.name]).path b.current) :=
    fun _ _ _ heq => by cases heq
  obtain ⟨act, entries, hacts, hentries, hb, rfl⟩ := h.step_spares hspares hstep
  obtain ⟨opened, hopen, hopened⟩ := Option.map_eq_some_iff.1 hb
  obtain rfl : opened = entries := congrArg Toml.Builder.entries hopened
  obtain ⟨origin, sub, hlookup⟩ := Toml.lookup_of_openTable hopen
  refine ⟨_, hb, h.of_spares hacts hspares hentries (fun other => ?_) fun other heq => ?_, rfl⟩
  · by_cases hother : other = place
    · exact hother ▸ .inr ⟨origin, sub, hlookup⟩
    · have hne : other.name ≠ place.name := fun heq => hother (section_name_injective heq)
      exact hacts.lookup_of_ne hentries hne ▸ h.isTable other
  · rw [← (List.cons.inj heq).1, hlookup]
    exact nofun

theorem spares_of_isUnknown {path : List String} (h : isUnknown path = true) :
    Toml.Spares isSetting path := by
  rintro key name rest rfl
  simpa [isUnknown] using h

theorem not_isUnknown_section (place : Section) : isUnknown [place.name] = false := by
  cases place <;> decide

theorem isTable_of_isUnknown {path : List String} {act : Toml.Origin → Entries → Option Entries}
    {entries entries' : Entries} (hunknown : isUnknown path = true) (hacts : Toml.ActsAt path act)
    (hentries : act .header entries = some entries') {place : Section}
    (h : IsTable (entries.lookup place.name)) : IsTable (entries'.lookup place.name) := by
  obtain _ | ⟨key, rest⟩ := path
  · cases hunknown
  by_cases hkey : place.name = key
  · subst hkey
    obtain _ | ⟨name, rest⟩ := rest
    · rw [not_isUnknown_section] at hunknown
      cases hunknown
    · exact hacts.isTable hentries h
  · exact hacts.lookup_of_ne hentries hkey ▸ h

theorem step_added (h : Mirrors c given b frame) {statement : Statement}
    (hunknown : isUnknown (statement.path b.current) = true)
    (hstep : frame.step statement = some frame') :
    ∃ b', b.step statement = some b' ∧ Mirrors c given b' frame' ∧
      b'.current = statement.next b.current := by
  have hspares := spares_of_isUnknown hunknown
  obtain ⟨act, entries, hacts, hentries, hb, rfl⟩ := h.step_spares hspares hstep
  refine ⟨_, hb, h.of_spares hacts hspares hentries
    (fun place => isTable_of_isUnknown hunknown hacts hentries (h.isTable place))
    fun place heq => ?_, rfl⟩
  -- No added header is that of a section, so that the section was open before.
  cases statement with
  | assign => exact hacts.lookup_ne_none hentries (h.opened place heq)
  | header path =>
      obtain rfl : path = [place.name] := heq
      cases (not_isUnknown_section place).symm.trans hunknown
  | arrayHeader path =>
      obtain rfl : path = [place.name] := heq
      cases (not_isUnknown_section place).symm.trans hunknown

/-- A section that is there holds the given settings that belong to it. -/
theorem filter_of_lookup (h : Mirrors c given b frame) {place : Section} {origin : Toml.Origin}
    {sub : Entries} (hlookup : b.entries.lookup place.name = some (.table origin sub)) :
    sub.filter (isSetting place.name ·.1) =
      (given.filter fun setting => setting.home = place).map (settingEntry c) := by
  have hsettings := h.settings place
  rwa [hlookup, tableOf] at hsettings

theorem lookup_of_not_mem (h : Mirrors c given b frame) {setting : Setting}
    (hnew : setting ∉ given) {origin : Toml.Origin} {sub : Entries}
    (hlookup : b.entries.lookup setting.home.name = some (.table origin sub)) :
    sub.lookup setting.name = none := by
  refine lookup_eq_none_iff_keys.2 fun hmem => hnew ?_
  obtain ⟨⟨name, e⟩, hentry, rfl⟩ := List.mem_map.1 hmem
  have hfilter : (setting.name, e) ∈ sub.filter (isSetting setting.home.name ·.1) :=
    List.mem_filter.2 ⟨hentry, isSetting_home setting⟩
  rw [h.filter_of_lookup hlookup] at hfilter
  obtain ⟨other, hother, heq⟩ := List.mem_map.1 hfilter
  obtain rfl : other = setting := name_injective (congrArg Prod.fst heq)
  exact (List.mem_filter.1 hother).1

/-- The line of a setting that was not given yet, in its section. -/
theorem step_setting (h : Mirrors c given b frame) {setting : Setting}
    (hcurrent : b.current = [setting.home.name]) (hnew : setting ∉ given) :
    ∃ b', b.step (.assign [setting.name] (.plain (setting.value c))) = some b' ∧
      Mirrors c (given ++ [setting]) b' frame ∧ b'.current = b.current := by
  obtain ⟨origin, sub, hlookup⟩ :=
    (h.isTable setting.home).resolve_left (h.opened setting.home hcurrent)
  have hfree := h.lookup_of_not_mem hnew hlookup
  obtain ⟨entries, current⟩ := b
  obtain rfl : current = [setting.home.name] := hcurrent
  refine ⟨_, Toml.Builder.step_newValue hlookup hfree, ?_, rfl⟩
  exact {
    current := h.current
    entries := h.entries.trans
      (Toml.strip_newValue h.nodup hlookup (isSetting_home setting)).symm
    nodup := Toml.nodup_putEntry h.nodup
    isTable := fun place => by
      by_cases hplace : place.name = setting.home.name
      · rw [hplace, Toml.lookup_putEntry_self]
        exact .inr ⟨_, _, rfl⟩
      · rw [Toml.lookup_putEntry_of_ne hplace]
        exact h.isTable place
    opened := fun place heq => by
      rw [← (List.cons.inj heq).1, Toml.lookup_putEntry_self]
      exact nofun
    settings := fun place => by
      by_cases hplace : place = setting.home
      · subst hplace
        rw [Toml.lookup_putEntry_self, tableOf, List.filter_append, h.filter_of_lookup hlookup]
        simp [isSetting_home, settingEntry]
      · have hne : place.name ≠ setting.home.name := fun heq =>
          hplace (section_name_injective heq)
        rw [Toml.lookup_putEntry_of_ne hne, h.settings place]
        simp [Ne.symm hplace] }

end Mirrors

/-! ## Reading the tables -/

/-- The settings of a section that are left. -/
def left (dropped : Setting → Bool) (place : Section) : List Setting :=
  (Setting.all.filter fun s => !dropped s).filter fun s => s.home = place

/-- What a section gives if some settings are left out. -/
def leftFields (c : Config) (dropped : Setting → Bool) (place : Section) : Fields Toml :=
  ⟨(left dropped place).map fun s => (s.name, s.value c), true⟩

section

variable {c : Config} {dropped : Setting → Bool} {place : Section}

theorem mem_left {s : Setting} : s ∈ left dropped place ↔ dropped s = false ∧ s.home = place := by
  have hall : s ∈ Setting.all := by cases s <;> decide
  simp [left, hall, and_comm]

theorem left_names_nodup : ((left dropped place).map Setting.name).Nodup := by
  have hsublist : (left dropped place).Sublist Setting.all :=
    List.filter_sublist.trans List.filter_sublist
  exact (hsublist.map Setting.name).nodup (by decide)

/-- A setting that is left out has its default, and another one what it was saved as. -/
theorem orDefault_left {α : Type} (s : Setting) (hplace : s.home = place) {default x : α}
    {read : Toml → Option α} (hread : read (s.value c) = some x) :
    (leftFields c dropped place).orDefault s.name default read =
      some (if dropped s then default else x) := by
  have hnodup : ((leftFields c dropped place).given.map Prod.fst).Nodup := by
    simpa [leftFields, Function.comp_def] using left_names_nodup
  cases hdropped : dropped s with
  | false =>
      have hget : (leftFields c dropped place).get? s.name = some (s.value c) :=
        (Fields.get?_eq_some_iff hnodup).2
          (List.mem_map.2 ⟨s, mem_left.2 ⟨hdropped, hplace⟩, rfl⟩)
      simp [Fields.orDefault, hget, hread]
  | true =>
      have hget : (leftFields c dropped place).get? s.name = none := by
        refine Fields.get?_eq_none_iff.2 fun hmem => ?_
        simp only [List.map_map, List.mem_map] at hmem
        obtain ⟨t, ht, heq⟩ := hmem
        obtain rfl : t = s := name_injective heq
        exact absurd (mem_left.1 ht).1 (by simp [hdropped])
      simp [Fields.orDefault, hget]

/-- The names of the settings of each section. -/
def settingNames (place : Section) : List String :=
  (Setting.all.filter fun s => s.home = place).map Setting.name

theorem isSetting_eq_contains (place : Section) (name : String) :
    isSetting place.name name = (settingNames place).contains name := by
  have hname : ∀ s : Setting, s.home.name = place.name ↔ s.home = place :=
    fun s => ⟨section_name_injective, congrArg Section.name⟩
  rw [Bool.eq_iff_iff]
  simp only [isSetting, settingNames, List.any_eq_true, decide_eq_true_eq, List.contains_iff_mem,
    List.mem_map, List.mem_filter, hname, and_assoc]

/-- What the reader of a section finds in it. -/
theorem Mirrors.fields?_section {b frame : Toml.Builder} {origin : Toml.Origin} {sub : Entries}
    (h : Mirrors c (Setting.all.filter fun s => !dropped s) b frame)
    (hreadable : (Toml.table (Toml.finishEntries frame.entries)).isReadable = true)
    (hlookup : b.entries.lookup place.name = some (.table origin sub)) :
    Toml.fields? (settingNames place) (.table (Toml.finishEntries sub)) =
      some (leftFields c dropped place) := by
  have hknown : sub.filter ((settingNames place).contains ·.1) =
      (left dropped place).map (settingEntry c) := by
    simp only [← isSetting_eq_contains]
    exact h.filter_of_lookup hlookup
  have hnodup : (((left dropped place).map (settingEntry c)).map Prod.fst).Nodup := by
    simpa [settingEntry, Function.comp_def] using left_names_nodup
  have hread := Toml.fields?_finish (fun entry hentry hunknown => ?_) hknown hnodup
  · rw [hread, Toml.finishEntries_eq_map, List.map_map]
    rfl
  · rw [h.entries] at hreadable
    refine Toml.isReadable_below_of_strip hreadable hlookup hentry ?_
    rw [isSetting_eq_contains]
    simpa using hunknown

/-- A section that is not there has lost all its settings. -/
theorem Mirrors.dropped_of_lookup_eq_none {b frame : Toml.Builder}
    (h : Mirrors c (Setting.all.filter fun s => !dropped s) b frame)
    (hnone : b.entries.lookup place.name = none) {setting : Setting}
    (hhome : setting.home = place) : dropped setting = true := by
  have hempty : left dropped place = [] := by
    have hsettings := h.settings place
    rw [hnone] at hsettings
    exact List.map_eq_nil_iff.1 hsettings.symm
  by_contra hdropped
  have hmem := mem_left.2 ⟨Bool.eq_false_iff.2 hdropped, hhome⟩
  rw [hempty] at hmem
  cases hmem

/-- A section is read from what is left of it, and has its default if it is not there. -/
theorem Mirrors.orDefault_section {α : Type} {default x : α} {read : Toml → Option α}
    {b frame : Toml.Builder} {f : Fields Toml}
    (h : Mirrors c (Setting.all.filter fun s => !dropped s) b frame)
    (hreadable : (Toml.table (Toml.finishEntries frame.entries)).isReadable = true)
    (hget : f.get? place.name = (b.entries.lookup place.name).map Toml.Entry.finish)
    (hdefault : (∀ s : Setting, s.home = place → dropped s = true) → default = x)
    (hread : ∀ v, Toml.fields? (settingNames place) v = some (leftFields c dropped place) →
      read v = some x) : f.orDefault place.name default read = some x := by
  rw [Fields.orDefault, hget]
  obtain hnone | ⟨origin, sub, hsub⟩ := h.isTable place
  · rw [hnone]
    exact congrArg some (hdefault fun _ => h.dropped_of_lookup_eq_none hnone)
  · rw [hsub]
    exact hread _ (h.fields?_section hreadable hsub)

theorem readTopologyId?_left {v : Toml}
    (h : Toml.fields? (settingNames .topology) v = some (leftFields c dropped .topology)) :
    readTopologyId? Toml.format v = some (c.without dropped).topologyId := by
  have hrecord : Toml.format.record? ["topology_id"] v = _ := h
  rw [readTopologyId?, hrecord]
  exact orDefault_left .topologyId rfl rfl

theorem activation_read?_left (hrange : c.InRange) {v : Toml}
    (h : Toml.fields? (settingNames .activation) v = some (leftFields c dropped .activation)) :
    ActivationSettings.read? Toml.format v = some (c.without dropped).activation := by
  have hrecord : Toml.format.record? ["driver_timeout_ms", "rollback_order"] v = _ := h
  have htimeout : (leftFields c dropped .activation).orDefault "driver_timeout_ms"
      ({} : ActivationSettings).driverTimeout Toml.format.count? =
        some (c.without dropped).activation.driverTimeout :=
    orDefault_left .driverTimeout rfl (Toml.writer.count?_count hrange.driverTimeout_le)
  have horder : (leftFields c dropped .activation).orDefault "rollback_order"
      ({} : ActivationSettings).rollbackOrder (Toml.format.choice? RollbackOrder.ofName?) =
        some (c.without dropped).activation.rollbackOrder :=
    orDefault_left .rollbackOrder rfl (RollbackOrder.ofName?_name _)
  simp only [ActivationSettings.read?, hrecord, htimeout, horder, Option.bind_eq_bind,
    Option.bind_some]
  rfl

theorem validation_read?_left (hrange : c.InRange) {v : Toml}
    (h : Toml.fields? (settingNames .validation) v = some (leftFields c dropped .validation)) :
    ValidationSettings.read? Toml.format v = some (c.without dropped).validation := by
  have hrecord : Toml.format.record? ["reject_duplicate_local_ids", "min_endpoints"] v = _ := h
  have hreject : (leftFields c dropped .validation).orDefault "reject_duplicate_local_ids"
      ({} : ValidationSettings).rejectDuplicateLocalIds Toml.format.bool? =
        some (c.without dropped).validation.rejectDuplicateLocalIds :=
    orDefault_left .rejectDuplicateLocalIds rfl rfl
  have hleast : (leftFields c dropped .validation).orDefault "min_endpoints"
      ({} : ValidationSettings).minEndpoints Toml.format.count? =
        some (c.without dropped).validation.minEndpoints :=
    orDefault_left .minEndpoints rfl (Toml.writer.count?_count hrange.minEndpoints_le)
  simp only [ValidationSettings.read?, hrecord, hreject, hleast, Option.bind_eq_bind,
    Option.bind_some]
  rfl

theorem not_isSetting {key : String} (h : key ∉ sectionNames) (name : String) :
    isSetting key name = false := by
  refine List.any_eq_false.2 fun s _ hs => h ?_
  have hhome : s.home.name = key := (of_decide_eq_true hs).1
  rw [← hhome]
  cases s <;> decide

theorem Mirrors.exists_fields {b frame : Toml.Builder} {given : List Setting}
    (h : Mirrors c given b frame)
    (hreadable : (Toml.table (Toml.finishEntries frame.entries)).isReadable = true) :
    ∃ f, Toml.fields? sectionNames (.table (Toml.finishEntries b.entries)) = some f ∧
      ∀ place : Section,
        f.get? place.name = (b.entries.lookup place.name).map Toml.Entry.finish := by
  have hnodup : ((b.entries.filter (sectionNames.contains ·.1)).map Prod.fst).Nodup :=
    (List.filter_sublist.map Prod.fst).nodup h.nodup
  rw [h.entries] at hreadable
  refine ⟨_, Toml.fields?_finish (fun entry hentry hunknown =>
    Toml.isReadable_of_strip hreadable hentry (not_isSetting hunknown)) rfl hnodup,
    fun place => ?_⟩
  have hknown : sectionNames.contains place.name = true := by cases place <;> decide
  rw [Fields.get?, Toml.lookup_finishEntries, Toml.lookup_filter sectionNames.contains hknown]

/-- The settings that are left are read as they were saved, and the others have their defaults. -/
theorem Mirrors.read?_eq (hrange : c.InRange) {b frame : Toml.Builder}
    (h : Mirrors c (Setting.all.filter fun s => !dropped s) b frame)
    (hreadable : (Toml.table (Toml.finishEntries frame.entries)).isReadable = true) :
    read? Toml.format (.table (Toml.finishEntries b.entries)) = some (c.without dropped) := by
  obtain ⟨f, hrecord, hget⟩ := h.exists_fields hreadable
  have hrecord : Toml.format.record? ["topology", "activation", "validation"]
      (.table (Toml.finishEntries b.entries)) = some f := hrecord
  have htopology : f.orDefault "topology" ({} : Config).topologyId
      (readTopologyId? Toml.format) = some (c.without dropped).topologyId :=
    h.orDefault_section hreadable (hget .topology)
      (fun hall => by simp [without, hall .topologyId rfl]) fun v => readTopologyId?_left
  have hactivation : f.orDefault "activation" ({} : Config).activation
      (ActivationSettings.read? Toml.format) = some (c.without dropped).activation :=
    h.orDefault_section hreadable (hget .activation)
      (fun hall => by simp [without, hall .driverTimeout rfl, hall .rollbackOrder rfl])
      fun v => activation_read?_left hrange
  have hvalidation : f.orDefault "validation" ({} : Config).validation
      (ValidationSettings.read? Toml.format) = some (c.without dropped).validation :=
    h.orDefault_section hreadable (hget .validation)
      (fun hall => by simp [without, hall .rejectDuplicateLocalIds rfl, hall .minEndpoints rfl])
      fun v => validation_read?_left hrange
  simp only [read?, hrecord, htopology, hactivation, hvalidation, Option.bind_eq_bind,
    Option.bind_some]
  rfl

end

end Connectivity.Config
