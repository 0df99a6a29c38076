import Connectivity.Proofs.Config.Settings

/-!
# Configuration files with parts left out

A saved file may lose the lines of settings, and the headers of sections that are empty without
them, and other keys and tables may be added. It is loaded as the configuration that was saved, but
for the settings that it lost, which have their defaults.
-/
namespace Connectivity.Config

open Toml (Statement isLine_header isLine_assign isValue_string isValue_count isValue_bool)

/-! ## Files -/

/-- A line of a configuration file. One that is added comes with the statement it makes. -/
inductive Line where
  | blank
  | header (s : Section)
  | setting (s : Setting)
  | added (text : List Char) (statement : Statement)

namespace Line

def text (c : Config) : Line → List Char
  | blank => []
  | header s => Toml.headerLine s.name
  | setting s => Toml.assignLine s.name (s.text c)
  | added text _ => text

def statement? (c : Config) : Line → Option Statement
  | blank => none
  | header s => some (.header [s.name])
  | setting s => some (.assign [s.name] (.plain (s.value c)))
  | added _ statement => some statement

def setting? : Line → Option Setting
  | setting s => some s
  | _ => none

/-- The statement of a line that is not one of a setting. -/
def frame? : Line → Option Statement
  | header s => some (.header [s.name])
  | added _ statement => some statement
  | _ => none

/-- The line is from the saved file, and not blank. -/
def isSaved : Line → Bool
  | header _ => true
  | setting _ => true
  | _ => false

/-- The line is left when some settings and headers are taken out. -/
def remains (dropped : Setting → Bool) (removed : Section → Bool) : Line → Bool
  | header s => !removed s
  | setting s => !dropped s
  | _ => true

end Line

/-- The text of a file for a configuration. -/
def fileText (c : Config) (lines : List Line) : String :=
  String.ofList (Toml.unlines (lines.map (·.text c)))

/-- A section as it is saved. -/
def sectionLines (s : Section) : List Line :=
  .header s :: (Setting.all.filter fun setting => setting.home = s).map .setting

def savedLines : List Line :=
  sectionLines .topology ++
    .blank :: (sectionLines .activation ++ .blank :: sectionLines .validation)

theorem toToml_eq_fileText (c : Config) : c.toToml = fileText c savedLines := toToml_eq c

/-- Each setting stands under the header of its section, and all that is added is unknown. -/
def arePlaced : List String → List Line → Bool
  | _, [] => true
  | current, .blank :: rest => arePlaced current rest
  | _, .header s :: rest => arePlaced [s.name] rest
  | current, .setting s :: rest => current = [s.home.name] && arePlaced current rest
  | current, .added _ statement :: rest =>
      isUnknown (statement.path current) && arePlaced (statement.next current) rest

/-- The lines of a saved file without those of some settings, and without the headers of some
sections that have lost all settings. Blank lines come and go. The lines that are added make
statements about unknown keys and tables, and all of it but the settings is a document that can be
read. -/
structure Edited (dropped : Setting → Bool) (lines : List Line) : Prop where
  saved : ∃ removed : Section → Bool, (∀ s : Setting, removed s.home = true → dropped s = true) ∧
    lines.filter Line.isSaved =
      (savedLines.filter (Line.remains dropped removed)).filter Line.isSaved
  placed : arePlaced [] lines = true
  added : ∀ text statement, .added text statement ∈ lines → Toml.IsLine text statement
  document : ∃ v, Toml.ofStatements? (lines.filterMap Line.frame?) = some v ∧ v.isReadable = true

/-! ## Statements of a file -/

section

variable {c : Config} {dropped : Setting → Bool} {lines : List Line}

/-- Line by line, a file whose lines are placed well makes its tables if it makes them without the
lines of the settings, and they hold the settings of those lines. -/
theorem Mirrors.run {given : List Setting} {b frame frame' : Toml.Builder}
    (h : Mirrors c given b frame) (hplaced : arePlaced b.current lines = true)
    (hnodup : (given ++ lines.filterMap Line.setting?).Nodup)
    (hframe : (lines.filterMap Line.frame?).foldlM Toml.Builder.step frame = some frame') :
    ∃ b', (lines.filterMap (Line.statement? c)).foldlM Toml.Builder.step b = some b' ∧
      Mirrors c (given ++ lines.filterMap Line.setting?) b' frame' := by
  induction lines generalizing given b frame with
  | nil =>
      obtain rfl := Option.some.inj hframe
      exact ⟨b, rfl, by simpa using h⟩
  | cons line lines ih =>
      cases line with
      | blank => exact ih h hplaced hnodup hframe
      | header place =>
          obtain ⟨frame₁, hframe₁, hframe⟩ := Option.bind_eq_some_iff.1 hframe
          obtain ⟨b₁, hb₁, h₁, hcurrent⟩ := h.step_header place hframe₁
          obtain ⟨b', hb', h'⟩ := ih h₁ (by rwa [hcurrent]) hnodup hframe
          exact ⟨b', Option.bind_eq_some_iff.2 ⟨b₁, hb₁, hb'⟩, h'⟩
      | setting setting =>
          simp only [arePlaced, Bool.and_eq_true, decide_eq_true_eq] at hplaced
          have hsettings : (Line.setting setting :: lines).filterMap Line.setting? =
              setting :: lines.filterMap Line.setting? := rfl
          rw [hsettings, List.append_cons] at hnodup ⊢
          have hnew : setting ∉ given := fun hmem =>
            (List.nodup_append.1 (List.nodup_append.1 hnodup).1).2.2 setting hmem setting
              List.mem_cons_self rfl
          obtain ⟨b₁, hb₁, h₁, hcurrent⟩ := h.step_setting hplaced.1 hnew
          obtain ⟨b', hb', h'⟩ := ih h₁ (by rw [hcurrent]; exact hplaced.2) hnodup hframe
          exact ⟨b', Option.bind_eq_some_iff.2 ⟨b₁, hb₁, hb'⟩, h'⟩
      | added text statement =>
          simp only [arePlaced, Bool.and_eq_true] at hplaced
          obtain ⟨frame₁, hframe₁, hframe⟩ := Option.bind_eq_some_iff.1 hframe
          obtain ⟨b₁, hb₁, h₁, hcurrent⟩ := h.step_added hplaced.1 hframe₁
          obtain ⟨b', hb', h'⟩ := ih h₁ (by rw [hcurrent]; exact hplaced.2) hnodup hframe
          exact ⟨b', Option.bind_eq_some_iff.2 ⟨b₁, hb₁, hb'⟩, h'⟩

theorem isBareKey_section (place : Section) : Toml.IsBareKey place.name :=
  Toml.isBareKey_of_check
    (List.all_eq_true.1 keys_bare _ (by cases place <;> simp [keys, Section.name]))

theorem isBareKey_setting (s : Setting) : Toml.IsBareKey s.name :=
  Toml.isBareKey_of_check
    (List.all_eq_true.1 keys_bare _ (by cases s <;> simp [keys, Setting.name]))

theorem isValue_setting (hrange : c.InRange) (s : Setting) :
    Toml.IsValue (s.text c) (s.value c) := by
  cases s with
  | topologyId => exact isValue_string _
  | driverTimeout => exact isValue_count hrange.driverTimeout_le
  | rollbackOrder => exact isValue_string _
  | rejectDuplicateLocalIds => exact isValue_bool _
  | minEndpoints => exact isValue_count hrange.minEndpoints_le

/-- The lines of a file make its statements. -/
theorem areLines_statements (hrange : c.InRange)
    (hadded : ∀ text statement, Line.added text statement ∈ lines → Toml.IsLine text statement) :
    Toml.AreLines (lines.map (Line.text c)) (lines.filterMap (Line.statement? c)) := by
  induction lines with
  | nil => exact .nil
  | cons line lines ih =>
      have hrest := ih fun text statement h => hadded text statement (List.mem_cons_of_mem line h)
      cases line with
      | blank => exact .empty hrest
      | header place => exact .line (isLine_header (isBareKey_section place)) hrest
      | setting s =>
          exact .line (isLine_assign (isBareKey_setting s) (isValue_setting hrange s)) hrest
      | added text statement =>
          exact .line (hadded text statement List.mem_cons_self) hrest

/-! ## Files with lines left out and added -/

theorem filterMap_setting?_filter_isSaved (lines : List Line) :
    (lines.filter Line.isSaved).filterMap Line.setting? = lines.filterMap Line.setting? := by
  rw [List.filterMap_filter]
  exact List.filterMap_congr fun line _ => by cases line <;> rfl

theorem filterMap_setting?_remains (removed : Section → Bool) (lines : List Line) :
    (lines.filter (Line.remains dropped removed)).filterMap Line.setting? =
      (lines.filterMap Line.setting?).filter fun s => !dropped s := by
  rw [List.filterMap_filter, List.filter_filterMap]
  refine List.filterMap_congr fun line _ => ?_
  cases line with
  | setting s => cases hs : dropped s <;> simp [Line.remains, Line.setting?, Option.filter, hs]
  | _ => simp [Line.setting?]

theorem Edited.settings (h : Edited dropped lines) :
    lines.filterMap Line.setting? = Setting.all.filter fun s => !dropped s := by
  obtain ⟨removed, -, hsaved⟩ := h.saved
  rw [← filterMap_setting?_filter_isSaved lines, hsaved, filterMap_setting?_filter_isSaved,
    filterMap_setting?_remains]
  rfl

theorem load_of_ofToml? (path : String) {text : String} (h : ofToml? text = some c) :
    load path (.ofText text) = .ok c := by
  unfold load
  split
  case h_1 heq => cases heq
  case h_2 =>
    simp only [FileContent.text_ofText, bind, Except.bind, h]
    rfl

/-- An edited file is loaded as the configuration, with the settings that it lost at their
defaults. -/
theorem load_edited (path : String) (hrange : c.InRange) (h : Edited dropped lines) :
    load path (.ofText (fileText c lines)) = .ok (c.without dropped) := by
  have hnodup : ([] ++ lines.filterMap Line.setting?).Nodup := by
    rw [List.nil_append, h.settings]
    exact List.filter_sublist.nodup (by decide)
  obtain ⟨v, hv, hreadable⟩ := h.document
  obtain ⟨frame', hframe, hv⟩ := Option.bind_eq_some_iff.1 hv
  obtain rfl := Option.some.inj hv
  obtain ⟨b', hb', hmirrors⟩ := (mirrors_nil c).run h.placed hnodup hframe
  rw [List.nil_append, h.settings] at hmirrors
  have hread := hmirrors.read?_eq hrange hreadable
  have hstatements : Toml.statements? (fileText c lines) =
      some (lines.filterMap (Line.statement? c)) :=
    (areLines_statements hrange h.added).statements?
  refine load_of_ofToml? path ?_
  rw [ofToml?, Toml.parse?, hstatements]
  simp only [Option.bind_eq_bind, Option.bind_some, Toml.ofStatements?, hb', hread]

/-! ## Saved files with lines left out -/

variable {removed : Section → Bool}

theorem sectionLines_remains (place : Section) :
    (sectionLines place).filter (Line.remains dropped removed) =
      (if removed place then [] else [.header place]) ++ (left dropped place).map .setting := by
  have hsettings : ((Setting.all.filter fun s => s.home = place).map Line.setting).filter
      (Line.remains dropped removed) = (left dropped place).map .setting := by
    rw [List.filter_map, left, List.filter_comm]
    rfl
  rw [sectionLines, List.filter_cons, hsettings]
  cases hplace : removed place <;> simp [Line.remains, hplace]

/-- What is left of a section is placed well before lines that are placed well by themselves. -/
theorem arePlaced_section (place : Section) (hremoved : ∀ s : Setting, removed s.home = true →
      dropped s = true) (rest : List Line) (hrest : ∀ current, arePlaced current rest = true)
    (current : List String) :
    arePlaced current ((sectionLines place).filter (Line.remains dropped removed) ++ rest) =
      true := by
  have hsettings : ∀ settings : List Setting, (∀ s ∈ settings, s.home = place) →
      arePlaced [place.name] (settings.map Line.setting ++ rest) = true := by
    intro settings hhome
    induction settings with
    | nil => exact hrest _
    | cons s settings ih =>
        have hs := hhome s List.mem_cons_self
        simp [arePlaced, hs, ih fun t ht => hhome t (List.mem_cons_of_mem s ht)]
  rw [sectionLines_remains]
  cases hplace : removed place with
  | false => exact hsettings _ fun s hs => (mem_left.1 hs).2
  | true =>
      have hnone : left dropped place = [] := by
        refine List.eq_nil_iff_forall_not_mem.2 fun s hs => ?_
        obtain ⟨hdropped, rfl⟩ := mem_left.1 hs
        exact absurd (hremoved s hplace) (by simp [hdropped])
      rw [hnone]
      exact hrest current

theorem savedLines_remains : savedLines.filter (Line.remains dropped removed) =
    (sectionLines .topology).filter (Line.remains dropped removed) ++
      .blank :: ((sectionLines .activation).filter (Line.remains dropped removed) ++
        .blank :: ((sectionLines .validation).filter (Line.remains dropped removed) ++ [])) := by
  rw [savedLines, List.filter_append, List.filter_cons_of_pos rfl, List.filter_append,
    List.filter_cons_of_pos rfl, List.append_nil]

/-- A saved file without the lines of some settings, and without the headers of some sections that
have lost all of theirs. -/
theorem edited_savedLines (hremoved : ∀ s : Setting, removed s.home = true → dropped s = true) :
    Edited dropped (savedLines.filter (Line.remains dropped removed)) where
  saved := ⟨removed, hremoved, rfl⟩
  placed := by
    have hvalidation := arePlaced_section .validation hremoved [] fun _ => rfl
    have hactivation := arePlaced_section .activation hremoved (.blank :: _) hvalidation
    rw [savedLines_remains]
    exact arePlaced_section .topology hremoved (.blank :: _) hactivation []
  added text statement h := by
    simp [savedLines, sectionLines] at h
  document := by
    have hsection : ∀ place : Section,
        ((sectionLines place).filter (Line.remains dropped removed)).filterMap Line.frame? =
          if removed place then [] else [.header [place.name]] := by
      intro place
      rw [sectionLines_remains]
      cases removed place <;> simp [Line.frame?]
    have hframe : (savedLines.filter (Line.remains dropped removed)).filterMap Line.frame? =
        (if removed .topology then [] else [.header ["topology"]]) ++
          ((if removed .activation then [] else [.header ["activation"]]) ++
            (if removed .validation then [] else [.header ["validation"]])) := by
      simp only [savedLines_remains, List.append_nil, List.filterMap_append, List.filterMap_cons,
        Line.frame?, hsection]
      rfl
    rw [hframe]
    cases removed .topology <;> cases removed .activation <;> cases removed .validation <;>
      exact ⟨_, rfl, rfl⟩

end

/-- What is left of a saved file is loaded with the defaults for what was left out. -/
structure PartialFiles (path : String) (c : Config) : Prop where
  toToml_eq : c.toToml = fileText c savedLines
  load_remains : ∀ (dropped : Setting → Bool) (removed : Section → Bool),
    (∀ s : Setting, removed s.home = true → dropped s = true) →
      load path (.ofText (fileText c (savedLines.filter (Line.remains dropped removed)))) =
        .ok (c.without dropped)
  load_edited : ∀ (dropped : Setting → Bool) (lines : List Line), Edited dropped lines →
    load path (.ofText (fileText c lines)) = .ok (c.without dropped)

theorem partial_files (path : String) {c : Config} (hrange : c.InRange) : PartialFiles path c where
  toToml_eq := toToml_eq_fileText c
  load_remains _ _ hremoved := load_edited path hrange (edited_savedLines hremoved)
  load_edited _ _ := load_edited path hrange

/-- The awkward configuration without its deadline and without the rules of validation, but with
keys and tables that nobody reads: before the first header, in a section, below it and after all. -/
def strangeLines : List Line :=
  [.added (Toml.assignLine "edition" (Text.decimal 2)) (.assign ["edition"] (.plain (.integer 2))),
    .header .topology, .setting .topologyId,
    .added (Toml.assignLine "contact" (Toml.printString "min_endpoints"))
      (.assign ["contact"] (.plain (.string "min_endpoints"))),
    .blank,
    .header .activation, .setting .rollbackOrder,
    .added (Toml.headerLine "min_endpoints") (.header ["min_endpoints"]),
    .added (Toml.assignLine "driver_timeout_ms" (Toml.printString "never"))
      (.assign ["driver_timeout_ms"] (.plain (.string "never")))]

theorem edited_strangeLines : Edited
    (fun s => s ∈ [.driverTimeout, .rejectDuplicateLocalIds, .minEndpoints]) strangeLines where
  saved := ⟨fun s => s = .validation, by intro s; cases s <;> decide, rfl⟩
  placed := by decide +kernel
  added text statement h := by
    have check : (["edition", "contact", "min_endpoints", "driver_timeout_ms"].all fun key =>
        !key.toList.isEmpty && key.toList.all Toml.isBareKeyChar) = true := by decide +kernel
    have bare := fun key hkey => Toml.isBareKey_of_check (List.all_eq_true.1 check key hkey)
    simp only [strangeLines, List.mem_cons, Line.added.injEq, reduceCtorEq, List.not_mem_nil,
      or_false, false_or] at h
    obtain ⟨rfl, rfl⟩ | ⟨rfl, rfl⟩ | ⟨rfl, rfl⟩ | ⟨rfl, rfl⟩ := h
    · exact isLine_assign (bare _ (by simp)) (isValue_count (by decide))
    · exact isLine_assign (bare _ (by simp)) (isValue_string _)
    · exact isLine_header (bare _ (by simp))
    · exact isLine_assign (bare _ (by simp)) (isValue_string _)
  document := ⟨_, rfl, rfl⟩

theorem load_strangeLines : awkward.InRange ∧
    load "settings.toml" (.ofText (fileText awkward strangeLines)) =
      .ok { topologyId := awkward.topologyId, activation := { rollbackOrder := .reverse } } := by
  have hrange : awkward.InRange := ⟨by decide, by decide⟩
  exact ⟨hrange, (partial_files "settings.toml" hrange).load_edited _ _ edited_strangeLines⟩

end Connectivity.Config
