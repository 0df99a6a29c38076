import Connectivity.Config.File
import Connectivity.Proofs.Config.Document
import Connectivity.Proofs.Toml.Lines

/-!
# Configuration files that were saved

A configuration is loaded from the file it was saved to. The file is made of lines, the lines make
statements, the statements make tables, and the tables are those of the configuration with all its
settings.
-/
namespace Connectivity

open Toml (headerLine assignLine unlines isLine_header isLine_assign isValue_string isValue_count
  isValue_bool)

/-- TOML reads back what it writes. -/
def Toml.writer : Toml.format.Writer where
  record := .table
  string := .string
  count n := .integer n
  bool := .bool
  record?_record {names entries} h hnames := by
    have hunknown : (entries.filter fun entry => !names.contains entry.1) = [] := by
      refine List.filter_eq_nil_iff.2 fun entry hentry => ?_
      simpa [← h] using ⟨entry.2, hentry⟩
    simp only [format, fields?, hunknown, entriesReadable, if_true]
    exact Fields.ofEntries?_of_names h hnames
  string?_string _ := rfl
  count?_count {n} h := by
    simp only [format, toCount?]
    rw [if_pos ⟨Int.natCast_nonneg n, Int.ofNat_le.2 h⟩, Int.toNat_natCast]
  bool?_bool _ := rfl
  choice?_string _ _ := rfl

namespace Config

/-- The names of tables and settings. -/
def keys : List String :=
  ["topology", "topology_id", "activation", "driver_timeout_ms", "rollback_order", "validation",
    "reject_duplicate_local_ids", "min_endpoints"]

/-- None of them needs quotes. -/
theorem keys_bare : (keys.all fun key =>
    !key.toList.isEmpty && key.toList.all Toml.isBareKeyChar) = true := by
  decide +kernel

/-- The lines of a saved file. -/
def lines (c : Config) : List (List Char) :=
  [headerLine "topology",
    assignLine "topology_id" (Toml.printString c.topologyId),
    [],
    headerLine "activation",
    assignLine "driver_timeout_ms" (Text.decimal c.activation.driverTimeout),
    assignLine "rollback_order" (Toml.printString c.activation.rollbackOrder.name),
    [],
    headerLine "validation",
    assignLine "reject_duplicate_local_ids"
      (if c.validation.rejectDuplicateLocalIds then "true".toList else "false".toList),
    assignLine "min_endpoints" (Text.decimal c.validation.minEndpoints)]

/-- The statements of a saved file. -/
def statements (c : Config) : List Toml.Statement :=
  [.header ["topology"],
    .assign ["topology_id"] (.plain (.string c.topologyId)),
    .header ["activation"],
    .assign ["driver_timeout_ms"] (.plain (.integer c.activation.driverTimeout)),
    .assign ["rollback_order"] (.plain (.string c.activation.rollbackOrder.name)),
    .header ["validation"],
    .assign ["reject_duplicate_local_ids"] (.plain (.bool c.validation.rejectDuplicateLocalIds)),
    .assign ["min_endpoints"] (.plain (.integer c.validation.minEndpoints))]

theorem printString_name (o : RollbackOrder) :
    Toml.printString o.name = '"' :: (o.name.toList ++ ['"']) := by
  cases o <;> decide +kernel

theorem toToml_eq (c : Config) : c.toToml = String.ofList (unlines c.lines) := by
  refine String.toList_inj.1 ?_
  have hbool : (if c.validation.rejectDuplicateLocalIds then "true" else "false").toList =
      if c.validation.rejectDuplicateLocalIds then "true".toList else "false".toList := by
    split <;> rfl
  unfold toToml lines
  simp only [String.toList_append, String.toList_ofList, Nat.toString_eq_ofList_toDigits, hbool,
    printString_name, unlines, headerLine, assignLine, Text.decimal, List.flatMap_cons,
    List.flatMap_nil]
  simp

/-- The lines of a saved file are those of its statements. -/
theorem areLines {c : Config} (h : c.InRange) : Toml.AreLines c.lines c.statements := by
  have bare : ∀ key ∈ keys, Toml.IsBareKey key := fun key hkey =>
    Toml.isBareKey_of_check (List.all_eq_true.1 keys_bare key hkey)
  refine .line (isLine_header (bare _ (by simp [keys]))) ?_
  refine .line (isLine_assign (bare _ (by simp [keys])) (isValue_string _)) (.empty ?_)
  refine .line (isLine_header (bare _ (by simp [keys]))) ?_
  refine .line (isLine_assign (bare _ (by simp [keys])) (isValue_count h.driverTimeout_le)) ?_
  refine .line (isLine_assign (bare _ (by simp [keys])) (isValue_string _)) (.empty ?_)
  refine .line (isLine_header (bare _ (by simp [keys]))) ?_
  refine .line (isLine_assign (bare _ (by simp [keys])) (isValue_bool _)) ?_
  exact .line (isLine_assign (bare _ (by simp [keys])) (isValue_count h.minEndpoints_le)) .nil

/-- The statements make the tables of a configuration with every setting. -/
theorem ofStatements?_statements (c : Config) :
    Toml.ofStatements? c.statements = some (c.written Toml.writer) := rfl

theorem ofToml?_toToml {c : Config} (h : c.InRange) : ofToml? c.toToml = some c := by
  have hstatements : Toml.statements? c.toToml = some c.statements := by
    rw [toToml_eq, (areLines h).statements?]
  have hparse : Toml.parse? c.toToml = some (c.written Toml.writer) := by
    rw [Toml.parse?, hstatements]
    exact ofStatements?_statements c
  rw [ofToml?, hparse]
  exact read?_written Toml.writer h

end Config

/-- A file holds the text that was written to it. -/
theorem FileContent.text_ofText (s : String) : (ofText s).text = .ok s := by
  have hread : String.fromUTF8? s.toUTF8 = some s := dif_pos s.isValidUTF8
  simp only [ofText, text, hread]

namespace Config

/-- A configuration that was saved is loaded again as it was. -/
theorem load_toToml (path : String) {c : Config} (h : c.InRange) :
    load path (.ofText c.toToml) = .ok c := by
  have htext : (FileContent.ofText c.toToml).text = .ok c.toToml := FileContent.text_ofText _
  unfold load
  split
  case h_1 heq => cases heq
  case h_2 =>
    simp only [htext, bind, Except.bind, ofToml?_toToml h]
    rfl

/-- Quotes of both kinds in longer runs than any quotes allow, a backslash, ends of lines and other
control characters, and the largest count there is. -/
def awkward : Config where
  topologyId := "\n\"\"\"\"\\'''\r\n\t\x00\x7f\u2028\"\""
  activation := { driverTimeout := maxCount, rollbackOrder := .reverse }
  validation := { rejectDuplicateLocalIds := false, minEndpoints := 0 }

theorem load_toToml_awkward :
    awkward.InRange ∧ load "settings.toml" (.ofText awkward.toToml) = .ok awkward := by
  have h : awkward.InRange := ⟨by decide, by decide⟩
  exact ⟨h, load_toToml "settings.toml" h⟩

end Config

end Connectivity
