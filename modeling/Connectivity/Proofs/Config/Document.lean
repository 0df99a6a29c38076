import Connectivity.Config.File
import Connectivity.Proofs.Document.Fields

/-!
# Configurations written with every setting

The reader of configurations leaves the format of the document open. So does what is said here of
it: in any format in which records, strings, counts and truth values are read as they are written,
a configuration with all its settings is read back, if its counts are counts of a document. What a
reader returns always has such counts.
-/
namespace Connectivity

/-- How values are written so that a format reads them back. -/
structure DocumentFormat.Writer {ν : Type} (format : DocumentFormat ν) where
  record : List (String × ν) → ν
  string : String → ν
  count : Nat → ν
  bool : Bool → ν
  record?_record : ∀ {names : List String} {entries : List (String × ν)},
    entries.map Prod.fst = names → names.Nodup →
      format.record? names (record entries) = some ⟨entries, true⟩
  string?_string : ∀ s, format.string? (string s) = some s
  count?_count : ∀ {n}, n ≤ maxCount → format.count? (count n) = some n
  bool?_bool : ∀ b, format.bool? (bool b) = some b
  choice?_string : ∀ {α : Type} (ofName? : String → Option α) (name : String),
    format.choice? ofName? (string name) = ofName? name

namespace Config

/-- The counts of a configuration are small enough for a document. -/
structure InRange (c : Config) : Prop where
  driverTimeout_le : c.activation.driverTimeout ≤ maxCount
  minEndpoints_le : c.validation.minEndpoints ≤ maxCount

variable {ν : Type} {format : DocumentFormat ν}

/-- A configuration with every setting written. -/
def written (w : format.Writer) (c : Config) : ν :=
  w.record [
    ("topology", w.record [("topology_id", w.string c.topologyId)]),
    ("activation", w.record [("driver_timeout_ms", w.count c.activation.driverTimeout),
      ("rollback_order", w.string c.activation.rollbackOrder.name)]),
    ("validation", w.record [
      ("reject_duplicate_local_ids", w.bool c.validation.rejectDuplicateLocalIds),
      ("min_endpoints", w.count c.validation.minEndpoints)])]

theorem read?_written (w : format.Writer) {c : Config} (h : c.InRange) :
    read? format (c.written w) = some c := by
  have topology : readTopologyId? format (w.record [("topology_id", w.string c.topologyId)]) =
      some c.topologyId := by
    simp [readTopologyId?, w.record?_record, w.string?_string, Fields.orDefault]
  have activation : ActivationSettings.read? format (w.record [
      ("driver_timeout_ms", w.count c.activation.driverTimeout),
      ("rollback_order", w.string c.activation.rollbackOrder.name)]) = some c.activation := by
    simp [ActivationSettings.read?, w.record?_record, w.count?_count h.driverTimeout_le,
      w.choice?_string, RollbackOrder.ofName?_name, Fields.orDefault]
  have validation : ValidationSettings.read? format (w.record [
      ("reject_duplicate_local_ids", w.bool c.validation.rejectDuplicateLocalIds),
      ("min_endpoints", w.count c.validation.minEndpoints)]) = some c.validation := by
    simp [ValidationSettings.read?, w.record?_record, w.count?_count h.minEndpoints_le,
      w.bool?_bool, Fields.orDefault]
  simp [read?, written, w.record?_record, topology, activation, validation, Fields.orDefault]

theorem inRange_of_read? (hcount : ∀ v n, format.count? v = some n → n ≤ maxCount) {v : ν}
    {c : Config} (h : read? format v = some c) : c.InRange := by
  have activation : ∀ v a, ActivationSettings.read? format v = some a →
      a.driverTimeout ≤ maxCount := by
    intro v a h
    simp only [ActivationSettings.read?, Option.bind_eq_bind, Option.bind_eq_some_iff] at h
    obtain ⟨f, -, timeout, htimeout, order, -, hresult⟩ := h
    cases hresult
    exact Fields.of_orDefault (P := (· ≤ maxCount)) hcount (by decide) htimeout
  have validation : ∀ v s, ValidationSettings.read? format v = some s →
      s.minEndpoints ≤ maxCount := by
    intro v s h
    simp only [ValidationSettings.read?, Option.bind_eq_bind, Option.bind_eq_some_iff] at h
    obtain ⟨f, -, reject, -, least, hleast, hresult⟩ := h
    cases hresult
    exact Fields.of_orDefault (P := (· ≤ maxCount)) hcount (by decide) hleast
  simp only [read?, Option.bind_eq_bind, Option.bind_eq_some_iff] at h
  obtain ⟨f, -, topologyId, -, a, ha, s, hs, hresult⟩ := h
  cases hresult
  exact
    ⟨Fields.of_orDefault (P := fun a => a.driverTimeout ≤ maxCount) activation (by decide) ha,
      Fields.of_orDefault (P := fun s => s.minEndpoints ≤ maxCount) validation (by decide) hs⟩

end Config

end Connectivity
