import Connectivity.Config.Basic
import Connectivity.Document.Basic
import Connectivity.Json.Basic
import Connectivity.Toml.Printer
import Connectivity.Toml.Table

/-!
# Configurations as documents

A configuration has three sections. Each setting that a document leaves out has its default, and so
has each section. It is read from JSON and from TOML by the same rules; the file that a
configuration is saved to is TOML, with every setting written. A file that is missing stands for the
defaults; a text that is no configuration is an error of its own.
-/
namespace Connectivity

def RollbackOrder.toJson (o : RollbackOrder) : Json := .string o.name

def RollbackOrder.ofJson? : Json → Option RollbackOrder := Json.toChoice? ofName?

section

variable {ν : Type} (format : DocumentFormat ν)

def readTopologyId? (v : ν) : Option TopologyId := do
  let f ← format.record? ["topology_id"] v
  f.orDefault "topology_id" systemTopology format.string?

def ActivationSettings.read? (v : ν) : Option ActivationSettings := do
  let default : ActivationSettings := {}
  let f ← format.record? ["driver_timeout_ms", "rollback_order"] v
  let driverTimeout ← f.orDefault "driver_timeout_ms" default.driverTimeout format.count?
  let rollbackOrder ← f.orDefault "rollback_order" default.rollbackOrder
    (format.choice? RollbackOrder.ofName?)
  return { driverTimeout, rollbackOrder }

def ValidationSettings.read? (v : ν) : Option ValidationSettings := do
  let default : ValidationSettings := {}
  let f ← format.record? ["reject_duplicate_local_ids", "min_endpoints"] v
  let rejectDuplicateLocalIds ← f.orDefault "reject_duplicate_local_ids"
    default.rejectDuplicateLocalIds format.bool?
  let minEndpoints ← f.orDefault "min_endpoints" default.minEndpoints format.count?
  return { rejectDuplicateLocalIds, minEndpoints }

def Config.read? (v : ν) : Option Config := do
  let default : Config := {}
  let f ← format.record? ["topology", "activation", "validation"] v
  let topologyId ← f.orDefault "topology" default.topologyId (readTopologyId? format)
  let activation ← f.orDefault "activation" default.activation (ActivationSettings.read? format)
  let validation ← f.orDefault "validation" default.validation (ValidationSettings.read? format)
  return { topologyId, activation, validation }

end

def ValidationSettings.toJson (s : ValidationSettings) : Json :=
  .object [("reject_duplicate_local_ids", .bool s.rejectDuplicateLocalIds),
    ("min_endpoints", .ofNat s.minEndpoints)]

def ValidationSettings.ofJson? : Json → Option ValidationSettings := read? Json.format

namespace Config

def toJson (c : Config) : Json :=
  .object [
    ("topology", .object [("topology_id", .string c.topologyId)]),
    ("activation", .object [("driver_timeout_ms", .ofNat c.activation.driverTimeout),
      ("rollback_order", c.activation.rollbackOrder.toJson)]),
    ("validation", c.validation.toJson)]

def ofJson? : Json → Option Config := read? Json.format

/-- The text of a configuration file. -/
def toToml (c : Config) : String :=
  "[topology]\ntopology_id = " ++ String.ofList (Toml.printString c.topologyId) ++
    "\n\n[activation]\ndriver_timeout_ms = " ++ toString c.activation.driverTimeout ++
    "\nrollback_order = \"" ++ c.activation.rollbackOrder.name ++
    "\"\n\n[validation]\nreject_duplicate_local_ids = " ++
    (if c.validation.rejectDuplicateLocalIds then "true" else "false") ++
    "\nmin_endpoints = " ++ toString c.validation.minEndpoints ++ "\n"

/-- The configuration that the text of a file holds. -/
def ofToml? (text : String) : Option Config := do
  let v ← Toml.parse? text
  read? Toml.format v

end Config

/-- The configuration of a file, named `path` in messages. -/
def Config.load (path : String) (file : FileContent) : Except Error Config :=
  match file with
  | .missing => .ok {}
  | file => do
      let text ← file.text
      match ofToml? text with
      | some config => return config
      | none => throw (.configuration ("Failed to parse config file " ++ path ++
          ": it is not a configuration in TOML"))

end Connectivity
