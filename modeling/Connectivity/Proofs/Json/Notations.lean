import Connectivity.Proofs.Json.Documents
import Connectivity.Proofs.Json.Schema

/-!
# The notations of the model

The schema of each kind of values, and that all notations it allows are read alike. Two records
share the names of directions, but not what the absence of a direction means.
-/
namespace Connectivity

open Json (Schema)
open Json.Schema (keeps_leaf keeps_choice)

/-! ## Topologies -/

theorem Direction.keeps : Schema.choice.Keeps ofJson? := keeps_choice ofName?

theorem OperationalState.keeps : Schema.choice.Keeps ofJson? := keeps_choice ofName?

def EdgePointRef.schema : Schema :=
  .record [⟨"node_id", none, .leaf⟩, ⟨"edge_point_id", none, .leaf⟩]

theorem EdgePointRef.keeps : schema.Keeps ofJson? := by
  intro j j' r step h
  simp only [ofJson?, Option.bind_eq_bind, Option.bind_eq_some_iff] at h ⊢
  obtain ⟨f, hf, nodeId, hnodeId, edgePointId, hedgePointId, hr⟩ := h
  obtain ⟨f', hf', nodeIdKept, edgePointIdKept⟩ := step.fields? (by decide) hf
  exact ⟨f', hf', nodeId, nodeIdKept.required keeps_leaf rfl hnodeId,
    edgePointId, edgePointIdKept.required keeps_leaf rfl hedgePointId, hr⟩

def EdgePoint.schema : Schema :=
  .record [⟨"id", none, .leaf⟩, ⟨"direction", some (Direction.toJson .unknown), .choice⟩,
    ⟨"mapped_sips", some (.array []), .list .leaf⟩]

theorem EdgePoint.keeps : schema.Keeps ofJson? := by
  intro j j' p step h
  simp only [ofJson?, Option.bind_eq_bind, Option.bind_eq_some_iff] at h ⊢
  obtain ⟨f, hf, id, hid, direction, hdirection, sips, hsips, hp⟩ := h
  obtain ⟨f', hf', idKept, directionKept, sipsKept⟩ := step.fields? (by decide) hf
  exact ⟨f', hf', id, idKept.required keeps_leaf rfl hid,
    direction, directionKept.orDefault Direction.keeps rfl rfl hdirection,
    sips, sipsKept.orDefault keeps_leaf.list rfl rfl hsips, hp⟩

def Node.schema : Schema :=
  .record [⟨"id", none, .leaf⟩, ⟨"activation_driver_id", none, .leaf⟩,
    ⟨"edge_points", some (.array []), .list EdgePoint.schema⟩]

theorem Node.keeps : schema.Keeps ofJson? := by
  intro j j' n step h
  simp only [ofJson?, Option.bind_eq_bind, Option.bind_eq_some_iff] at h ⊢
  obtain ⟨f, hf, id, hid, driverId, hdriverId, points, hpoints, hn⟩ := h
  obtain ⟨f', hf', idKept, driverIdKept, pointsKept⟩ := step.fields? (by decide) hf
  exact ⟨f', hf', id, idKept.required keeps_leaf rfl hid,
    driverId, driverIdKept.required keeps_leaf rfl hdriverId,
    points, pointsKept.orDefault EdgePoint.keeps.list rfl rfl hpoints, hn⟩

def Link.schema : Schema :=
  .record [⟨"id", none, .leaf⟩, ⟨"edge_points", none, .list EdgePointRef.schema⟩,
    ⟨"operational_state", none, .choice⟩]

theorem Link.keeps : schema.Keeps ofJson? := by
  intro j j' l step h
  simp only [ofJson?, Option.bind_eq_bind, Option.bind_eq_some_iff] at h ⊢
  obtain ⟨f, hf, id, hid, points, hpoints, state, hstate, hl⟩ := h
  obtain ⟨f', hf', idKept, pointsKept, stateKept⟩ := step.fields? (by decide) hf
  exact ⟨f', hf', id, idKept.required keeps_leaf rfl hid,
    points, pointsKept.required EdgePointRef.keeps.list rfl hpoints,
    state, stateKept.required OperationalState.keeps rfl hstate, hl⟩

def Topology.schema : Schema :=
  .record [⟨"id", none, .leaf⟩, ⟨"nodes", some (.array []), .list Node.schema⟩,
    ⟨"links", some (.array []), .list Link.schema⟩]

theorem Topology.keeps : schema.Keeps ofJson? := by
  intro j j' t step h
  simp only [ofJson?, Option.bind_eq_bind, Option.bind_eq_some_iff] at h ⊢
  obtain ⟨f, hf, id, hid, nodes, hnodes, links, hlinks, ht⟩ := h
  obtain ⟨f', hf', idKept, nodesKept, linksKept⟩ := step.fields? (by decide) hf
  exact ⟨f', hf', id, idKept.required keeps_leaf rfl hid,
    nodes, nodesKept.orDefault Node.keeps.list rfl rfl hnodes,
    links, linksKept.orDefault Link.keeps.list rfl rfl hlinks, ht⟩

/-! ## Requests -/

theorem ServiceType.keeps : Schema.choice.Keeps ofJson? := keeps_choice ofName?

def ServiceEndPoint.schema : Schema :=
  .record [⟨"local_id", some .null, .leaf⟩, ⟨"sip", none, .leaf⟩,
    ⟨"direction", some (Direction.toJson .bidirectional), .choice⟩, ⟨"attrs", some .null, .leaf⟩]

theorem ServiceEndPoint.keeps : schema.Keeps ofJson? := by
  intro j j' e step h
  simp only [ofJson?, Option.bind_eq_bind, Option.bind_eq_some_iff] at h ⊢
  obtain ⟨f, hf, localId, hlocalId, sip, hsip, direction, hdirection, attributes, hattributes,
    he⟩ := h
  obtain ⟨f', hf', localIdKept, sipKept, directionKept, attributesKept⟩ :=
    step.fields? (by decide) hf
  exact ⟨f', hf', localId, localIdKept.orDefault keeps_leaf rfl rfl hlocalId,
    sip, sipKept.required keeps_leaf rfl hsip,
    direction, directionKept.orDefault Direction.keeps rfl rfl hdirection,
    attributes, attributesKept.orDefault keeps_leaf rfl rfl hattributes, he⟩

def EndPoint.schema : Schema :=
  .record [⟨"endpoint", some .null, ServiceEndPoint.schema⟩,
    ⟨"nep_ref", some .null, EdgePointRef.schema⟩]

theorem EndPoint.keeps : schema.Keeps ofJson? := by
  intro j j' e step h
  simp only [ofJson?, Option.bind_eq_bind, Option.bind_eq_some_iff] at h ⊢
  obtain ⟨f, hf, endpoint, hendpoint, point, hpoint, he⟩ := h
  obtain ⟨f', hf', endpointKept, pointKept⟩ := step.fields? (by decide) hf
  exact ⟨f', hf', endpoint, endpointKept.optional ServiceEndPoint.keeps rfl hendpoint,
    point, pointKept.optional EdgePointRef.keeps rfl hpoint, he⟩

def SubRequest.schema : Schema :=
  .record [⟨"node_id", none, .leaf⟩, ⟨"activation_driver_id", none, .leaf⟩,
    ⟨"endpoints", none, .list EndPoint.schema⟩]

theorem SubRequest.keeps : schema.Keeps ofJson? := by
  intro j j' s step h
  simp only [ofJson?, Option.bind_eq_bind, Option.bind_eq_some_iff] at h ⊢
  obtain ⟨f, hf, nodeId, hnodeId, driverId, hdriverId, endpoints, hendpoints, hs⟩ := h
  obtain ⟨f', hf', nodeIdKept, driverIdKept, endpointsKept⟩ := step.fields? (by decide) hf
  exact ⟨f', hf', nodeId, nodeIdKept.required keeps_leaf rfl hnodeId,
    driverId, driverIdKept.required keeps_leaf rfl hdriverId,
    endpoints, endpointsKept.required EndPoint.keeps.list rfl hendpoints, hs⟩

def CreateRequest.schema : Schema :=
  .record [⟨"endpoints", none, .list ServiceEndPoint.schema⟩,
    ⟨"service_type", some .null, .choice⟩, ⟨"exclusive", some (.bool false), .leaf⟩]

theorem CreateRequest.keeps : schema.Keeps ofJson? := by
  intro j j' r step h
  simp only [ofJson?, Option.bind_eq_bind, Option.bind_eq_some_iff] at h ⊢
  obtain ⟨f, hf, endpoints, hendpoints, serviceType, hserviceType, exclusive, hexclusive, hr⟩ := h
  obtain ⟨f', hf', endpointsKept, serviceTypeKept, exclusiveKept⟩ := step.fields? (by decide) hf
  exact ⟨f', hf', endpoints, endpointsKept.required ServiceEndPoint.keeps.list rfl hendpoints,
    serviceType, serviceTypeKept.orDefault ServiceType.keeps.option rfl rfl hserviceType,
    exclusive, exclusiveKept.orDefault keeps_leaf rfl rfl hexclusive, hr⟩

/-! ## Services -/

def Connection.schema : Schema :=
  .record [⟨"id", none, .leaf⟩, ⟨"node_id", none, .leaf⟩, ⟨"activation_driver_id", none, .leaf⟩,
    ⟨"endpoints", none, .list EndPoint.schema⟩]

theorem Connection.keeps : schema.Keeps ofJson? := by
  intro j j' c step h
  simp only [ofJson?, Option.bind_eq_bind, Option.bind_eq_some_iff] at h ⊢
  obtain ⟨f, hf, id, hid, nodeId, hnodeId, driverId, hdriverId, endpoints, hendpoints, hc⟩ := h
  obtain ⟨f', hf', idKept, nodeIdKept, driverIdKept, endpointsKept⟩ :=
    step.fields? (by decide) hf
  exact ⟨f', hf', id, idKept.required keeps_leaf rfl hid,
    nodeId, nodeIdKept.required keeps_leaf rfl hnodeId,
    driverId, driverIdKept.required keeps_leaf rfl hdriverId,
    endpoints, endpointsKept.required EndPoint.keeps.list rfl hendpoints, hc⟩

def Service.schema : Schema :=
  .record [⟨"id", none, .leaf⟩, ⟨"service_type", none, .choice⟩, ⟨"exclusive", none, .leaf⟩,
    ⟨"endpoints", none, .list ServiceEndPoint.schema⟩,
    ⟨"connections", none, .list Connection.schema⟩, ⟨"created_at", none, .leaf⟩]

theorem Service.keeps : schema.Keeps ofJson? := by
  intro j j' s step h
  simp only [ofJson?, Option.bind_eq_bind, Option.bind_eq_some_iff] at h ⊢
  obtain ⟨f, hf, id, hid, serviceType, hserviceType, exclusive, hexclusive, endpoints, hendpoints,
    connections, hconnections, createdAt, hcreatedAt, hs⟩ := h
  obtain ⟨f', hf', idKept, serviceTypeKept, exclusiveKept, endpointsKept, connectionsKept,
    createdAtKept⟩ := step.fields? (by decide) hf
  exact ⟨f', hf', id, idKept.required keeps_leaf rfl hid,
    serviceType, serviceTypeKept.required ServiceType.keeps rfl hserviceType,
    exclusive, exclusiveKept.required keeps_leaf rfl hexclusive,
    endpoints, endpointsKept.required ServiceEndPoint.keeps.list rfl hendpoints,
    connections, connectionsKept.required Connection.keeps.list rfl hconnections,
    createdAt, createdAtKept.required keeps_leaf rfl hcreatedAt, hs⟩

/-! ## Configurations -/

theorem RollbackOrder.keeps : Schema.choice.Keeps ofJson? := keeps_choice ofName?

namespace TopologySection

/-- The section of a configuration that names its topology. -/
def toJson (id : TopologyId) : Json := .object [("topology_id", .string id)]

def ofJson? : Json → Option TopologyId := readTopologyId? Json.format

def schema : Schema := .record [⟨"topology_id", some (.string systemTopology), .leaf⟩]

theorem keeps : schema.Keeps ofJson? := by
  intro j j' id step h
  simp only [ofJson?, readTopologyId?, Option.bind_eq_bind, Option.bind_eq_some_iff] at h ⊢
  obtain ⟨f, hf, hid⟩ := h
  obtain ⟨f', hf', idKept⟩ := step.fields? (by decide) hf
  exact ⟨f', hf', idKept.orDefault keeps_leaf rfl rfl hid⟩

theorem inverse : Json.Inverse toJson ofJson? := by
  intro id
  simp [ofJson?, readTopologyId?, toJson, Json.format, Fields.orDefault, Json.toString?]

end TopologySection

namespace ActivationSettings

def toJson (s : ActivationSettings) : Json :=
  .object [("driver_timeout_ms", .ofNat s.driverTimeout),
    ("rollback_order", s.rollbackOrder.toJson)]

def ofJson? : Json → Option ActivationSettings := read? Json.format

def schema : Schema :=
  let default : ActivationSettings := {}
  .record [⟨"driver_timeout_ms", some (.ofNat default.driverTimeout), .leaf⟩,
    ⟨"rollback_order", some default.rollbackOrder.toJson, .choice⟩]

theorem keeps : schema.Keeps ofJson? := by
  intro j j' s step h
  simp only [ofJson?, read?, Option.bind_eq_bind, Option.bind_eq_some_iff] at h ⊢
  obtain ⟨f, hf, timeout, htimeout, order, horder, hs⟩ := h
  obtain ⟨f', hf', timeoutKept, orderKept⟩ := step.fields? (by decide) hf
  exact ⟨f', hf', timeout,
    timeoutKept.orDefault keeps_leaf rfl (Json.toCount?_ofNat (by decide)) htimeout,
    order, orderKept.orDefault RollbackOrder.keeps rfl rfl horder, hs⟩

theorem ofJson?_toJson (s : ActivationSettings) (h : s.driverTimeout ≤ maxCount) :
    ofJson? s.toJson = some s := by
  have order : Json.toChoice? RollbackOrder.ofName? s.rollbackOrder.toJson =
      some s.rollbackOrder := RollbackOrder.ofName?_name s.rollbackOrder
  simp [ofJson?, read?, toJson, Json.format, Fields.orDefault, Json.toCount?_ofNat h, order]

end ActivationSettings

namespace ValidationSettings

def schema : Schema :=
  let default : ValidationSettings := {}
  .record [
    ⟨"reject_duplicate_local_ids", some (.bool default.rejectDuplicateLocalIds), .leaf⟩,
    ⟨"min_endpoints", some (.ofNat default.minEndpoints), .leaf⟩]

theorem keeps : schema.Keeps ofJson? := by
  intro j j' s step h
  simp only [ofJson?, read?, Option.bind_eq_bind, Option.bind_eq_some_iff] at h ⊢
  obtain ⟨f, hf, reject, hreject, least, hleast, hs⟩ := h
  obtain ⟨f', hf', rejectKept, leastKept⟩ := step.fields? (by decide) hf
  exact ⟨f', hf', reject, rejectKept.orDefault keeps_leaf rfl rfl hreject,
    least, leastKept.orDefault keeps_leaf rfl (Json.toCount?_ofNat (by decide)) hleast, hs⟩

theorem ofJson?_toJson (s : ValidationSettings) (h : s.minEndpoints ≤ maxCount) :
    ofJson? s.toJson = some s := by
  simp [ofJson?, read?, toJson, Json.format, Fields.orDefault, Json.toBool?,
    Json.toCount?_ofNat h]

end ValidationSettings

namespace Config

def schema : Schema :=
  .record [⟨"topology", some (TopologySection.toJson systemTopology), TopologySection.schema⟩,
    ⟨"activation", some (ActivationSettings.toJson {}), ActivationSettings.schema⟩,
    ⟨"validation", some (ValidationSettings.toJson {}), ValidationSettings.schema⟩]

theorem keeps : schema.Keeps ofJson? := by
  intro j j' c step h
  simp only [ofJson?, read?, Option.bind_eq_bind, Option.bind_eq_some_iff] at h ⊢
  obtain ⟨f, hf, topology, htopology, activation, hactivation, validation, hvalidation, hc⟩ := h
  obtain ⟨f', hf', topologyKept, activationKept, validationKept⟩ := step.fields? (by decide) hf
  have topologyDefault := TopologySection.inverse systemTopology
  have activationDefault := ActivationSettings.ofJson?_toJson {} (by decide)
  have validationDefault := ValidationSettings.ofJson?_toJson {} (by decide)
  exact ⟨f', hf',
    topology, topologyKept.orDefault TopologySection.keeps rfl topologyDefault htopology,
    activation, activationKept.orDefault ActivationSettings.keeps rfl activationDefault hactivation,
    validation, validationKept.orDefault ValidationSettings.keeps rfl validationDefault hvalidation,
    hc⟩

end Config

/-! ## The absence of a direction -/

/-- A field that no member gives may be put before the members with the value that a reader takes
its absence for. -/
theorem Json.bind_fields?_cons {α : Type} {names : List String} {key : String} {value : Json}
    {members : List (String × Json)} {build : Fields Json → Option α} (known : key ∈ names)
    (absent : key ∉ members.map Prod.fst)
    (hbuild : ∀ f : Fields Json, f.get? key = none →
      build ⟨(key, value) :: f.given, f.byName⟩ = build f) :
    ((object ((key, value) :: members)).fields? names).bind build =
      ((object members).fields? names).bind build := by
  have hkey : key ∉ (members.filter fun entry => names.contains entry.1).map Prod.fst :=
    fun h => absent ((List.filter_sublist.map Prod.fst).subset h)
  simp only [fields?, Fields.ofEntries?, List.filter_cons_of_pos, List.contains_iff_mem, known,
    List.map_cons, List.nodup_cons, hkey, not_false_eq_true, true_and]
  split
  case isTrue => exact hbuild _ (Fields.get?_eq_none_iff.2 hkey)
  case isFalse => rfl

theorem EdgePoint.ofJson?_without_direction {members : List (String × Json)}
    (absent : "direction" ∉ members.map Prod.fst) :
    ofJson? (.object (("direction", Direction.toJson .unknown) :: members)) =
      ofJson? (.object members) := by
  refine Json.bind_fields?_cons (by decide) absent fun f hnone => ?_
  have hunknown := Direction.inverse .unknown
  simp [Fields.required, Fields.orDefault, hnone, hunknown]

theorem ServiceEndPoint.ofJson?_without_direction {members : List (String × Json)}
    (absent : "direction" ∉ members.map Prod.fst) :
    ofJson? (.object (("direction", Direction.toJson .bidirectional) :: members)) =
      ofJson? (.object members) := by
  refine Json.bind_fields?_cons (by decide) absent fun f hnone => ?_
  have hbidirectional := Direction.inverse .bidirectional
  simp [Fields.required, Fields.orDefault, hnone, hbidirectional]

/-! ## The whole model -/

open Json (Agreement AgreementForAll)

/-- For every kind of values all notations agree, the keys of attributes apart, which are data. The
absence of a direction means that of an edge point is unknown, but that of an endpoint is both. -/
structure AgreeingNotations : Prop where
  direction : AgreementForAll .choice Direction.toJson Direction.ofJson?
  operationalState : AgreementForAll .choice OperationalState.toJson OperationalState.ofJson?
  serviceType : AgreementForAll .choice ServiceType.toJson ServiceType.ofJson?
  rollbackOrder : AgreementForAll .choice RollbackOrder.toJson RollbackOrder.ofJson?
  edgePointRef : AgreementForAll EdgePointRef.schema EdgePointRef.toJson EdgePointRef.ofJson?
  edgePoint : AgreementForAll EdgePoint.schema EdgePoint.toJson EdgePoint.ofJson?
  node : AgreementForAll Node.schema Node.toJson Node.ofJson?
  link : AgreementForAll Link.schema Link.toJson Link.ofJson?
  topology : AgreementForAll Topology.schema Topology.toJson Topology.ofJson?
  serviceEndPoint :
    AgreementForAll ServiceEndPoint.schema ServiceEndPoint.toJson ServiceEndPoint.ofJson?
  endPoint : AgreementForAll EndPoint.schema EndPoint.toJson EndPoint.ofJson?
  subRequest : AgreementForAll SubRequest.schema SubRequest.toJson SubRequest.ofJson?
  createRequest : AgreementForAll CreateRequest.schema CreateRequest.toJson CreateRequest.ofJson?
  connection : AgreementForAll Connection.schema Connection.toJson Connection.ofJson?
  service : AgreementForAll Service.schema Service.toJson Service.ofJson?
  topologySection :
    AgreementForAll TopologySection.schema TopologySection.toJson TopologySection.ofJson?
  activation : Agreement ActivationSettings.schema (fun s => s.driverTimeout ≤ maxCount)
    ActivationSettings.toJson ActivationSettings.ofJson?
  validation : Agreement ValidationSettings.schema (fun s => s.minEndpoints ≤ maxCount)
    ValidationSettings.toJson ValidationSettings.ofJson?
  config : Agreement Config.schema Config.InRange Config.toJson Config.ofJson?
  edgePoint_without_direction : ∀ members, "direction" ∉ members.map Prod.fst →
    EdgePoint.ofJson? (.object (("direction", Direction.toJson .unknown) :: members)) =
      EdgePoint.ofJson? (.object members)
  serviceEndPoint_without_direction : ∀ members, "direction" ∉ members.map Prod.fst →
    ServiceEndPoint.ofJson?
        (.object (("direction", Direction.toJson .bidirectional) :: members)) =
      ServiceEndPoint.ofJson? (.object members)

theorem agreeing_notations : AgreeingNotations where
  direction := Direction.keeps.agreementForAll Direction.inverse
  operationalState := OperationalState.keeps.agreementForAll OperationalState.inverse
  serviceType := ServiceType.keeps.agreementForAll ServiceType.inverse
  rollbackOrder := RollbackOrder.keeps.agreementForAll RollbackOrder.ofName?_name
  edgePointRef := EdgePointRef.keeps.agreementForAll EdgePointRef.inverse
  edgePoint := EdgePoint.keeps.agreementForAll EdgePoint.inverse
  node := Node.keeps.agreementForAll Node.inverse
  link := Link.keeps.agreementForAll Link.inverse
  topology := Topology.keeps.agreementForAll Topology.inverse
  serviceEndPoint := ServiceEndPoint.keeps.agreementForAll ServiceEndPoint.inverse
  endPoint := EndPoint.keeps.agreementForAll EndPoint.inverse
  subRequest := SubRequest.keeps.agreementForAll SubRequest.inverse
  createRequest := CreateRequest.keeps.agreementForAll CreateRequest.inverse
  connection := Connection.keeps.agreementForAll Connection.inverse
  service := Service.keeps.agreementForAll Service.inverse
  topologySection := TopologySection.keeps.agreementForAll TopologySection.inverse
  activation := ActivationSettings.keeps.agreement ActivationSettings.ofJson?_toJson
  validation := ValidationSettings.keeps.agreement ValidationSettings.ofJson?_toJson
  config := Config.keeps.agreement fun _ h => Config.read?_written Json.writer h
  edgePoint_without_direction _ := EdgePoint.ofJson?_without_direction
  serviceEndPoint_without_direction _ := ServiceEndPoint.ofJson?_without_direction

/-- An edge point without sips, written with an unreadable value under a key that no field has, and
with its direction as an object. -/
theorem agreeing_notations_rearranged : Json.decode? EdgePoint.ofJson? (Json.print (.object [
    ("note", .array [.unreadable]), ("direction", .object [("input", .null)]),
    ("id", .string "p")])) = some ⟨"p", .input, []⟩ := by
  have tagged : EdgePoint.schema.Step (EdgePoint.toJson ⟨"p", .input, []⟩) (.object [
      ("id", .string "p"), ("direction", .object [("input", .null)]),
      ("mapped_sips", .array [])]) :=
    .named [("id", .string "p")] [("mapped_sips", .array [])]
      (List.mem_cons_of_mem _ List.mem_cons_self) (.tag "input")
  have dropped : EdgePoint.schema.Step _ (.object [("id", .string "p"),
      ("direction", .object [("input", .null)])]) :=
    .drop [("id", .string "p"), ("direction", .object [("input", .null)])] []
      (List.mem_cons_of_mem _ (List.mem_cons_of_mem _ List.mem_cons_self)) rfl
  have added : EdgePoint.schema.Step _ (.object [("id", .string "p"),
      ("direction", .object [("input", .null)]), ("note", .array [.unreadable])]) :=
    .add [("id", .string "p"), ("direction", .object [("input", .null)])] [] _ (by decide)
  have permuted : EdgePoint.schema.Step _ (.object [("note", .array [.unreadable]),
      ("direction", .object [("input", .null)]), ("id", .string "p")]) :=
    .permute (List.reverse_perm _)
  exact agreeing_notations.edgePoint.decode?_print _ trivial _
    ((((Relation.ReflTransGen.single tagged).tail dropped).tail added).tail permuted)

example : Json.decode? EdgePoint.ofJson? "[\"p\"]" = some ⟨"p", .unknown, []⟩ := by
  decide +kernel

example : Json.decode? ServiceEndPoint.ofJson? "[null, \"s\"]" =
    some ⟨none, "s", .bidirectional, none⟩ := by decide +kernel

end Connectivity
