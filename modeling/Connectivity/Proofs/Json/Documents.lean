import Connectivity.Proofs.Config.Document
import Connectivity.Proofs.Json.Inverse
import Connectivity.Proofs.Time.Notation
import Connectivity.Service.Document

/-!
# Documents of the model

Topologies, requests, services and configurations are what their JSON texts denote. The notation of
each kind of values is read back because those of its parts are; the notation of attributes because
their keys are in order, and that of services because instants are read back from their texts.
-/
namespace Connectivity

open Json (Inverse)

/-! ## Names and topologies -/

theorem Direction.inverse : Inverse toJson ofJson? := Json.inverse_choice ofName?_name

theorem OperationalState.inverse : Inverse toJson ofJson? := Json.inverse_choice ofName?_name

theorem ServiceType.inverse : Inverse toJson ofJson? := Json.inverse_choice ofName?_name

theorem EdgePointRef.inverse : Inverse toJson ofJson? := by
  intro r
  simp [ofJson?, toJson, Fields.required, Json.toString?]

theorem EdgePoint.inverse : Inverse toJson ofJson? := by
  intro p
  have direction := Direction.inverse p.direction
  have sips := Inverse.list Json.inverse_string p.mappedSips
  simp [ofJson?, toJson, Fields.required, Fields.orDefault, Json.toString?, direction, sips]

theorem Node.inverse : Inverse toJson ofJson? := by
  intro n
  have points := Inverse.list EdgePoint.inverse n.edgePoints
  simp [ofJson?, toJson, Fields.required, Fields.orDefault, Json.toString?, points]

theorem Link.inverse : Inverse toJson ofJson? := by
  intro l
  have points := Inverse.list EdgePointRef.inverse l.edgePoints
  have state := OperationalState.inverse l.state
  simp [ofJson?, toJson, Fields.required, Json.toString?, points, state]

theorem Topology.inverse : Inverse toJson ofJson? := by
  intro t
  have nodes := Inverse.list Node.inverse t.nodes
  have links := Inverse.list Link.inverse t.links
  simp [ofJson?, toJson, Fields.required, Fields.orDefault, Json.toString?, nodes, links]

/-! ## Attributes -/

namespace Attributes

/-- A key above all others goes to the end. -/
theorem insertEntry_of_lt {key : String} (value : String) {entries : List (String × String)}
    (h : ∀ entry ∈ entries, entry.1 < key) :
    insertEntry key value entries = entries ++ [(key, value)] := by
  induction entries with
  | nil => rfl
  | cons first rest ih =>
      have hfirst := h first List.mem_cons_self
      have hlt : ¬ key < first.1 := fun hlt => String.lt_irrefl _ (String.lt_trans hlt hfirst)
      have hne : key ≠ first.1 := fun heq => String.lt_irrefl key (heq ▸ hfirst)
      simp only [insertEntry, if_neg hlt, if_neg hne, List.cons_append,
        ih fun entry hentry => h entry (List.mem_cons_of_mem first hentry)]

/-- Pairs in ascending order after those that are there keep their order. -/
theorem entries_foldl_insert (pairs : List (String × String)) (a : Attributes)
    (h : (a.entries ++ pairs).Pairwise fun x y => x.1 < y.1) :
    (pairs.foldl (fun a pair => a.insert pair.1 pair.2) a).entries = a.entries ++ pairs := by
  induction pairs generalizing a with
  | nil => simp
  | cons pair pairs ih =>
      have hlast : (a.insert pair.1 pair.2).entries = a.entries ++ [pair] :=
        insertEntry_of_lt pair.2 fun entry hentry =>
          (List.pairwise_append.1 h).2.2 entry hentry pair List.mem_cons_self
      rw [List.foldl_cons, ih _ (by simpa [hlast] using h), hlast, List.append_assoc]
      rfl

theorem ofList_entries (a : Attributes) : ofList a.entries = a :=
  ext_entries (entries_foldl_insert a.entries empty a.ascending)

theorem inverse : Inverse toJson ofJson? := by
  intro a
  have members : ∀ entries : List (String × String),
      (entries.map fun entry => (entry.1, Json.string entry.2)).mapM
        (fun (m : String × Json) => m.2.toString?.map fun value => (m.1, value)) =
          some entries := by
    intro entries
    induction entries with
    | nil => rfl
    | cons entry entries ih =>
        simp only [List.map_cons, List.mapM_cons, ih]
        rfl
  simp only [ofJson?, toJson, members, Option.bind_eq_bind, Option.bind_some, ofList_entries]
  rfl

end Attributes

/-! ## Requests -/

theorem ServiceEndPoint.inverse : Inverse toJson ofJson? := by
  intro e
  have localId := Inverse.option Json.inverse_string nofun e.localId
  have direction := Direction.inverse e.direction
  have attributes := Inverse.option Attributes.inverse nofun e.attributes
  simp [ofJson?, toJson, Fields.required, Fields.orDefault, Json.toString?, localId, direction,
    attributes]

theorem EndPoint.inverse : Inverse toJson ofJson? := by
  intro e
  have endpoint := Inverse.option ServiceEndPoint.inverse nofun e.endpoint
  have point := Inverse.option EdgePointRef.inverse nofun e.point
  simp [ofJson?, toJson, Fields.optional, endpoint, point]

theorem SubRequest.inverse : Inverse toJson ofJson? := by
  intro s
  have endpoints := Inverse.list EndPoint.inverse s.endpoints
  simp [ofJson?, toJson, Fields.required, Json.toString?, endpoints]

theorem CreateRequest.inverse : Inverse toJson ofJson? := by
  intro r
  have endpoints := Inverse.list ServiceEndPoint.inverse r.endpoints
  have serviceType := Inverse.option ServiceType.inverse nofun r.serviceType
  simp [ofJson?, toJson, Fields.required, Fields.orDefault, Json.toBool?, endpoints, serviceType]

/-! ## Services -/

theorem Instant.inverse : Inverse toJson ofJson? := by
  intro t
  simp only [ofJson?, toJson, Json.toString?, Option.bind_some, ofText?_text]

theorem Connection.inverse : Inverse toJson ofJson? := by
  intro c
  have endpoints := Inverse.list EndPoint.inverse c.endpoints
  simp [ofJson?, toJson, Fields.required, Json.toString?, endpoints]

theorem Service.inverse : Inverse toJson ofJson? := by
  intro s
  have serviceType := ServiceType.inverse s.serviceType
  have endpoints := Inverse.list ServiceEndPoint.inverse s.endpoints
  have connections := Inverse.list Connection.inverse s.connections
  have createdAt := Instant.inverse s.createdAt
  simp [ofJson?, toJson, summary, Fields.required, Json.toString?, Json.toBool?, serviceType,
    endpoints, connections, createdAt]

/-! ## Configurations -/

/-- JSON reads back what it writes. -/
def Json.writer : Json.format.Writer where
  record := .object
  string := .string
  count := .ofNat
  bool := .bool
  record?_record := Json.fields?_object
  string?_string _ := rfl
  count?_count := Json.toCount?_ofNat
  bool?_bool _ := rfl
  choice?_string _ _ := rfl

theorem Config.faithful : Json.Faithful InRange toJson ofJson? :=
  Json.faithful_of_read (fun c h => read?_written Json.writer (c := c) h) fun _ _ h =>
    inRange_of_read? (fun _ _ => Json.le_of_toCount?) h

/-! ## The whole model -/

open Json (FaithfulToAll Faithful encode) in
/-- The JSON notation is faithful to every kind of values: to all of them, and to a configuration if
its counts are counts of a document. Attributes that are absent are told from those without keys. -/
structure FaithfulDocuments : Prop where
  topology : FaithfulToAll Topology.toJson Topology.ofJson?
  node : FaithfulToAll Node.toJson Node.ofJson?
  link : FaithfulToAll Link.toJson Link.ofJson?
  edgePoint : FaithfulToAll EdgePoint.toJson EdgePoint.ofJson?
  serviceEndPoint : FaithfulToAll ServiceEndPoint.toJson ServiceEndPoint.ofJson?
  endPoint : FaithfulToAll EndPoint.toJson EndPoint.ofJson?
  subRequest : FaithfulToAll SubRequest.toJson SubRequest.ofJson?
  createRequest : FaithfulToAll CreateRequest.toJson CreateRequest.ofJson?
  connection : FaithfulToAll Connection.toJson Connection.ofJson?
  service : FaithfulToAll Service.toJson Service.ofJson?
  config : Faithful Config.InRange Config.toJson Config.ofJson?
  attributes : ∀ e : ServiceEndPoint,
    encode ServiceEndPoint.toJson { e with attributes := none } ≠
      encode ServiceEndPoint.toJson { e with attributes := some .empty }

theorem faithful_documents : FaithfulDocuments where
  topology := Topology.inverse.faithful
  node := Node.inverse.faithful
  link := Link.inverse.faithful
  edgePoint := EdgePoint.inverse.faithful
  serviceEndPoint := ServiceEndPoint.inverse.faithful
  endPoint := EndPoint.inverse.faithful
  subRequest := SubRequest.inverse.faithful
  createRequest := CreateRequest.inverse.faithful
  connection := Connection.inverse.faithful
  service := Service.inverse.faithful
  config := Config.faithful
  attributes e heq := by
    have := ServiceEndPoint.inverse.faithful.encode_injective trivial trivial heq
    cases congrArg ServiceEndPoint.attributes this

end Connectivity
