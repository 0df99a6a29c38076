import Connectivity.Proofs.Service.Run
import Mathlib.Data.List.Induction

/-!
# A store as a versioned map

A store is read and written in any order. A read gives what the last write under its id has left,
and the version counts the writes, as well as the removals that found something to remove. Whenever
the contents change the version moves on, so that a reader who sees the same version twice has
missed nothing.
-/
namespace Connectivity

/-- What a store is asked for. -/
inductive StoreCall where
  | writeTopology (t : Topology)
  | putService (s : Service)
  | removeService (id : ServiceId)
  | readTopology (id : TopologyId)
  | getService (id : ServiceId)
  | listServices
  | version

/-- What a store answers: that a record is written, which one is removed, or what was read. -/
inductive StoreAnswer where
  | written
  | removed (record : Option Service)
  | topology (result : Except Error Topology)
  | service (record : Option Service)
  | services (records : List Service)
  | version (count : Nat)

namespace StoreCall

/-- The call writes a topology or puts a service. -/
def writes : StoreCall → Bool
  | writeTopology _ => true
  | putService _ => true
  | _ => false

/-- What the call leaves under the id of a topology, if it is about it. -/
def topology? (id : TopologyId) : StoreCall → Option Topology
  | writeTopology t => if t.id = id then some t else none
  | _ => none

/-- What the call leaves under the id of a service, if it is about it: a record, or none. -/
def service? (id : ServiceId) : StoreCall → Option (Option Service)
  | putService s => if s.id = id then some (some s) else none
  | removeService removed => if removed = id then some none else none
  | _ => none

end StoreCall

/-- A record was found and removed. -/
def StoreAnswer.foundRecord : StoreAnswer → Bool
  | removed (some _) => true
  | _ => false

/-- The topology that the last write of its id left, where a store begins with one or with none. -/
def lastTopology (seed : Option Topology) (calls : List StoreCall) (id : TopologyId) :
    Option Topology :=
  (calls.reverse.findSome? (·.topology? id)).or (seed.filter fun t => t.id = id)

/-- What the last write or removal of its id left of a service. -/
def lastService (calls : List StoreCall) (id : ServiceId) : Option Service :=
  (calls.reverse.findSome? (·.service? id)).join

/-- The last item of a list is looked at first. -/
theorem findSome?_reverse_concat {α β : Type} (f : α → Option β) (xs : List α) (x : α) :
    (xs ++ [x]).reverse.findSome? f = (f x).or (xs.reverse.findSome? f) := by
  rw [List.reverse_append, List.reverse_singleton, List.singleton_append, List.findSome?_cons]
  cases f x <;> rfl

theorem lastTopology_concat (seed : Option Topology) (calls : List StoreCall) (call : StoreCall)
    (id : TopologyId) :
    lastTopology seed (calls ++ [call]) id =
      (call.topology? id).or (lastTopology seed calls id) := by
  rw [lastTopology, findSome?_reverse_concat, Option.or_assoc, lastTopology]

theorem lastService_concat (calls : List StoreCall) (call : StoreCall) (id : ServiceId) :
    lastService (calls ++ [call]) id = (call.service? id).getD (lastService calls id) := by
  rw [lastService, findSome?_reverse_concat]
  cases call.service? id <;> rfl

namespace Store

/-- The answer to a call, and the store after it. -/
def answer (store : Store) : StoreCall → StoreAnswer × Store
  | .writeTopology t => (.written, store.writeTopology t)
  | .putService s => (.written, store.putService s)
  | .removeService id => (.removed (store.removeService id).1, (store.removeService id).2)
  | .readTopology id => (.topology (store.readTopology id), store)
  | .getService id => (.service (store.getService id), store)
  | .listServices => (.services store.listServices, store)
  | .version => (.version store.version, store)

/-- The answers to some calls, one after another. -/
def answers (store : Store) : List StoreCall → List StoreAnswer
  | [] => []
  | call :: rest => (store.answer call).1 :: (store.answer call).2.answers rest

/-- The store after some calls. -/
def afterAll (store : Store) (calls : List StoreCall) : Store :=
  calls.foldl (fun store call => (store.answer call).2) store

/-- A store that begins empty, or with one topology. -/
def start (seed : Option Topology) : Store := seed.elim empty ofTopology

/-- The version as its readers see it, in 64 bits. -/
def versionWord (store : Store) : UInt64 := .ofNat store.version

end Store

/-- How often a store has been written: one time if it began with a topology, each time that
something was written, and each time that a record was removed. -/
def writesIn (seed : Option Topology) (calls : List StoreCall) : Nat :=
  (if seed.isSome then 1 else 0) + calls.countP StoreCall.writes +
    ((Store.start seed).answers calls).countP StoreAnswer.foundRecord

/-- The answer that a call must have after others. -/
def StoreCall.Answered (seed : Option Topology) (before : List StoreCall) :
    StoreCall → StoreAnswer → Prop
  | writeTopology _, answer => answer = .written
  | putService _, answer => answer = .written
  | removeService id, answer => answer = .removed (lastService before id)
  | readTopology id, answer => answer = .topology ((lastTopology seed before id).elim
      (.error (.topologyUnavailable id "topology not found")) .ok)
  | getService id, answer => answer = .service (lastService before id)
  | listServices, answer => ∃ records : List Service, answer = .services records ∧
      records.Pairwise (fun s s' => s.id < s'.id) ∧
      ∀ s, s ∈ records ↔ lastService before s.id = some s
  | version, answer => answer = .version (writesIn seed before)

namespace Store

variable {store : Store}

theorem readTopology_eq (store : Store) (id : TopologyId) :
    store.readTopology id = store.topologies[id]?.elim
      (.error (.topologyUnavailable id "topology not found")) .ok := by
  rw [readTopology]
  cases store.topologies[id]? <;> rfl

theorem fst_removeService (store : Store) (id : ServiceId) :
    (store.removeService id).1 = store.getService id := by
  rw [removeService, getService]
  cases store.services[id]? <;> rfl

theorem mem_listServices (hfiled : store.Filed) {s : Service} :
    s ∈ store.listServices ↔ store.getService s.id = some s := by
  rw [listServices, mem_values]
  constructor
  · rintro ⟨id, hs⟩
    rwa [hfiled id s hs]
  · exact fun hs => ⟨s.id, hs⟩

theorem listServices_ascending (hfiled : store.Filed) :
    store.listServices.Pairwise fun s s' => s.id < s'.id := by
  rw [listServices, values_eq_map_toList, List.pairwise_map]
  refine (toList_keys_ascending store.services).imp_of_mem fun {x y} hx hy hlt => ?_
  rwa [hfiled x.1 x.2 (Std.TreeMap.mem_toList_iff_getElem?_eq_some.1 hx),
    hfiled y.1 y.2 (Std.TreeMap.mem_toList_iff_getElem?_eq_some.1 hy)]

theorem filed_answer (hfiled : store.Filed) (call : StoreCall) : (store.answer call).2.Filed := by
  cases call with
  | putService s => exact hfiled.putService s
  | removeService id => exact hfiled.removeService id
  | _ => exact hfiled

theorem topologies_answer (store : Store) (call : StoreCall) (id : TopologyId) :
    (store.answer call).2.topologies[id]? = (call.topology? id).or store.topologies[id]? := by
  cases call with
  | writeTopology t =>
      rw [answer, topologies_writeTopology, StoreCall.topology?]
      split <;> rfl
  | removeService removed =>
      simp only [answer, removeService]
      cases store.services[removed]? <;> rfl
  | _ => rfl

theorem getService_answer (store : Store) (call : StoreCall) (id : ServiceId) :
    (store.answer call).2.getService id = (call.service? id).getD (store.getService id) := by
  cases call with
  | putService s =>
      rw [answer, getService_putService, StoreCall.service?]
      split <;> rfl
  | removeService removed =>
      rw [answer, getService_removeService, StoreCall.service?]
      split <;> rfl
  | _ => rfl

theorem version_answer (store : Store) (call : StoreCall) :
    (store.answer call).2.version = store.version + [call].countP StoreCall.writes +
      [(store.answer call).1].countP StoreAnswer.foundRecord := by
  cases call with
  | removeService id =>
      simp only [answer, removeService]
      cases store.services[id]? <;> rfl
  | _ => rfl

/-- A call changes nothing, or the version moves on. -/
theorem answer_eq_or_version_succ (store : Store) (call : StoreCall) :
    (store.answer call).2 = store ∨ (store.answer call).2.version = store.version + 1 := by
  cases call with
  | removeService id =>
      simp only [answer, removeService]
      cases store.services[id]? with
      | none => exact .inl rfl
      | some s => exact .inr rfl
  | writeTopology => exact .inr rfl
  | putService => exact .inr rfl
  | _ => exact .inl rfl

theorem afterAll_append (store : Store) (calls others : List StoreCall) :
    store.afterAll (calls ++ others) = (store.afterAll calls).afterAll others :=
  List.foldl_append

theorem afterAll_concat (store : Store) (calls : List StoreCall) (call : StoreCall) :
    store.afterAll (calls ++ [call]) = ((store.afterAll calls).answer call).2 :=
  store.afterAll_append calls [call]

/-- A call is answered by the store that the calls before it have left. -/
theorem getElem?_answers (store : Store) (calls : List StoreCall) (i : Nat) :
    (store.answers calls)[i]? =
      calls[i]?.map fun call => ((store.afterAll (calls.take i)).answer call).1 := by
  induction calls generalizing store i with
  | nil => rfl
  | cons call rest ih =>
      cases i with
      | zero => rfl
      | succ i => exact ih _ i

theorem answers_append (store : Store) (calls others : List StoreCall) :
    store.answers (calls ++ others) =
      store.answers calls ++ (store.afterAll calls).answers others := by
  induction calls generalizing store with
  | nil => rfl
  | cons call rest ih => exact congrArg _ (ih _)

theorem topologies_start (seed : Option Topology) (id : TopologyId) :
    (start seed).topologies[id]? = seed.filter fun t => t.id = id := by
  cases seed with
  | none => exact Std.TreeMap.getElem?_emptyc
  | some t =>
      have hwritten : (start (some t)).topologies[id]? = if t.id = id then some t else none :=
        (topologies_writeTopology empty t id).trans (by rw [empty, Std.TreeMap.getElem?_emptyc])
      rw [hwritten, Option.filter_some]
      simp only [decide_eq_true_eq]

theorem getService_start (seed : Option Topology) (id : ServiceId) :
    (start seed).getService id = none := by
  cases seed with
  | none => exact getService_empty id
  | some t => exact getService_ofTopology t id

variable {seed : Option Topology} {calls : List StoreCall}

theorem filed_afterAll (seed : Option Topology) (calls : List StoreCall) :
    ((start seed).afterAll calls).Filed := by
  induction calls using List.reverseRecOn with
  | nil => exact filed_of_none (getService_start seed)
  | append_singleton calls call ih =>
      rw [afterAll_concat]
      exact filed_answer ih call

theorem topologies_afterAll (seed : Option Topology) (calls : List StoreCall) (id : TopologyId) :
    ((start seed).afterAll calls).topologies[id]? = lastTopology seed calls id := by
  induction calls using List.reverseRecOn with
  | nil => exact topologies_start seed id
  | append_singleton calls call ih =>
      rw [afterAll_concat, topologies_answer, ih, lastTopology_concat]

theorem getService_afterAll (seed : Option Topology) (calls : List StoreCall) (id : ServiceId) :
    ((start seed).afterAll calls).getService id = lastService calls id := by
  induction calls using List.reverseRecOn with
  | nil => exact getService_start seed id
  | append_singleton calls call ih =>
      rw [afterAll_concat, getService_answer, ih, lastService_concat]

theorem version_afterAll (seed : Option Topology) (calls : List StoreCall) :
    ((start seed).afterAll calls).version = writesIn seed calls := by
  induction calls using List.reverseRecOn with
  | nil => cases seed <;> rfl
  | append_singleton calls call ih =>
      rw [afterAll_concat, version_answer, ih, writesIn, writesIn, answers_append,
        List.countP_append, List.countP_append]
      simp only [answers]
      omega

/-- Every call is answered as it must be after those before it. -/
theorem answered_afterAll (seed : Option Topology) (calls : List StoreCall) (call : StoreCall) :
    call.Answered seed calls (((start seed).afterAll calls).answer call).1 := by
  cases call with
  | writeTopology t => rfl
  | putService s => rfl
  | removeService id =>
      rw [StoreCall.Answered, answer, fst_removeService, getService_afterAll]
  | readTopology id => rw [StoreCall.Answered, answer, readTopology_eq, topologies_afterAll]
  | getService id => rw [StoreCall.Answered, answer, getService_afterAll]
  | listServices =>
      have hfiled := filed_afterAll seed calls
      refine ⟨_, rfl, listServices_ascending hfiled, fun s => ?_⟩
      rw [mem_listServices hfiled, getService_afterAll]
  | version => rw [StoreCall.Answered, answer, version_afterAll]

/-- While calls are made the version does not go back, and if it stays nothing is changed. -/
theorem version_le_afterAll (store : Store) (calls : List StoreCall) :
    store.version ≤ (store.afterAll calls).version ∧
      ((store.afterAll calls).version = store.version → store.afterAll calls = store) := by
  induction calls using List.reverseRecOn with
  | nil => exact ⟨Nat.le_refl _, fun _ => rfl⟩
  | append_singleton calls call ih =>
      obtain ⟨hle, heq⟩ := ih
      rw [afterAll_concat]
      rcases answer_eq_or_version_succ (store.afterAll calls) call with hsame | hsucc
      · rw [hsame]
        exact ⟨hle, heq⟩
      · rw [hsucc]
        exact ⟨by omega, fun h => by omega⟩

/-- The store at a moment of a run, after so many of its calls. -/
def moment (seed : Option Topology) (calls : List StoreCall) (i : Nat) : Store :=
  (start seed).afterAll (calls.take i)

theorem version_le_of_le (seed : Option Topology) (calls : List StoreCall) {i j : Nat}
    (hij : i ≤ j) :
    (moment seed calls i).version ≤ (moment seed calls j).version ∧
      ((moment seed calls j).version = (moment seed calls i).version →
        moment seed calls j = moment seed calls i) := by
  have hsplit := List.take_append_drop i (calls.take j)
  rw [List.take_take, Nat.min_eq_left hij] at hsplit
  rw [moment, moment, ← hsplit, afterAll_append]
  exact version_le_afterAll _ _

theorem eq_of_version_eq {i j : Nat}
    (h : (moment seed calls i).version = (moment seed calls j).version) :
    moment seed calls i = moment seed calls j := by
  rcases Nat.le_total i j with hij | hji
  · exact ((version_le_of_le seed calls hij).2 h.symm).symm
  · exact (version_le_of_le seed calls hji).2 h

theorem version_moment_le (seed : Option Topology) (calls : List StoreCall) (i : Nat) :
    (moment seed calls i).version ≤ writesIn seed calls := by
  have hafter : (start seed).afterAll calls = (moment seed calls i).afterAll (calls.drop i) := by
    rw [moment, ← afterAll_append, List.take_append_drop]
  rw [← version_afterAll, hafter]
  exact (version_le_afterAll _ _).1

/-- If there are not more writes than words, no two versions are the same word. -/
theorem toNat_versionWord (h : writesIn seed calls < UInt64.size) (i : Nat) :
    (moment seed calls i).versionWord.toNat = (moment seed calls i).version :=
  UInt64.toNat_ofNat_of_lt' ((version_moment_le seed calls i).trans_lt h)

end Store

open Store

/-- Every call on a store is answered with what the calls before it have left, and the version is
the number of writes. So it never goes back, and is the same at two moments only if the contents
are; its readers can rely on that as long as there are fewer writes than words. -/
theorem store_refines_versioned_map (seed : Option Topology) (calls : List StoreCall) :
    (∀ i (call : StoreCall), calls[i]? = some call →
      ∃ answer, ((start seed).answers calls)[i]? = some answer ∧
        call.Answered seed (calls.take i) answer) ∧
    (∀ i, (moment seed calls i).version = writesIn seed (calls.take i)) ∧
    (∀ i j, i ≤ j → (moment seed calls i).version ≤ (moment seed calls j).version) ∧
    (∀ i j, (moment seed calls i).version = (moment seed calls j).version →
      moment seed calls i = moment seed calls j) ∧
    (writesIn seed calls < UInt64.size →
      (∀ i j, i ≤ j → (moment seed calls i).versionWord ≤ (moment seed calls j).versionWord) ∧
      ∀ i j, (moment seed calls i).versionWord = (moment seed calls j).versionWord →
        moment seed calls i = moment seed calls j) := by
  refine ⟨fun i call hcall => ?answered, fun i => ?counted, fun i j hij => ?ascends,
    fun i j heq => ?same, fun hfew => ⟨fun i j hij => ?wordAscends, fun i j heq => ?sameWord⟩⟩
  case answered =>
    refine ⟨_, ?_, answered_afterAll seed (calls.take i) call⟩
    rw [getElem?_answers, hcall, Option.map_some]
  case counted => exact version_afterAll seed (calls.take i)
  case ascends => exact (version_le_of_le seed calls hij).1
  case same => exact eq_of_version_eq heq
  case wordAscends =>
    rw [UInt64.le_iff_toNat_le, toNat_versionWord hfew, toNat_versionWord hfew]
    exact (version_le_of_le seed calls hij).1
  case sameWord =>
    have hnat := congrArg UInt64.toNat heq
    rw [toNat_versionWord hfew, toNat_versionWord hfew] at hnat
    exact eq_of_version_eq hnat

/-- A service is stored, removed, and removed again. -/
def removedTwice : List StoreCall :=
  [.putService ⟨"s", .pointToPoint, false, [], [], Instant.epoch⟩, .removeService "s",
    .removeService "s", .version]

/-- The second removal finds nothing, and leaves the version and all else as it was. -/
theorem removedTwice_unchanged :
    (∃ answer, ((start (some Sample.isolatedNodes)).answers removedTwice)[3]? = some answer ∧
      StoreCall.version.Answered (some Sample.isolatedNodes) (removedTwice.take 3) answer) ∧
    (moment (some Sample.isolatedNodes) removedTwice 1).version <
      (moment (some Sample.isolatedNodes) removedTwice 2).version ∧
    (moment (some Sample.isolatedNodes) removedTwice 1).versionWord ≤
      (moment (some Sample.isolatedNodes) removedTwice 2).versionWord ∧
    moment (some Sample.isolatedNodes) removedTwice 2 =
      moment (some Sample.isolatedNodes) removedTwice 3 := by
  obtain ⟨hanswered, -, -, -, hwords⟩ :=
    store_refines_versioned_map (some Sample.isolatedNodes) removedTwice
  obtain ⟨hascends, hsame⟩ := hwords (by decide +kernel)
  exact ⟨hanswered 3 .version rfl, by decide +kernel, hascends 1 2 (by decide),
    hsame 2 3 (by decide +kernel)⟩

end Connectivity
