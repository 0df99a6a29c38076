import Connectivity.Proofs.Service.Revision

/-!
# Calls that overlap

A call that changes a service reads its record, drives devices and then writes. Nothing keeps other
calls from the service in between, and the write does not look at what is stored by then. So calls
that are open together all work on one record, and the one that closes last has the last word.
-/
namespace Connectivity

/-- A call that is to change a stored service. Each call may have a manager of its own. -/
structure ServiceCall (ε : Type) where
  manager : Manager Store ε
  revision : Revision

namespace ServiceCall

variable {ε : Type}

/-- The call from beginning to end. -/
def perform (c : ServiceCall ε) (id : ServiceId) : Routine Store ε Service :=
  c.manager.perform (c.revision.command id)

/-- The store after the call, if nothing comes between. -/
def after (c : ServiceCall ε) (id : ServiceId) (store : Store) : Store :=
  ((c.perform id).run store).2

/-- The call can change a record. -/
def CanRevise (c : ServiceCall ε) (topologies : TopologyId → Except Error Topology)
    (old : Service) : Prop :=
  c.manager.CanRevise topologies old c.revision

variable {c c' : ServiceCall ε} {id : ServiceId} {store : Store} {old s : Service}
  {e e' : ServiceEndPoint}

theorem after_of_canRevise (hstored : store.getService id = some old)
    (h : c.CanRevise store.readTopology old) : c.after id store = c.revision.write old store := by
  rw [after, perform, Manager.run_perform_of_stored hstored]
  exact (Manager.run_resume h).2

theorem after_of_absent (h : store.getService id = none) : c.after id store = store := by
  obtain ⟨e, -, hrun⟩ := Manager.run_perform_of_absent (m := c.manager) (r := c.revision) h
  rw [after, perform, hrun]

theorem after_of_error {e : Error} (h : ((c.perform id).run store).1.result = .error e) :
    c.after id store = store :=
  (perform_allOrNothing c.manager (c.revision.command id) store e h).store_eq

/-- What a call leaves under the id of the service. -/
theorem getService_after (hid : old.id = id) (hstored : store.getService id = some old)
    (h : c.CanRevise store.readTopology old) :
    (c.after id store).getService id = c.revision.leaves old := by
  rw [after_of_canRevise hstored h, Revision.getService_write, hid, Function.update_self]

/-- One update after another of a different endpoint changes both. -/
theorem getService_after_updates (hc : c.revision = .update e) (hc' : c'.revision = .update e')
    (hne : e.localId ≠ e'.localId) (hid : old.id = id) (hstored : store.getService id = some old)
    (h : c.CanRevise store.readTopology old) (h' : c'.CanRevise store.readTopology old) :
    (c'.after id (c.after id store)).getService id =
      some ((old.replaceEndpoint e).replaceEndpoint e') := by
  have hfirst : (c.after id store).getService id = some (old.replaceEndpoint e) := by
    rw [getService_after hid hstored h, hc]
    rfl
  have htopologies : (c.after id store).readTopology = store.readTopology := by
    rw [after_of_canRevise hstored h, Revision.readTopology_write]
  have hsecond : c'.CanRevise (c.after id store).readTopology (old.replaceEndpoint e) := by
    rw [CanRevise, hc', htopologies]
    rw [CanRevise, hc'] at h'
    exact h'.replaceEndpoint hne
  rw [getService_after ((old.id_replaceEndpoint e).trans hid) hfirst hsecond, hc']
  rfl

/-- A deletion that succeeds leaves nothing. -/
theorem getService_after_removal (hc : c.revision = .removal) (hfiled : store.Filed)
    (h : ((c.perform id).run store).1.result = .ok s) :
    (c.after id store).getService id = none := by
  rw [perform, hc] at h
  rw [after, perform, hc, (Manager.done_of_ok hfiled h).services]
  exact Function.update_self id none store.getService

/-- Of changes made to one and the same record, it is the last one that stays. -/
theorem getService_written {ι : Type} (calls : ι → ServiceCall ε) (hid : old.id = id)
    (store : Store) (front : List ι) (last : ι) :
    ((front ++ [last]).foldl (fun store i => (calls i).revision.write old store) store).getService
      id = (calls last).revision.leaves old := by
  rw [List.foldl_append, List.foldl_cons, List.foldl_nil, Revision.getService_write, hid,
    Function.update_self]

end ServiceCall

/-- How far a call has come. -/
inductive Stage where
  | waiting
  | opened (s : Service)
  | closed (result : Except Error Service)

/-- The record that a call has given, if it has ended in success. -/
def Stage.given? : Stage → Option Service
  | closed (.ok s) => some s
  | _ => none

/-- A store, and the calls that are at work on it. -/
structure Overlap (ι : Type) where
  store : Store
  stages : ι → Stage

namespace Overlap

/-- No call has begun. -/
def start {ι : Type} (store : Store) : Overlap ι := ⟨store, fun _ => .waiting⟩

section Turns

variable {ι ε : Type} [DecidableEq ι]

/-- A call has come to a stage, and this is the store now. -/
def moved (o : Overlap ι) (i : ι) (store : Store) (stage : Stage) : Overlap ι :=
  ⟨store, Function.update o.stages i stage⟩

/-- A call comes to its next access to the service: it opens with a read, and it closes with a write
after all else that it does. The topology that it reads by then is the one that it could have read
before, because no call writes topologies. -/
def turn (calls : ι → ServiceCall ε) (id : ServiceId) (o : Overlap ι) (i : ι) : Overlap ι :=
  match o.stages i with
  | .waiting =>
      match Manager.require o.store id with
      | .ok s => o.moved i o.store (.opened s)
      | .error e => o.moved i o.store (.closed (.error e))
  | .opened s =>
      let (course, after) := ((calls i).manager.resume s (calls i).revision).run o.store
      o.moved i after (.closed course.result)
  | .closed _ => o

/-- The calls come to their accesses in turn. -/
def play (calls : ι → ServiceCall ε) (id : ServiceId) (o : Overlap ι) (turns : List ι) :
    Overlap ι :=
  turns.foldl (turn calls id) o

variable {calls : ι → ServiceCall ε} {id : ServiceId} {o : Overlap ι} {i j : ι} {old : Service}
  {turns : List ι} {store : Store} {stage : Stage}

@[simp] theorem store_moved : (o.moved i store stage).store = store := rfl

@[simp] theorem stages_moved_self : (o.moved i store stage).stages i = stage := by
  simp only [moved, Function.update_self]

theorem stages_moved_of_ne (h : j ≠ i) : (o.moved i store stage).stages j = o.stages j := by
  simp only [moved, Function.update_of_ne h]

@[simp] theorem moved_moved (store' : Store) (stage' : Stage) :
    (o.moved i store stage).moved i store' stage' = o.moved i store' stage' := by
  simp only [moved, Function.update_idem]

theorem stages_turn_of_ne (h : j ≠ i) : (o.turn calls id i).stages j = o.stages j := by
  unfold turn
  split
  case h_1 => split <;> exact stages_moved_of_ne h
  case h_2 => exact stages_moved_of_ne h
  case h_3 => rfl

theorem turn_waiting (hi : o.stages i = .waiting) (hstored : o.store.getService id = some old) :
    o.turn calls id i = o.moved i o.store (.opened old) := by
  simp only [turn, hi, Manager.require_of_stored hstored]

theorem turn_opened (hi : o.stages i = .opened old) :
    o.turn calls id i =
      o.moved i (((calls i).manager.resume old (calls i).revision).run o.store).2
        (.closed (((calls i).manager.resume old (calls i).revision).run o.store).1.result) := by
  simp only [turn, hi]

theorem turn_closed {result : Except Error Service} (hi : o.stages i = .closed result) :
    o.turn calls id i = o := by
  simp only [turn, hi]

/-- A call that closes in success was able to change the record that it had read, and did so. -/
theorem turn_of_given (hi : o.stages i = .opened old)
    (hgiven : ((o.turn calls id i).stages i).given?.isSome) :
    (calls i).CanRevise o.store.readTopology old ∧
      o.turn calls id i = o.moved i ((calls i).revision.write old o.store)
        (.closed (.ok ((calls i).revision.gives old))) := by
  rw [turn_opened hi, stages_moved_self] at hgiven
  cases hresult : (((calls i).manager.resume old (calls i).revision).run o.store).1.result with
  | error e =>
      rw [hresult] at hgiven
      exact nomatch hgiven
  | ok s =>
      have hcan := Manager.canRevise_of_ok hresult
      obtain ⟨hgives, hwritten⟩ := Manager.run_resume hcan
      exact ⟨hcan, by rw [turn_opened hi, hgives, hwritten]⟩

/-- Two accesses of a call without any other between them are the whole call. -/
theorem turn_turn (hi : o.stages i = .waiting) :
    (o.turn calls id i).turn calls id i =
      o.moved i ((calls i).after id o.store)
        (.closed (((calls i).perform id).run o.store).1.result) := by
  rw [ServiceCall.after, ServiceCall.perform]
  cases hstored : o.store.getService id with
  | none =>
      obtain ⟨e, hrequire, hrun⟩ := Manager.run_perform_of_absent (m := (calls i).manager)
        (r := (calls i).revision) hstored
      have hrefused : o.turn calls id i = o.moved i o.store (.closed (.error e)) := by
        simp only [turn, hi, hrequire]
      rw [hrefused, turn_closed stages_moved_self, hrun]
      rfl
  | some old =>
      rw [turn_waiting hi hstored, turn_opened stages_moved_self, moved_moved,
        Manager.run_perform_of_stored hstored]
      rfl

theorem play_cons (calls : ι → ServiceCall ε) (id : ServiceId) (o : Overlap ι) (i : ι)
    (turns : List ι) : o.play calls id (i :: turns) = (o.turn calls id i).play calls id turns := rfl

theorem play_append (calls : ι → ServiceCall ε) (id : ServiceId) (o : Overlap ι)
    (turns turns' : List ι) :
    o.play calls id (turns ++ turns') = (o.play calls id turns).play calls id turns' :=
  List.foldl_append

/-- A call stays as it is while only others come to their accesses. -/
theorem stages_play_of_not_mem (h : i ∉ turns) : (o.play calls id turns).stages i = o.stages i := by
  induction turns generalizing o with
  | nil => rfl
  | cons j turns ih =>
      obtain ⟨hne, hnot⟩ := not_or.1 (mt List.mem_cons.2 h)
      rw [play_cons, ih hnot, stages_turn_of_ne hne]

/-- Calls that open one after another all read the same record. -/
theorem play_opening (hnodup : turns.Nodup) (hwaiting : ∀ i ∈ turns, o.stages i = .waiting)
    (hstored : o.store.getService id = some old) :
    (o.play calls id turns).store = o.store ∧
      ∀ i ∈ turns, (o.play calls id turns).stages i = .opened old := by
  induction turns generalizing o with
  | nil => exact ⟨rfl, nofun⟩
  | cons i turns ih =>
      obtain ⟨hnot, hnodup⟩ := List.nodup_cons.1 hnodup
      obtain ⟨hi, hwaiting⟩ := List.forall_mem_cons.1 hwaiting
      rw [play_cons, turn_waiting hi hstored]
      -- a read leaves the store alone, so the next call to open finds the same record
      have hstill : ∀ j ∈ turns, (o.moved i o.store (.opened old)).stages j = .waiting := by
        intro j hj
        rw [stages_moved_of_ne (ne_of_mem_of_not_mem hj hnot), hwaiting j hj]
      obtain ⟨hstore, hopened⟩ := ih hnodup hstill hstored
      refine ⟨hstore, List.forall_mem_cons.2 ⟨?_, hopened⟩⟩
      rw [stages_play_of_not_mem hnot, stages_moved_self]

/-- Calls that have read one record and close one after another, all in success, each change that
record, and write over what the others have written. -/
theorem play_closing (hnodup : turns.Nodup) (hopened : ∀ i ∈ turns, o.stages i = .opened old)
    (hgiven : ∀ i ∈ turns, ((o.play calls id turns).stages i).given?.isSome) :
    (∀ i ∈ turns, (calls i).CanRevise o.store.readTopology old ∧
        ((o.play calls id turns).stages i).given? = some ((calls i).revision.gives old)) ∧
      (o.play calls id turns).store =
        turns.foldl (fun store i => (calls i).revision.write old store) o.store := by
  induction turns generalizing o with
  | nil => exact ⟨nofun, rfl⟩
  | cons i turns ih =>
      obtain ⟨hnot, hnodup⟩ := List.nodup_cons.1 hnodup
      obtain ⟨hi, hopened⟩ := List.forall_mem_cons.1 hopened
      obtain ⟨hgivenHere, hgiven⟩ := List.forall_mem_cons.1 hgiven
      rw [play_cons, stages_play_of_not_mem hnot] at hgivenHere
      obtain ⟨hcan, hturn⟩ := turn_of_given hi hgivenHere
      simp only [play_cons, hturn] at hgiven ⊢
      have hstill : ∀ j ∈ turns, (o.moved i ((calls i).revision.write old o.store)
          (.closed (.ok ((calls i).revision.gives old)))).stages j = .opened old := by
        intro j hj
        rw [stages_moved_of_ne (ne_of_mem_of_not_mem hj hnot), hopened j hj]
      obtain ⟨hrest, hstore⟩ := ih hnodup hstill hgiven
      -- all that a call still reads when it closes are topologies, and the writes leave them alone
      rw [store_moved, Revision.readTopology_write] at hrest
      refine ⟨List.forall_mem_cons.2 ⟨⟨hcan, ?_⟩, hrest⟩, hstore⟩
      rw [stages_play_of_not_mem hnot, stages_moved_self]
      rfl

end Turns

end Overlap

/-- One call after the other, in some order, leaves the record. -/
def Serialisable {ε : Type} (calls : Bool → ServiceCall ε) (id : ServiceId) (store : Store)
    (record : Option Service) : Prop :=
  ∃ first, record = ((calls !first).after id ((calls first).after id store)).getService id

section Pair

variable {ε : Type} {calls : Bool → ServiceCall ε} {id : ServiceId} {store : Store} {old : Service}
  {turns : List Bool} {first last : Bool} {e e' : ServiceEndPoint}

/-- Of two updates of different endpoints, that of one is left only if the other one changes
nothing. -/
theorem serialisable_update_iff (hfirst : (calls !last).revision = .update e)
    (hlast : (calls last).revision = .update e') (hne : e.localId ≠ e'.localId) (hid : old.id = id)
    (hstored : store.getService id = some old)
    (hcan : ∀ i, (calls i).CanRevise store.readTopology old) :
    Serialisable calls id store (some (old.replaceEndpoint e')) ↔ old.replaceEndpoint e = old := by
  have hboth : ∀ first, ((calls !first).after id ((calls first).after id store)).getService id =
      some ((old.replaceEndpoint e).replaceEndpoint e') := by
    intro first
    rcases Bool.eq_or_eq_not first last with rfl | rfl
    · rw [ServiceCall.getService_after_updates hlast hfirst hne.symm hid hstored (hcan _) (hcan _),
        Service.replaceEndpoint_comm hne.symm]
    · rw [Bool.not_not]
      exact ServiceCall.getService_after_updates hfirst hlast hne hid hstored (hcan _) (hcan _)
  rw [Serialisable]
  simp only [hboth, exists_const, Option.some.injEq]
  rw [eq_comm, Service.replaceEndpoint_replaceEndpoint_eq_iff hne]

/-- A service that is removed in the end may have been removed before the other call. -/
theorem serialisable_none (hlast : (calls last).revision = .removal) (hid : old.id = id)
    (hstored : store.getService id = some old)
    (hcan : ∀ i, (calls i).CanRevise store.readTopology old) :
    Serialisable calls id store none := by
  have hremoved : ((calls last).after id store).getService id = none := by
    rw [ServiceCall.getService_after hid hstored (hcan last), hlast]
    rfl
  exact ⟨last, by rw [ServiceCall.after_of_absent hremoved, hremoved]⟩

/-- After a deletion in success there is a record only if the deletion would have failed on it. -/
theorem serialisable_restored_iff (hfirst : (calls !last).revision = .removal)
    (hlast : (calls last).revision = .update e) (hfiled : store.Filed) (hid : old.id = id)
    (hstored : store.getService id = some old)
    (hcan : ∀ i, (calls i).CanRevise store.readTopology old) :
    Serialisable calls id store (some (old.replaceEndpoint e)) ↔ ∃ error,
      (((calls !last).perform id).run ((calls last).after id store)).1.result = .error error := by
  have hremoved : ((calls !last).after id store).getService id = none := by
    rw [ServiceCall.getService_after hid hstored (hcan _), hfirst]
    rfl
  have hupdated : ((calls last).after id store).getService id = some (old.replaceEndpoint e) := by
    rw [ServiceCall.getService_after hid hstored (hcan _), hlast]
    rfl
  have hkept : ((calls last).after id store).Filed := by
    rw [ServiceCall.after_of_canRevise hstored (hcan _), hlast]
    exact hfiled.putService _
  constructor
  · rintro ⟨first, hrecord⟩
    rcases Bool.eq_or_eq_not first last with rfl | rfl
    · cases hresult : (((calls !first).perform id).run ((calls first).after id store)).1.result with
      | error error => exact ⟨error, rfl⟩
      | ok s =>
          rw [ServiceCall.getService_after_removal hfirst hkept hresult] at hrecord
          exact nomatch hrecord
    · rw [Bool.not_not, ServiceCall.after_of_absent hremoved, hremoved] at hrecord
      exact nomatch hrecord
  · rintro ⟨error, herror⟩
    exact ⟨last, by rw [ServiceCall.after_of_error herror, hupdated]⟩

/-- The call that closes last has the last word on the record that both calls have read: the other
one is lost. The calls could have come one after the other only if the lost update changes nothing,
or the service is removed, or the lost deletion would have failed. -/
structure LastWord (calls : Bool → ServiceCall ε) (id : ServiceId) (store : Store) (old : Service)
    (last : Bool) (o : Overlap Bool) : Prop where
  given : ∀ i, (o.stages i).given? = some ((calls i).revision.gives old)
  stored : o.store.getService id = (calls last).revision.leaves old
  updates : ∀ e e', (calls !last).revision = .update e → (calls last).revision = .update e' →
    (Serialisable calls id store (o.store.getService id) ↔ old.replaceEndpoint e = old)
  removed : (calls last).revision = .removal →
    Serialisable calls id store (o.store.getService id)
  restored : (calls !last).revision = .removal →
    (Serialisable calls id store (o.store.getService id) ↔ ∃ error,
      (((calls !last).perform id).run ((calls last).after id store)).1.result = .error error)

/-- Calls of two accesses each come one after the other, or both open before any closes. -/
theorem turns_cases (hturns : turns.Perm [true, true, false, false])
    (hlast : turns.getLast? = some last) :
    turns = [!last, !last, last, last] ∨ ∃ first, turns = [first, !first] ++ [!last, last] := by
  have hall : ∀ a b c d last : Bool, [a, b, c, d].Perm [true, true, false, false] →
      [a, b, c, d].getLast? = some last → [a, b, c, d] = [!last, !last, last, last] ∨
        ∃ first, [a, b, c, d] = [first, !first] ++ [!last, last] := by decide
  match turns, hturns.length_eq with
  | [a, b, c, d], _ => exact hall a b c d last hturns hlast

namespace Overlap

/-- Calls that do not overlap do what they do one after the other. -/
theorem store_play_in_turn :
    ((start store).play calls id [!last, !last, last, last]).store =
      (calls last).after id ((calls !last).after id store) := by
  have hwaiting : (start store : Overlap Bool).stages (!last) = .waiting := rfl
  have hstill : ∀ store' stage, ((start store : Overlap Bool).moved (!last) store' stage).stages
      last = .waiting := by
    intro store' stage
    rw [stages_moved_of_ne (Bool.not_ne_self last).symm]
    rfl
  simp only [play, List.foldl_cons, List.foldl_nil]
  rw [turn_turn hwaiting, turn_turn (hstill _ _)]
  rfl

/-- Two calls of different changes overlap. -/
theorem lastWord_play (hfiled : store.Filed) (hstored : store.getService id = some old)
    (hapart : (calls !last).revision.Apart (calls last).revision)
    (hgiven : ∀ i, (((start store).play calls id ([first, !first] ++ [!last, last])).stages
      i).given?.isSome) :
    LastWord calls id store old last
      ((start store).play calls id ([first, !first] ++ [!last, last])) := by
  have hid : old.id = id := hfiled id old hstored
  have hevery : ∀ x i : Bool, i ∈ [x, !x] := by decide
  have hnodup : ∀ x : Bool, [x, !x].Nodup := by decide
  have hswap : [!last, last].Perm [last, !last] := .swap last (!last) []
  obtain ⟨hstore, hopened⟩ : ((start store).play calls id [first, !first]).store = store ∧
      ∀ i ∈ [first, !first], ((start store).play calls id [first, !first]).stages i =
        .opened old := play_opening (hnodup first) (fun _ _ => rfl) hstored
  rw [play_append] at hgiven ⊢
  generalize (start store).play calls id [first, !first] = o at hstore hopened hgiven ⊢
  obtain ⟨hclosed, hwritten⟩ := play_closing (hswap.nodup_iff.2 (hnodup last))
    (fun i _ => hopened i (hevery first i)) (fun i _ => hgiven i)
  have hmem : ∀ i, i ∈ [!last, last] := fun i => hswap.mem_iff.2 (hevery last i)
  have hcan : ∀ i, (calls i).CanRevise store.readTopology old := by
    intro i
    have hcan := (hclosed i (hmem i)).1
    rwa [hstore] at hcan
  have hrecord : (o.play calls id [!last, last]).store.getService id =
      (calls last).revision.leaves old := by
    rw [hwritten]
    exact ServiceCall.getService_written calls hid o.store [!last] last
  constructor
  case given => exact fun i => (hclosed i (hmem i)).2
  case stored => exact hrecord
  case updates =>
    intro e e' hfirst hlast
    rw [hfirst, hlast] at hapart
    rw [hrecord, hlast]
    exact serialisable_update_iff hfirst hlast hapart hid hstored hcan
  case removed =>
    intro hlast
    rw [hrecord, hlast]
    exact serialisable_none hlast hid hstored hcan
  case restored =>
    intro hfirst
    cases hlast : (calls last).revision with
    | update e =>
        rw [hrecord, hlast]
        exact serialisable_restored_iff hfirst hlast hfiled hid hstored hcan
    | removal =>
        rw [hfirst, hlast] at hapart
        exact hapart.elim

/-- Two calls that succeed in changing a stored service differently: either one has closed before
the other opens, and they do what they do one after the other, or both have read the same record,
and the one that closes last has the last word. -/
theorem play_inTurn_or_lastWord (hfiled : store.Filed) (hstored : store.getService id = some old)
    (hapart : (calls true).revision.Apart (calls false).revision)
    (hturns : turns.Perm [true, true, false, false]) (hlast : turns.getLast? = some last)
    (hgiven : ∀ i, (((start store).play calls id turns).stages i).given?.isSome) :
    (turns = [!last, !last, last, last] → ((start store).play calls id turns).store =
      (calls last).after id ((calls !last).after id store)) ∧
    (turns ≠ [!last, !last, last, last] →
      LastWord calls id store old last ((start store).play calls id turns)) := by
  have hdifferent : (calls !last).revision.Apart (calls last).revision := by
    cases last with
    | false => exact hapart
    | true => exact hapart.symm
  constructor
  · rintro rfl
    exact store_play_in_turn
  · intro hne
    obtain ⟨first, rfl⟩ := (turns_cases hturns hlast).resolve_left hne
    exact lastWord_play hfiled hstored hdifferent hgiven

end Overlap

end Pair

/-- A service between two edge points of one node. -/
def localRequest : CreateRequest :=
  ⟨[Sample.endPoint "n1:1", Sample.endPoint "n1:2"], none, false⟩

def localService : Service :=
  Manager.recordOf "s" .epoch localRequest
    [⟨"n1", "n1", [⟨some (Sample.endPoint "n1:1"), some (Sample.ref "n1:1")⟩,
      ⟨some (Sample.endPoint "n1:2"), some (Sample.ref "n1:2")⟩]⟩]

/-- The store once the service is created. -/
def localInService : Store :=
  Store.empty.runAll [.writeTopology Sample.isolatedNodes,
    .command {} obliging (.create "s" .epoch localRequest)]

theorem localService_stored : localInService.getService "s" = some localService := by
  decide +kernel

/-- An update of each edge point. -/
def twoUpdates (i : Bool) : ServiceCall Notice :=
  ⟨.new {} obliging,
    .update ((Sample.endPoint (if i then "n1:1" else "n1:2")).withAttribute "vlan" "200")⟩

/-- An update that closes last undoes one that has come in between. -/
theorem update_lost :
    localInService.Reachable Notice ∧ localInService.getService "s" = some localService ∧
      (twoUpdates true).revision.Apart (twoUpdates false).revision ∧
      [true, false, false, true].Perm [true, true, false, false] ∧
      (∀ i, (((Overlap.start localInService).play twoUpdates "s" [true, false, false, true]).stages
        i).given?.isSome) ∧
      ¬ Serialisable twoUpdates "s" localInService
        (((Overlap.start localInService).play twoUpdates "s"
          [true, false, false, true]).store.getService "s") := by
  refine ⟨⟨_, rfl⟩, localService_stored, by decide, by decide, by decide +kernel, ?_⟩
  rw [Serialisable]
  decide +kernel

/-- An update, and a deletion of the whole service. -/
def updateAndDeletion (i : Bool) : ServiceCall Notice :=
  ⟨.new {} obliging,
    if i then .update ((Sample.endPoint "n1:1").withAttribute "vlan" "200") else .removal⟩

/-- An update that closes last brings back a service that was deleted in between. -/
theorem service_restored :
    (((Overlap.start localInService).play updateAndDeletion "s"
        [true, false, false, true]).store.getService "s").isSome ∧
      LastWord updateAndDeletion "s" localInService localService true
        ((Overlap.start localInService).play updateAndDeletion "s" [true, false, false, true]) := by
  have hreachable : localInService.Reachable Notice := ⟨_, rfl⟩
  have hlast : LastWord updateAndDeletion "s" localInService localService true
      ((Overlap.start localInService).play updateAndDeletion "s" [true, false, false, true]) := by
    refine (Overlap.play_inTurn_or_lastWord hreachable.filed localService_stored ?_ ?_ rfl ?_).2 ?_
    all_goals decide +kernel
  exact ⟨by rw [hlast.stored]; rfl, hlast⟩

end Connectivity
