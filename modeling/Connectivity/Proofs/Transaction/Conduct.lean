import Connectivity.Proofs.Transaction.Course
import Mathlib.Data.List.Induction

/-!
# The conduct of a transaction

A transaction is asked to take drivers and to run them, in any order and any number of times. It is
being built until it runs for the first time with a driver in it. From then on it is finished: it
refuses everything, and nothing changes any more.
-/
namespace Connectivity

namespace Transaction

variable {ε : Type}

/-- What a transaction is asked: to take a driver, or to run an operation on those that it has. -/
inductive Request (ε : Type) where
  | add (i : Instance ε)
  | run (op : Operation)

/-- How a request is answered: whether it is refused, the calls that drivers receive, and the
transaction afterwards. -/
structure Answer (ε : Type) where
  result : Except Error Unit
  calls : List (InstanceId × DriverOp)
  after : Transaction ε

/-- A driver that is refused is not kept. -/
def answer (t : Transaction ε) : Request ε → Answer ε
  | .add i =>
      match t.add i with
      | .ok after => ⟨.ok (), [], after⟩
      | .error e => ⟨.error e, [], t⟩
  | .run op => ⟨(t.run op).2.result.map fun _ => (), (t.run op).2.calls, (t.run op).1⟩

/-- The transaction after some requests. -/
def afterAll (t : Transaction ε) (requests : List (Request ε)) : Transaction ε :=
  requests.foldl (fun t request => (t.answer request).after) t

/-- The answers to some requests, one after another. -/
def answers (t : Transaction ε) : List (Request ε) → List (Answer ε)
  | [] => []
  | request :: rest => t.answer request :: (t.answer request).after.answers rest

/-- The transaction has run. -/
def Finished (t : Transaction ε) : Prop := t.state = .committed ∨ t.state = .rolledBack

/-- A request that is refused as an illegal state reaches no driver and changes nothing. -/
def Refuses (t : Transaction ε) (request : Request ε) : Prop :=
  ∃ message, t.answer request = ⟨.error (.illegalState message), [], t⟩

/-- A request that runs drivers finishes the transaction. -/
def Runs (t : Transaction ε) (request : Request ε) : Prop :=
  (t.answer request).result = .ok () ∧ (t.answer request).calls ≠ [] ∧
    (t.answer request).after.Finished

variable {t : Transaction ε}

theorem Finished.not_building (h : t.Finished) : t.state ≠ .building := by
  rcases h with h | h <;> simp [h]

/-- A finished transaction refuses everything. -/
theorem Finished.refuses (h : t.Finished) (request : Request ε) : t.Refuses request := by
  cases request with
  | add i =>
      refine ⟨"cannot add driver to transaction in state " ++ t.state.name, ?_⟩
      simp only [answer, add, if_neg h.not_building]
  | run op =>
      refine ⟨"transaction already executed, state " ++ t.state.name, ?_⟩
      simp only [answer, run, if_pos h.not_building]
      rfl

/-- A run without a driver is refused, and the transaction is still being built. -/
theorem refuses_run_of_empty (h : t.state = .building) (hempty : t.drivers = []) (op : Operation) :
    t.Refuses (.run op) := by
  refine ⟨"at least one driver required", ?_⟩
  simp only [answer, run, h, hempty, ne_eq, not_true_eq_false, if_false, List.isEmpty_nil, if_true]
  rfl

/-- While it is being built a transaction takes every driver, and calls none. -/
theorem answer_add_of_building (h : t.state = .building) (i : Instance ε) :
    t.answer (.add i) = ⟨.ok (), [], { t with drivers := t.drivers ++ [i] }⟩ := by
  simp only [answer, add, if_pos h]

/-- A run with a driver calls it, whatever the driver does then. -/
theorem runs_of_building (h : t.state = .building) (hne : t.drivers ≠ []) (op : Operation) :
    t.Runs (.run op) := by
  have hordered : executionOrder t.drivers ≠ [] := fun hnil =>
    hne (hnil ▸ executionOrder_perm t.drivers).symm.eq_nil
  rcases succeed_or_firstFailure op t.deadline (executionOrder t.drivers) with
    hall | ⟨position, i, e, hfirst⟩
  · have hcommits := commits_of_success h hne hall
    refine ⟨?_, ?_, .inl hcommits.state⟩
    · rw [answer, hcommits.outcome]
      rfl
    · rw [answer, hcommits.calls]
      simp [hordered]
  · have hrolls := rollsBack_of_firstFailure h hne hfirst
    refine ⟨?_, ?_, .inr hrolls.state⟩
    · rw [answer, hrolls.outcome]
      rfl
    · rw [answer, hrolls.calls]
      simp [hordered]

/-- A request is refused, or adds a driver to a transaction that is being built, or runs it. -/
theorem answer_cases (h : t.state = .building ∨ t.Finished) (request : Request ε) :
    t.Refuses request ∨
      (t.state = .building ∧ ∃ i, request = .add i ∧
        t.answer request = ⟨.ok (), [], { t with drivers := t.drivers ++ [i] }⟩) ∨
      t.state = .building ∧ t.Runs request := by
  rcases h with h | h
  · cases request with
    | add i => exact .inr (.inl ⟨h, i, rfl, answer_add_of_building h i⟩)
    | run op =>
        by_cases hempty : t.drivers = []
        · exact .inl (refuses_run_of_empty h hempty op)
        · exact .inr (.inr ⟨h, runs_of_building h hempty op⟩)
  · exact .inl (h.refuses request)

/-- Between two requests a transaction is being built or finished. -/
theorem settled_answer (h : t.state = .building ∨ t.Finished) (request : Request ε) :
    (t.answer request).after.state = .building ∨ (t.answer request).after.Finished := by
  rcases answer_cases h request with ⟨message, hrefused⟩ | ⟨hbuilding, i, -, hadded⟩ | ⟨-, hruns⟩
  · rwa [hrefused]
  · rw [hadded]
    exact .inl hbuilding
  · exact .inr hruns.2.2

theorem settled_afterAll (h : t.state = .building ∨ t.Finished) (requests : List (Request ε)) :
    (t.afterAll requests).state = .building ∨ (t.afterAll requests).Finished :=
  List.foldlRecOn (motive := fun t : Transaction ε => t.state = .building ∨ t.Finished)
    requests _ h fun _ h request _ => settled_answer h request

theorem afterAll_cons (t : Transaction ε) (request : Request ε) (rest : List (Request ε)) :
    t.afterAll (request :: rest) = (t.answer request).after.afterAll rest := rfl

theorem afterAll_append (t : Transaction ε) (requests others : List (Request ε)) :
    t.afterAll (requests ++ others) = (t.afterAll requests).afterAll others := List.foldl_append

theorem afterAll_concat (t : Transaction ε) (requests : List (Request ε)) (request : Request ε) :
    t.afterAll (requests ++ [request]) = ((t.afterAll requests).answer request).after :=
  t.afterAll_append requests [request]

theorem answers_concat (t : Transaction ε) (requests : List (Request ε)) (request : Request ε) :
    t.answers (requests ++ [request]) =
      t.answers requests ++ [(t.afterAll requests).answer request] := by
  induction requests generalizing t with
  | nil => rfl
  | cons first rest ih =>
      rw [List.cons_append, answers, ih, answers]
      rfl

/-- Once it is finished a transaction never changes again. -/
theorem Finished.afterAll_eq (h : t.Finished) (requests : List (Request ε)) :
    t.afterAll requests = t := by
  induction requests with
  | nil => rfl
  | cons request rest ih =>
      obtain ⟨message, hrefused⟩ := h.refuses request
      rw [afterAll_cons, hrefused, ih]

/-- The driver that a request adds. -/
def Request.added? : Request ε → Option (Instance ε)
  | .add i => some i
  | .run _ => none

/-- The answer comes from drivers that were called. -/
def Answer.reachesDrivers (a : Answer ε) : Bool := !a.calls.isEmpty

/-- What is known of a transaction after some requests. -/
structure Conduct (order : RollbackOrder) (deadline : Deadline) (requests : List (Request ε))
    (t : Transaction ε) : Prop where
  /-- It is never seen while its drivers run. -/
  settled : t.state = .building ∨ t.state = .committed ∨ t.state = .rolledBack
  /-- It is being built until a run is asked for when it has a driver. -/
  building_iff : t.state = .building ↔ ∀ before op later, requests = before ++ .run op :: later →
    ((new order deadline).afterAll before).drivers = []
  /-- While it is being built it has the drivers that were added. -/
  drivers : t.state = .building → t.drivers = requests.filterMap Request.added?
  takes : t.state = .building → ∀ i,
    t.answer (.add i) = ⟨.ok (), [], { t with drivers := t.drivers ++ [i] }⟩
  empty_refuses : t.state = .building → t.drivers = [] → ∀ op, t.Refuses (.run op)
  runs : t.state = .building → t.drivers ≠ [] → ∀ op, t.Runs (.run op)
  finished_refuses : t.state ≠ .building → ∀ request, t.Refuses request
  finished_stays : t.state ≠ .building → ∀ later, t.afterAll later = t
  /-- Drivers were called once if it is finished, and else not at all. -/
  reached : ((new order deadline).answers requests).countP Answer.reachesDrivers =
    if t.state = .building then 0 else 1

section New

variable (order : RollbackOrder) (deadline : Deadline) (requests : List (Request ε))

theorem settled_afterAll_new :
    ((new order deadline : Transaction ε).afterAll requests).state = .building ∨
      ((new order deadline).afterAll requests).Finished := settled_afterAll (.inl rfl) requests

/-- A run with a driver is the end of building, and a run without one is not. -/
theorem building_afterAll_iff :
    ((new order deadline : Transaction ε).afterAll requests).state = .building ↔
      ∀ before op later, requests = before ++ .run op :: later →
        ((new order deadline).afterAll before).drivers = [] := by
  constructor
  · rintro hbuilding before op later rfl
    by_contra hne
    have hfinished : (((new order deadline).afterAll before).answer (.run op)).after.Finished := by
      rcases settled_afterAll_new order deadline before with h | h
      · exact (runs_of_building h hne op).2.2
      · obtain ⟨message, hrefused⟩ := h.refuses (.run op)
        rwa [hrefused]
    rw [afterAll_append, afterAll_cons, hfinished.afterAll_eq later] at hbuilding
    exact hfinished.not_building hbuilding
  · intro hempty
    induction requests using List.reverseRec with
    | nil => rfl
    | append_singleton requests request ih =>
        have hbuilding := ih fun before op later heq =>
          hempty before op (later ++ [request]) (by rw [heq, List.append_assoc, List.cons_append])
        rw [afterAll_concat]
        cases request with
        | add i => rwa [answer_add_of_building hbuilding]
        | run op =>
            obtain ⟨message, hrefused⟩ :=
              refuses_run_of_empty hbuilding (hempty requests op [] rfl) op
            rwa [hrefused]

theorem drivers_afterAll (h : ((new order deadline : Transaction ε).afterAll requests).state =
    .building) : ((new order deadline).afterAll requests).drivers =
      requests.filterMap Request.added? := by
  induction requests using List.reverseRec with
  | nil => rfl
  | append_singleton requests request ih =>
      rw [afterAll_concat] at h ⊢
      rw [List.filterMap_append]
      rcases answer_cases (settled_afterAll_new order deadline requests) request with
        ⟨message, hrefused⟩ | ⟨hbuilding, i, rfl, hadded⟩ | ⟨-, hruns⟩
      · rw [hrefused] at h ⊢
        rw [ih h]
        cases request with
        | add i =>
            rw [answer_add_of_building h] at hrefused
            exact nomatch hrefused
        | run op => exact (List.append_nil _).symm
      · rw [hadded, ih hbuilding]
        rfl
      · exact absurd h hruns.2.2.not_building

/-- Of all requests at most one comes through to drivers, the one that finishes the transaction. -/
theorem countP_reachesDrivers :
    ((new order deadline : Transaction ε).answers requests).countP Answer.reachesDrivers =
      if ((new order deadline : Transaction ε).afterAll requests).state = .building then 0
      else 1 := by
  induction requests using List.reverseRec with
  | nil => rfl
  | append_singleton requests request ih =>
      rw [answers_concat, List.countP_append, ih, afterAll_concat]
      rcases answer_cases (settled_afterAll_new order deadline requests) request with
        ⟨message, hrefused⟩ | ⟨hbuilding, i, -, hadded⟩ | ⟨hbuilding, -, hcalls, hfinished⟩
      · rw [hrefused]
        simp [Answer.reachesDrivers]
      · rw [hadded]
        simp [Answer.reachesDrivers, hbuilding]
      · rw [if_pos hbuilding, if_neg hfinished.not_building]
        simp [Answer.reachesDrivers, hcalls]

/-- A transaction runs drivers once at most, and is never changed after that. -/
theorem conduct_of_requests :
    Conduct order deadline requests ((new order deadline).afterAll requests) where
  settled := settled_afterAll_new order deadline requests
  building_iff := building_afterAll_iff order deadline requests
  drivers := drivers_afterAll order deadline requests
  takes := answer_add_of_building
  empty_refuses := refuses_run_of_empty
  runs := runs_of_building
  finished_refuses hne :=
    ((settled_afterAll_new order deadline requests).resolve_left hne).refuses
  finished_stays hne :=
    ((settled_afterAll_new order deadline requests).resolve_left hne).afterAll_eq
  reached := countP_reachesDrivers order deadline requests

end New

end Transaction

end Connectivity
