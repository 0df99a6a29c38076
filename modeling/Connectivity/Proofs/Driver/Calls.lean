import Connectivity.Driver.Basic

/-!
# How calls end

A call is cut if and only if it would take longer than its deadline. So every call does one of three
things: it succeeds, fails in time, or times out.
-/
namespace Connectivity

variable {ε : Type}

/-- No call that changes a device settles it. -/
theorem Operation.call_ne_settlement (op : Operation) (kind : Settlement) :
    op.call ≠ kind.call := by
  cases op <;> cases kind <;> simp [Operation.call, Settlement.call]

theorem Operation.call_ne_commit (op : Operation) : op.call ≠ .commit :=
  op.call_ne_settlement .commit

/-- The time that actions take if they are not cut. -/
def duration : List (Action ε) → Nat
  | [] => 0
  | .emit _ :: rest => duration rest
  | .pause millis :: rest => min millis longestPause + duration rest

theorem cut_playActions_none (actions : List (Action ε)) (spent : Nat) :
    (playActions none actions spent).cut = false := by
  induction actions generalizing spent with
  | nil => rfl
  | cons action actions ih =>
      cases action with
      | emit event => exact ih spent
      | pause millis => exact ih _

/-- Actions are cut if their time and the time before them exceed the limit. -/
theorem cut_playActions_some {limit spent : Nat} (actions : List (Action ε)) (h : spent ≤ limit) :
    (playActions (some limit) actions spent).cut = true ↔ limit < spent + duration actions := by
  induction actions generalizing spent with
  | nil =>
      have hlimit : ¬ limit < spent := by omega
      simpa [playActions, duration] using hlimit
  | cons action actions ih =>
      cases action with
      | emit event => exact ih h
      | pause millis =>
          simp only [playActions, duration]
          by_cases hspent : spent + min millis longestPause ≤ limit
          · rw [if_pos hspent, ih hspent, Nat.add_assoc]
          · rw [if_neg hspent]
            have hlimit : limit < spent + (min millis longestPause + duration actions) := by omega
            exact iff_of_true rfl hlimit

namespace Driver

variable {d : Driver ε} {op : Operation} {deadline : Deadline}

/-- The time that a call takes if it is not cut. -/
def callDuration (d : Driver ε) (op : Operation) : Nat := duration (d.script op).actions

/-- A call that takes no longer than the deadline. -/
def InTime (d : Driver ε) (op : Operation) (deadline : Deadline) : Prop :=
  ∀ limit, deadline = some limit → d.callDuration op ≤ limit

structure Succeeds (d : Driver ε) (op : Operation) (deadline : Deadline) : Prop where
  inTime : d.InTime op deadline
  result : (d.script op).result = .ok ()

/-- A call that overruns the deadline times out, whatever its result would be. -/
inductive Fails (d : Driver ε) (op : Operation) : Deadline → DriverError → Prop where
  | overrun {limit : Nat} (h : limit < d.callDuration op) :
      Fails d op (some limit) (.timeout op.call.name limit)
  | fault {deadline : Deadline} {e : DriverError} (inTime : d.InTime op deadline)
      (h : (d.script op).result = .error e) : Fails d op deadline e

theorem invoke_of_inTime (h : d.InTime op deadline) :
    (d.invoke op deadline).result = (d.script op).result := by
  have hcut : (playActions deadline (d.script op).actions 0).cut = false := by
    cases deadline with
    | none => exact cut_playActions_none _ 0
    | some limit =>
        have hlimit := h limit rfl
        rw [callDuration] at hlimit
        rw [Bool.eq_false_iff, ne_eq, cut_playActions_some _ (Nat.zero_le limit)]
        omega
  rw [invoke, hcut, if_neg Bool.false_ne_true]

theorem Succeeds.invoke (h : d.Succeeds op deadline) : (d.invoke op deadline).result = .ok () := by
  rw [invoke_of_inTime h.inTime, h.result]

theorem Fails.invoke {e : DriverError} (h : d.Fails op deadline e) :
    (d.invoke op deadline).result = .error e := by
  cases h with
  | @overrun limit h =>
      have hcut : (playActions (some limit) (d.script op).actions 0).cut = true := by
        rw [cut_playActions_some _ (Nat.zero_le limit), Nat.zero_add]
        exact h
      rw [Driver.invoke, hcut, if_pos rfl, Option.getD_some]
  | fault inTime h => rw [invoke_of_inTime inTime, h]

/-- A call does one or the other. -/
theorem succeeds_or_fails (d : Driver ε) (op : Operation) (deadline : Deadline) :
    d.Succeeds op deadline ∨ ∃ e, d.Fails op deadline e := by
  by_cases h : d.InTime op deadline
  · cases hresult : (d.script op).result with
    | ok => exact .inl ⟨h, hresult⟩
    | error e => exact .inr ⟨e, .fault h hresult⟩
  · obtain ⟨limit, rfl, hlimit⟩ : ∃ limit, deadline = some limit ∧ limit < d.callDuration op := by
      simpa [InTime] using h
    exact .inr ⟨_, .overrun hlimit⟩

end Driver

end Connectivity
