import Connectivity.Driver.CallLog
import Mathlib.Data.List.Nodup

/-!
# What the checks on call logs say

A check on a log counts the entries of one driver and one call, or looks for entries of a call at
all. The check that drivers are settled in one way passes if each of them is told so once and no
driver is told the other.
-/
namespace Connectivity

namespace CallLog

variable {log : CallLog} {driver : String} {op : DriverOp}

theorem checkCount_ok_iff {expected : Nat} :
    log.checkCount driver op expected = .ok () ↔ log.count driver op = expected := by
  rw [checkCount]
  split
  case isTrue h => exact iff_of_true rfl h
  case isFalse h => exact iff_of_false nofun h

theorem driversWith_eq_nil_iff : log.driversWith op = [] ↔ ∀ c ∈ log, c.op ≠ op := by
  simp [driversWith]

theorem checkNone_ok_iff : log.checkNone op = .ok () ↔ ∀ c ∈ log, c.op ≠ op := by
  rw [checkNone, checkOrder, ← driversWith_eq_nil_iff]
  split
  case isTrue h => exact iff_of_true rfl h
  case isFalse h => exact iff_of_false nofun h

/-- Counts are checked one after another, up to the first that is wrong. -/
theorem forM_checkCount_ok_iff {drivers : List String} {expected : Nat} :
    (drivers.forM fun driver => log.checkCount driver op expected) = .ok () ↔
      ∀ driver ∈ drivers, log.count driver op = expected := by
  induction drivers with
  | nil => exact iff_of_true rfl nofun
  | cons driver drivers ih =>
      rw [List.forM, List.forall_mem_cons, ← checkCount_ok_iff, ← ih]
      cases log.checkCount driver op expected with
      | ok => exact (and_iff_right rfl).symm
      | error mismatch => exact iff_of_false nofun fun h => nomatch h.1

theorem checkSettled_ok_iff {drivers : List String} {once never : DriverOp} :
    log.checkSettled drivers once never = .ok () ↔
      (∀ driver ∈ drivers, log.count driver once = 1) ∧ ∀ c ∈ log, c.op ≠ never := by
  rw [← forM_checkCount_ok_iff, ← checkNone_ok_iff, checkSettled]
  cases drivers.forM fun driver => log.checkCount driver once 1 with
  | ok => exact (and_iff_right rfl).symm
  | error mismatch => exact iff_of_false nofun fun h => nomatch h.1

theorem count_append (log others : CallLog) (driver : String) (op : DriverOp) :
    (log ++ others).count driver op = log.count driver op + others.count driver op :=
  List.countP_append

theorem count_eq_zero (h : ∀ c ∈ log, c.op ≠ op) (driver : String) : log.count driver op = 0 := by
  refine List.countP_eq_zero.2 fun c hc hcount => h c hc ?_
  simp only [Bool.and_eq_true, decide_eq_true_eq] at hcount
  exact hcount.2

/-- One call to each of some drivers. -/
theorem count_map_call (names : List String) (driver : String) (op : DriverOp) :
    count (names.map fun name => ⟨name, op⟩) driver op = names.count driver := by
  rw [count, List.countP_map, List.count]
  refine List.countP_congr fun name _ => ?_
  simp

/-- In a log that ends with one call to each driver, after calls of other kinds, the drivers pass
for settled in this way. -/
theorem checkSettled_of_settled {calls : CallLog} {names drivers : List String}
    {once never : DriverOp} (hne : once ≠ never) (hcalls : ∀ c ∈ calls, c.op ≠ once ∧ c.op ≠ never)
    (hnodup : names.Nodup) (hsame : drivers.Perm names) :
    checkSettled (calls ++ names.map fun name => ⟨name, once⟩) drivers once never = .ok () := by
  refine checkSettled_ok_iff.2 ⟨fun driver hdriver => ?_, fun c hc => ?_⟩
  · rw [count_append, count_eq_zero (fun c hc => (hcalls c hc).1), count_map_call, Nat.zero_add]
    exact List.count_eq_one_of_mem hnodup (hsame.mem_iff.1 hdriver)
  · rcases List.mem_append.1 hc with hc | hc
    · exact (hcalls c hc).2
    · obtain ⟨name, -, rfl⟩ := List.mem_map.1 hc
      exact hne

/-- Such a log does not pass for one in which the drivers are settled in the other way. -/
theorem not_checkSettled_of_settled {calls : CallLog} {names drivers : List String}
    {once never : DriverOp} (hnames : names ≠ []) :
    checkSettled (calls ++ names.map fun name => ⟨name, once⟩) drivers never once ≠ .ok () := by
  intro h
  obtain ⟨name, hname⟩ := List.exists_mem_of_ne_nil names hnames
  have hcall : (⟨name, once⟩ : Call) ∈ calls ++ names.map fun name => ⟨name, once⟩ :=
    List.mem_append_right _ (List.mem_map_of_mem hname)
  exact (checkSettled_ok_iff.1 h).2 _ hcall rfl

end CallLog

end Connectivity
