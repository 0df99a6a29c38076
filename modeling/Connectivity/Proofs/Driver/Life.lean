import Connectivity.Driver.Activity
import Mathlib.Data.List.Count

/-!
# The life of a driver

A driver is made for one sub-request and used once: it is bound, called once and settled. Its life
may end early, but the calls of it never come in another order or twice.
-/
namespace Connectivity

/-- The calls that a driver may receive over its whole life. One that was bound may be given up, or
be rolled back although it was never called. An update is one call, also where the driver does it by
deactivating and activating. -/
inductive Life : List DriverOp → Prop where
  | unused : Life []
  | bound : Life [.bind]
  | withdrawn : Life [.bind, .rollback]
  | settled (op : Operation) (kind : Settlement) : Life [.bind, op.call, kind.call]

/-- No driver is told both to commit and to roll back. -/
theorem Life.not_both {ops : List DriverOp} (h : Life ops) :
    ¬ (.commit ∈ ops ∧ .rollback ∈ ops) := by
  rcases h with _ | _ | _ | ⟨op, kind⟩
  · simp
  · simp
  · simp
  · cases op <;> cases kind <;> simp [Operation.call, Settlement.call]

/-- A driver that was called and has not committed was rolled back, once. -/
theorem Life.count_rollback {ops : List DriverOp} (h : Life ops) {op : Operation}
    (hop : op.call ∈ ops) (hcommit : .commit ∉ ops) : ops.count .rollback = 1 := by
  rcases h with _ | _ | _ | ⟨op', kind⟩
  · exact nomatch hop
  · cases op <;> simp [Operation.call] at hop
  · rfl
  · cases kind with
    | commit => simp [Settlement.call] at hcommit
    | rollback => cases op' <;> rfl

/-- The calls of a driver that is settled, if it was called before, or else is only rolled back. -/
theorem life_of_counts {bound called : Nat} (hbound : bound ≤ 1) (hcalled : called ≤ bound)
    (op : Operation) {kind : Settlement} (hkind : called = bound ∨ kind = .rollback) :
    Life (List.replicate bound .bind ++
      (List.replicate called op.call ++ List.replicate bound kind.call)) := by
  obtain rfl | rfl := Nat.le_one_iff_eq_zero_or_eq_one.1 hbound
  · obtain rfl := Nat.le_zero.1 hcalled
    exact .unused
  · obtain rfl | rfl := Nat.le_one_iff_eq_zero_or_eq_one.1 hcalled
    · obtain rfl := hkind.resolve_left Nat.zero_ne_one
      exact .withdrawn
    · exact .settled op kind

/-- What a log has under a key, in its order. -/
def entriesOf {κ β : Type} [DecidableEq κ] (log : List (κ × β)) (key : κ) : List β :=
  log.filterMap fun entry => if entry.1 = key then some entry.2 else none

theorem Activity.callsOf_eq_entriesOf {ε α : Type} (a : Activity ε α) (id : InstanceId) :
    a.callsOf id = entriesOf a.calls id := rfl

section EntriesOf

variable {κ β : Type} [DecidableEq κ]

theorem entriesOf_append (log others : List (κ × β)) (key : κ) :
    entriesOf (log ++ others) key = entriesOf log key ++ entriesOf others key :=
  List.filterMap_append

theorem mem_entriesOf {log : List (κ × β)} {key : κ} {b : β} :
    b ∈ entriesOf log key ↔ (key, b) ∈ log := by
  simp [entriesOf]

theorem length_entriesOf (log : List (κ × β)) (key : κ) :
    (entriesOf log key).length = (log.map Prod.fst).count key := by
  induction log with
  | nil => rfl
  | cons entry log ih =>
      rw [List.map_cons, List.count_cons, ← ih, entriesOf, List.filterMap_cons]
      by_cases h : entry.1 = key <;> simp [h, entriesOf]

/-- A log with one entry for each of some keys. -/
theorem entriesOf_map_pair (keys : List κ) (b : β) (key : κ) :
    entriesOf (keys.map fun k => (k, b)) key = List.replicate (keys.count key) b := by
  induction keys with
  | nil => rfl
  | cons k keys ih =>
      rw [List.map_cons, entriesOf, List.filterMap_cons, ← entriesOf, ih]
      by_cases h : k = key <;> simp [h, List.replicate_succ]

/-- What comes first in a list comes before everything that comes after it. -/
theorem mem_of_append_eq {α : Type} {first second earlier later : List α} {x y : α}
    (h : first ++ second = earlier ++ x :: later) (hx : x ∉ first) (hy : y ∈ first) :
    y ∈ earlier := by
  rcases List.append_eq_append_iff.1 h with ⟨others, hearlier, -⟩ | ⟨others, hfirst, hlater⟩
  · exact hearlier ▸ List.mem_append_left others hy
  · cases others with
    | nil =>
        rw [List.append_nil] at hfirst
        exact hfirst ▸ hy
    | cons z others =>
        rw [List.cons_append] at hlater
        obtain ⟨rfl, -⟩ := List.cons.inj hlater
        exact absurd (hfirst ▸ by simp) hx

end EntriesOf

section CallEach

variable {ε : Type}

/-- One call to each of some drivers. -/
def callEach (op : DriverOp) (drivers : List (Instance ε)) : List (InstanceId × DriverOp) :=
  drivers.map fun i => (i.id, op)

@[simp] theorem mem_callEach {op op' : DriverOp} {drivers : List (Instance ε)} {id : InstanceId} :
    (id, op') ∈ callEach op drivers ↔ id ∈ drivers.map (·.id) ∧ op = op' := by
  simp only [callEach, List.mem_map, Prod.mk.injEq]
  constructor
  · rintro ⟨i, hi, hid, hop⟩
    exact ⟨⟨i, hi, hid⟩, hop⟩
  · rintro ⟨⟨i, hi, hid⟩, hop⟩
    exact ⟨i, hi, hid, hop⟩

theorem entriesOf_callEach (op : DriverOp) (drivers : List (Instance ε)) (id : InstanceId) :
    entriesOf (callEach op drivers) id = List.replicate ((drivers.map (·.id)).count id) op := by
  rw [← entriesOf_map_pair, List.map_map]
  rfl

end CallEach

end Connectivity
