import Connectivity.Proofs.Service.Drive

/-!
# The engagement of drivers

Drivers that are engaged for sub-requests are called in the order of a life, whatever becomes of the
others. Before one of them is told to commit, the operation has been called on all of them and all
have succeeded.
-/
namespace Connectivity

theorem map_fst_zipWith_sublist {α β κ γ : Type} (key : α → κ) (value : β → γ) (xs : List α)
    (ys : List β) :
    ((List.zipWith (fun x y => (key x, value y)) xs ys).map Prod.fst).Sublist (xs.map key) := by
  induction xs generalizing ys with
  | nil => exact List.Sublist.slnil
  | cons x xs ih =>
      cases ys with
      | nil => exact List.nil_sublist _
      | cons y ys => exact (ih ys).cons_cons (key x)

namespace Manager

variable {σ ε : Type} {m : Manager σ ε} {serviceId : ServiceId} {context : Context}

theorem Engaged.nodup_assigned {slot : Nat} {subs : List SubRequest}
    {assigned : List (InstanceId × Assignment)} {drivers : List (Instance ε)}
    (h : Engaged m serviceId context slot subs assigned drivers) :
    (assigned.map Prod.fst).Nodup := by
  rw [h.assigned]
  exact (map_fst_zipWith_sublist _ _ drivers subs).nodup h.nodup

end Manager

namespace Driven

variable {ε : Type} {deadline : Deadline} {op : Operation} {count : Nat}
  {drivers : List (Instance ε)} {result : Except Error Unit}
  {calls : List (InstanceId × DriverOp)}

/-- Every driver is called in the order of a life, whatever becomes of the others. -/
theorem life (h : Driven deadline op count drivers result calls)
    (hnodup : (drivers.map (·.id)).Nodup) (id : InstanceId) : Life (entriesOf calls id) := by
  have honce : (drivers.map (·.id)).count id ≤ 1 := List.nodup_iff_count_le_one.1 hnodup id
  have hordered : ((Transaction.executionOrder drivers).map (·.id)).count id =
      (drivers.map (·.id)).count id :=
    ((Transaction.executionOrder_perm drivers).map _).count_eq id
  cases h with
  | refused =>
      rw [entriesOf_callEach]
      obtain hcount | hcount := Nat.le_one_iff_eq_zero_or_eq_one.1 honce
      · exact hcount ▸ .unused
      · exact hcount ▸ .bound
  | undone order position e =>
      have hsettled := ((rollbackSequence_perm order
        (Transaction.executionOrder drivers)).map (·.id)).count_eq id
      have hcalled : (((Transaction.executionOrder drivers).take (position + 1)).map
          (·.id)).count id ≤ (drivers.map (·.id)).count id := by
        rw [← hordered]
        exact ((List.take_sublist _ _).map _).count_le id
      rw [entriesOf_append, entriesOf_append, entriesOf_callEach, entriesOf_callEach,
        entriesOf_callEach, hsettled, hordered]
      exact life_of_counts honce hcalled op (.inr rfl)
  | done =>
      rw [entriesOf_append, entriesOf_append, entriesOf_callEach, entriesOf_callEach,
        entriesOf_callEach, hordered]
      exact @life_of_counts _ _ honce le_rfl op .commit (.inl rfl)

/-- Only drivers that were engaged are called. -/
theorem mem_of_call (h : Driven deadline op count drivers result calls) {id : InstanceId}
    {op' : DriverOp} (hcall : (id, op') ∈ calls) : id ∈ drivers.map (·.id) := by
  have hordered : ∀ {i}, i ∈ (Transaction.executionOrder drivers).map (·.id) →
      i ∈ drivers.map (·.id) :=
    ((Transaction.executionOrder_perm drivers).map _).mem_iff.1
  cases h with
  | refused => exact (mem_callEach.1 hcall).1
  | undone order position e =>
      simp only [List.mem_append, mem_callEach] at hcall
      rcases hcall with ⟨hid, -⟩ | ⟨hid, -⟩ | ⟨hid, -⟩
      · exact hid
      · exact hordered (((List.take_sublist _ _).map _).subset hid)
      · exact hordered (((rollbackSequence_perm order _).map _).mem_iff.1 hid)
  | done =>
      simp only [List.mem_append, mem_callEach] at hcall
      rcases hcall with ⟨hid, -⟩ | ⟨hid, -⟩ | ⟨hid, -⟩
      · exact hid
      · exact hordered hid
      · exact hordered hid

/-- After an error no driver has committed. -/
theorem commit_notMem {e : Error} (h : Driven deadline op count drivers (.error e) calls)
    (id : InstanceId) : (id, .commit) ∉ calls := by
  cases h with
  | refused => simp
  | undone => simp [op.call_ne_commit]

/-- Where drivers were never run, none is called after it was bound. -/
theorem eq_bind_of_call {e : Error} (h : Driven deadline op count drivers (.error e) calls)
    (he : e.BeforeRun) {id : InstanceId} {op' : DriverOp} (hcall : (id, op') ∈ calls) :
    op' = .bind := by
  cases h with
  | refused => exact (mem_callEach.1 hcall).2.symm
  | undone order position source => exact absurd rfl (he position source)

/-- When a driver is told to commit, all that were bound with it have been called and have
succeeded. -/
theorem of_commit (h : Driven deadline op count drivers result calls) {id : InstanceId}
    {earlier later : List (InstanceId × DriverOp)}
    (hcommit : calls = earlier ++ (id, .commit) :: later) :
    drivers.length = count ∧
      ∀ i ∈ drivers, i.driver.Succeeds op deadline ∧ (i.id, op.call) ∈ earlier := by
  have hmem : (id, .commit) ∈ calls := by simp [hcommit]
  cases h with
  | refused => simp at hmem
  | undone order position e => simp [op.call_ne_commit] at hmem
  | done complete succeed =>
      refine ⟨complete, fun i hi => ⟨succeed i hi, ?_⟩⟩
      rw [← List.append_assoc] at hcommit
      refine mem_of_append_eq hcommit ?_ ?_
      · simp [op.call_ne_commit]
      · have hordered := (Transaction.executionOrder_perm drivers).mem_iff.2 hi
        exact List.mem_append_right _ (mem_callEach.2 ⟨List.mem_map_of_mem hordered, rfl⟩)

end Driven

end Connectivity
