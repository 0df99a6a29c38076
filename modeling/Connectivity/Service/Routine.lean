import Connectivity.Driver.Activity

/-!
# Routines

A routine is an activity that works on a store. The store is changed in place: what was written
stays written, whatever comes after it, and an error does not undo it.
-/
namespace Connectivity

/-- From a store, the course of the work on it and the store that it leaves. -/
structure Routine (σ ε α : Type) where
  run : σ → Activity ε α × σ

namespace Routine

variable {σ ε α β : Type}

/-- An activity that has nothing to do with the store. -/
def ofActivity (a : Activity ε α) : Routine σ ε α := ⟨fun store => (a, store)⟩

/-- Something found out from the store as it is at that moment. -/
def read (look : σ → Except Error α) : Routine σ ε α :=
  ⟨fun store => (.ofExcept (look store), store)⟩

/-- Changes the store; a write that fails leaves it as it was. -/
def write (change : σ → Except Error σ) : Routine σ ε Unit :=
  ⟨fun store =>
    match change store with
    | .ok after => (.ofExcept (.ok ()), after)
    | .error e => (.ofExcept (.error e), store)⟩

/-- One routine after another. After an error nothing more is done, and the store stays as the first
one left it. -/
def andThen (r : Routine σ ε α) (next : α → Routine σ ε β) : Routine σ ε β :=
  ⟨fun store =>
    let (a, between) := r.run store
    match a.result with
    | .error e => (⟨a.trace, a.elapsed, .error e⟩, between)
    | .ok x =>
        let (b, after) := (next x).run between
        (⟨a.trace ++ b.trace, a.elapsed + b.elapsed, b.result⟩, after)⟩

instance : Monad (Routine σ ε) where
  pure x := ofActivity (.ofExcept (.ok x))
  bind := andThen

/-- The course alone, which gives the store afterwards if all went well. -/
def toActivity (r : Routine σ ε α) (store : σ) : Activity ε (α × σ) :=
  let (a, after) := r.run store
  a.andThen fun x => .ofExcept (.ok (x, after))

theorem bind_eq_andThen (r : Routine σ ε α) (next : α → Routine σ ε β) :
    (r >>= next) = r.andThen next := rfl

theorem run_write_of_ok {change : σ → Except Error σ} {store after : σ}
    (h : change store = .ok after) :
    (write change : Routine σ ε Unit).run store = (.ofExcept (.ok ()), after) := by
  simp [write, h]

theorem run_andThen_of_ok {r : Routine σ ε α} {store : σ} {x : α}
    (h : (r.run store).1.result = .ok x) (next : α → Routine σ ε β) :
    (r.andThen next).run store =
      ((r.run store).1.andThen fun _ => ((next x).run (r.run store).2).1,
        ((next x).run (r.run store).2).2) := by
  simp only [andThen, Activity.andThen, h]

theorem run_andThen_of_error {r : Routine σ ε α} {store : σ} {e : Error}
    (h : (r.run store).1.result = .error e) (next : α → Routine σ ε β) :
    (r.andThen next).run store =
      (⟨(r.run store).1.trace, (r.run store).1.elapsed, .error e⟩, (r.run store).2) := by
  simp only [andThen, h]

theorem run_ofActivity_andThen_of_ok {a : Activity ε α} {x : α} (h : a.result = .ok x)
    (next : α → Routine σ ε β) (store : σ) :
    ((ofActivity a).andThen next).run store =
      (a.andThen fun _ => ((next x).run store).1, ((next x).run store).2) :=
  run_andThen_of_ok (r := ofActivity a) h next

theorem run_ofActivity_andThen_of_error {a : Activity ε α} {e : Error} (h : a.result = .error e)
    (next : α → Routine σ ε β) (store : σ) :
    ((ofActivity a).andThen next).run store = (⟨a.trace, a.elapsed, .error e⟩, store) :=
  run_andThen_of_error (r := ofActivity a) h next

theorem run_read_andThen_of_ok {look : σ → Except Error α} {store : σ} {x : α}
    (h : look store = .ok x) (next : α → Routine σ ε β) :
    ((read look).andThen next).run store = (next x).run store := by
  simp [andThen, read, Activity.ofExcept, h]

theorem run_read_andThen_of_error {look : σ → Except Error α} {store : σ} {e : Error}
    (h : look store = .error e) (next : α → Routine σ ε β) :
    ((read look).andThen next).run store = (.ofExcept (.error e), store) := by
  simp [andThen, read, Activity.ofExcept, h]

end Routine

end Connectivity
