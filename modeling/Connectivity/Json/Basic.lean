import Connectivity.Document.Basic

/-!
# Values of a document

The values that a JSON text can denote. Numbers keep the parts they were written with, because a
reader of whole numbers must refuse `1.0`, and objects keep their members in order, repeated keys
included, because a reader may refuse a key that comes twice. Records are objects or arrays.
-/
namespace Connectivity

/-- A decimal number by its written parts. Without digits in `fraction` no point was written. -/
structure Json.Number where
  negative : Bool
  whole : Nat
  fraction : List (Fin 10)
  exponent : Option Int
  deriving DecidableEq, Repr

/-- `unreadable` stands for a well-formed text that denotes no value: a string with half of a
surrogate pair, or an object with such a key. It may stand where a reader ignores the value. -/
inductive Json where
  | null
  | bool (value : Bool)
  | number (value : Json.Number)
  | string (value : String)
  | array (items : List Json)
  | object (members : List (String × Json))
  | unreadable
  deriving Repr

namespace Json

/-- A natural number, written without sign, fraction or exponent. -/
def ofNat (n : Nat) : Json := .number ⟨false, n, [], none⟩

/-- An integer; only a negative one is written with a sign. -/
def ofInt : Int → Json
  | .ofNat n => ofNat n
  | .negSucc n => .number ⟨true, n + 1, [], none⟩

def Number.toInt? (n : Number) : Option Int :=
  match n with
  | ⟨false, whole, [], none⟩ => some whole
  | ⟨true, whole, [], none⟩ => if whole = 0 then none else some (-whole)
  | _ => none

def toInt? : Json → Option Int
  | .number n => n.toInt?
  | _ => none

/-- A count is an integer from 0 to `maxCount`, written as one. -/
def toCount? (j : Json) : Option Nat := do
  let n ← j.toInt?
  if 0 ≤ n ∧ n ≤ maxCount then some n.toNat else none

theorem toCount?_ofNat {n : Nat} (h : n ≤ maxCount) : toCount? (ofNat n) = some n := by
  simp only [toCount?, toInt?, ofNat, Number.toInt?, Option.bind_eq_bind, Option.bind_some]
  rw [if_pos ⟨Int.natCast_nonneg n, Int.ofNat_le.2 h⟩, Int.toNat_natCast]

def toBool? : Json → Option Bool
  | .bool b => some b
  | _ => none

def toString? : Json → Option String
  | .string s => some s
  | _ => none

/-- Reads each item of an array. -/
def toList? {α : Type} (item : Json → Option α) : Json → Option (List α)
  | .array items => items.mapM item
  | _ => none

/-- Reads `null` as absence. -/
def toOption? {α : Type} (value : Json → Option α) : Json → Option (Option α)
  | .null => some none
  | j => (value j).map some

/-- A choice between names is written as the name, or as an object whose only key is the name. -/
def toChoice? {α : Type} (ofName? : String → Option α) : Json → Option α
  | .string name => ofName? name
  | .object [(name, .null)] => ofName? name
  | _ => none

def ofList {α : Type} (item : α → Json) (xs : List α) : Json := .array (xs.map item)

def ofOption {α : Type} (value : α → Json) : Option α → Json
  | none => .null
  | some x => value x

theorem toList?_ofList {α : Type} {read : Json → Option α} {write : α → Json} {xs : List α}
    (h : ∀ x ∈ xs, read (write x) = some x) : toList? read (ofList write xs) = some xs := by
  simp only [toList?, ofList]
  induction xs with
  | nil => rfl
  | cons x xs ih =>
      simp only [List.map_cons, List.mapM_cons, h x List.mem_cons_self,
        ih fun y hy => h y (List.mem_cons_of_mem x hy)]
      rfl

mutual

/-- Of the members with one key only the last is kept, throughout a value. -/
def lastWins : Json → Json
  | .array items => .array (lastWinsItems items)
  | .object members => .object (lastWinsMembers members)
  | j => j

def lastWinsItems : List Json → List Json
  | [] => []
  | j :: rest => lastWins j :: lastWinsItems rest

def lastWinsMembers : List (String × Json) → List (String × Json)
  | [] => []
  | (key, j) :: rest =>
      if rest.any fun m => m.1 = key then lastWinsMembers rest
      else (key, lastWins j) :: lastWinsMembers rest

end

/-- A record is an object, or an array that has no more items than the record has fields. -/
def fields? (names : List String) : Json → Option (Fields Json)
  | .object members => Fields.ofEntries? names members
  | .array items => if items.length ≤ names.length then some (.ofItems names items) else none
  | _ => none

def format : DocumentFormat Json where
  record? := fields?
  string? := toString?
  count? := toCount?
  bool? := toBool?
  choice? := toChoice?

end Json

/-- A field that is `null` for absence, and may be left out where fields go by name. -/
def Fields.optional {α : Type} (f : Fields Json) (name : String) (read : Json → Option α) :
    Option (Option α) :=
  match f.get? name with
  | none => if f.byName then some none else none
  | some j => j.toOption? read

end Connectivity
