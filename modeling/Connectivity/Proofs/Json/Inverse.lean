import Connectivity.Json.Basic
import Connectivity.Proofs.Document.Fields
import Connectivity.Proofs.Json.Printed

/-!
# Reading what was written

A reader of JSON values and a writer fit together if the reader gives back each value that was
written. Lists, optional values and records fit if their parts do, and with the text between them
the same holds of documents.
-/
namespace Connectivity

namespace Json

section

variable {α : Type} {write : α → Json} {read : Json → Option α}

/-- What is written for a value is read as that value. -/
def Inverse (write : α → Json) (read : Json → Option α) : Prop := ∀ x, read (write x) = some x

theorem inverse_string : Inverse .string toString? := fun _ => rfl

theorem Inverse.list (h : Inverse write read) : Inverse (ofList write) (toList? read) :=
  fun _ => toList?_ofList fun x _ => h x

/-- Absence is told from presence if no value is written as `null`. -/
theorem Inverse.option (h : Inverse write read) (hnull : ∀ x, write x ≠ .null) :
    Inverse (ofOption write) (toOption? read) := by
  intro o
  cases o with
  | none => rfl
  | some x =>
      simp only [ofOption, toOption?]
      split
      case h_1 hx => exact absurd hx (hnull x)
      case h_2 => rw [h x, Option.map_some]

theorem inverse_choice {name : α → String} {ofName? : String → Option α}
    (h : ∀ x, ofName? (name x) = some x) :
    Inverse (fun x => .string (name x)) (toChoice? ofName?) := fun x => h x

end

/-- The record that an object with just its fields gives. -/
@[simp] theorem fields?_object {names : List String} {members : List (String × Json)}
    (h : members.map Prod.fst = names) (hnames : names.Nodup) :
    (object members).fields? names = some ⟨members, true⟩ :=
  Fields.ofEntries?_of_names h hnames

theorem le_of_toCount? {j : Json} {n : Nat} (h : j.toCount? = some n) : n ≤ maxCount := by
  simp only [toCount?, Option.bind_eq_bind, Option.bind_eq_some_iff] at h
  obtain ⟨i, -, h⟩ := h
  split at h
  case isTrue hi =>
    obtain rfl := Option.some.inj h
    omega
  case isFalse => cases h

/-! ## Texts -/

section

variable {α : Type}

/-- The text that is written for a value. -/
def encode (write : α → Json) (x : α) : String := print (write x)

/-- The value of a kind that a text denotes, if there is one. -/
def decode? (read : Json → Option α) (text : String) : Option α := (parse? text).bind read

/-- A notation of values is faithful if each valid value is what its text denotes, if texts denote
only valid values, and if therefore any text can be replaced by the one written for its value. -/
structure Faithful (valid : α → Prop) (write : α → Json) (read : Json → Option α) : Prop where
  decode?_encode : ∀ x, valid x → decode? read (encode write x) = some x
  valid_of_decode? : ∀ text x, decode? read text = some x → valid x
  encode_again : ∀ text x, decode? read text = some x → decode? read (encode write x) = some x

theorem faithful_of_read {valid : α → Prop} {write : α → Json} {read : Json → Option α}
    (hread : ∀ x, valid x → read (write x) = some x)
    (hvalid : ∀ j x, read j = some x → valid x) : Faithful valid write read := by
  have valid_of_decode? : ∀ text x, decode? read text = some x → valid x := by
    intro text x h
    obtain ⟨j, -, hj⟩ := Option.bind_eq_some_iff.1 h
    exact hvalid j x hj
  have decode?_encode : ∀ x, valid x → decode? read (encode write x) = some x := by
    intro x hx
    rw [decode?, encode, parse?_print, Option.bind_some, hread x hx]
  exact ⟨decode?_encode, valid_of_decode?,
    fun text x h => decode?_encode x (valid_of_decode? text x h)⟩

/-- A notation for all values of a type. -/
abbrev FaithfulToAll (write : α → Json) (read : Json → Option α) : Prop :=
  Faithful (fun _ => True) write read

theorem Inverse.faithful {write : α → Json} {read : Json → Option α} (h : Inverse write read) :
    FaithfulToAll write read :=
  faithful_of_read (fun x _ => h x) fun _ _ _ => trivial

/-- Different values have different texts. -/
theorem Faithful.encode_injective {valid : α → Prop} {write : α → Json} {read : Json → Option α}
    (h : Faithful valid write read) {x y : α} (hx : valid x) (hy : valid y)
    (heq : encode write x = encode write y) : x = y := by
  have hdecode := h.decode?_encode x hx
  rw [heq, h.decode?_encode y hy] at hdecode
  exact (Option.some.inj hdecode).symm

end

end Json

end Connectivity
