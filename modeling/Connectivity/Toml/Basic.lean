import Connectivity.Document.Basic

/-!
# Values of a TOML document

The values that a TOML text can hold. Floats, dates and times keep their texts. A number that has no
place in any setting, because it is too large or has other characters among its digits, is kept as
it is written: a text may hold it where nobody reads it.
-/
namespace Connectivity

inductive Toml where
  | string (value : String)
  | integer (value : Int)
  | float (text : String)
  | bool (value : Bool)
  | datetime (text : String)
  | unreadable (text : String)
  | array (items : List Toml)
  | table (entries : List (String × Toml))
  deriving Repr

namespace Toml

mutual

/-- There is no number in a value that cannot be read. -/
def isReadable : Toml → Bool
  | .unreadable _ => false
  | .array items => areReadable items
  | .table entries => entriesReadable entries
  | _ => true

def areReadable : List Toml → Bool
  | [] => true
  | v :: rest => isReadable v && areReadable rest

def entriesReadable : List (String × Toml) → Bool
  | [] => true
  | (_, v) :: rest => isReadable v && entriesReadable rest

end

/-- A table is read as a whole, so that the entries that a record ignores must be readable. Of an
array only the items that are fields are read; there may be more of them. A date or a time stands
for a record of which no field is given. -/
def fields? (names : List String) : Toml → Option (Fields Toml)
  | .table entries =>
      if entriesReadable (entries.filter fun entry => !names.contains entry.1) then
        Fields.ofEntries? names entries
      else none
  | .array items => some (.ofItems names items)
  | .datetime _ => Fields.ofEntries? names []
  | _ => none

def toString? : Toml → Option String
  | .string s => some s
  | _ => none

def toBool? : Toml → Option Bool
  | .bool b => some b
  | _ => none

/-- A count is an integer from 0 to `maxCount`. -/
def toCount? : Toml → Option Nat
  | .integer n => if 0 ≤ n ∧ n ≤ maxCount then some n.toNat else none
  | _ => none

/-- A choice between names is written as the name, or as a table whose only key is the name and
holds an empty table or array. -/
def toChoice? {α : Type} (ofName? : String → Option α) : Toml → Option α
  | .string name => ofName? name
  | .table [(name, .table [])] => ofName? name
  | .table [(name, .array [])] => ofName? name
  | _ => none

def format : DocumentFormat Toml where
  record? := fields?
  string? := toString?
  count? := toCount?
  bool? := toBool?
  choice? := toChoice?

end Toml

end Connectivity
