import Connectivity.Error

/-!
# Documents

What a document is read from, and how records are written in it. The reader of a file meets nothing
at all, something that cannot be read, or bytes. Only bytes that are UTF-8 make a text; the rest are
errors of the system.

A record is written as a map with an entry for each field, or as a list of its fields in order.
`Fields` is what either notation says: which fields are given, and how. A field that is left out may
have a default; one that is optional may be left out only where fields go by name. Documents of
several formats hold records, so that the kind of values is left open.
-/
namespace Connectivity

/-- What is found where a file is looked for. -/
inductive FileContent where
  | missing
  | unreadable (reason : String)
  | bytes (content : ByteArray)

namespace FileContent

/-- The content of a file that a text was written to. -/
def ofText (s : String) : FileContent := bytes s.toUTF8

def text : FileContent → Except Error String
  | missing => .error (.io "no such file")
  | unreadable reason => .error (.io reason)
  | bytes content =>
      match String.fromUTF8? content with
      | some text => .ok text
      | none => .error (.io "the content is not UTF-8")

end FileContent

/-- The fields that a notation gives. -/
structure Fields (ν : Type) where
  given : List (String × ν)
  byName : Bool

namespace Fields

variable {ν α : Type}

/-- Fields by name: entries of other names are ignored, and no field may be given twice. -/
def ofEntries? (names : List String) (entries : List (String × ν)) : Option (Fields ν) :=
  let known := entries.filter fun entry => names.contains entry.1
  if (known.map Prod.fst).Nodup then some ⟨known, true⟩ else none

/-- Fields by position: as many as there are items. -/
def ofItems (names : List String) (items : List ν) : Fields ν := ⟨names.zip items, false⟩

def get? (f : Fields ν) (name : String) : Option ν := f.given.lookup name

/-- A field that must be given. -/
def required (f : Fields ν) (name : String) (read : ν → Option α) : Option α :=
  (f.get? name).bind read

/-- A field with a default for its absence. -/
def orDefault (f : Fields ν) (name : String) (default : α) (read : ν → Option α) : Option α :=
  match f.get? name with
  | none => some default
  | some value => read value

end Fields

/-- The largest count in a document, which is 2⁶⁴ - 1. -/
def maxCount : Nat := 18446744073709551615

/-- How the values of a document format are read. -/
structure DocumentFormat (ν : Type) where
  record? : List String → ν → Option (Fields ν)
  string? : ν → Option String
  count? : ν → Option Nat
  bool? : ν → Option Bool
  choice? {α : Type} : (String → Option α) → ν → Option α

end Connectivity
