import Connectivity.Toml.Parser

/-!
# Tables of a TOML document

What the statements of a TOML text make: a table of tables. A table is given once, by a header, by
keys with points, or inline; only a table that headers of its subtables imply may still get a header
of its own. A key has one value.
-/
namespace Connectivity.Toml

/-- How a table came to be: by its own header, by headers of its subtables, or by keys with points
in them. -/
inductive Origin where
  | header
  | implied
  | dotted
  deriving DecidableEq, Repr

/-- What a key of an unfinished table stands for: a finished value, a table, or an array of tables
of which the last one may still grow. -/
inductive Entry where
  | value (v : Toml)
  | table (origin : Origin) (entries : List (String × Entry))
  | tables (earlier : List (List (String × Entry))) (last : List (String × Entry))
  deriving Repr

abbrev Entries := List (String × Entry)

/-- Gives a key that is there another entry. -/
def replaceEntry (key : String) (e : Entry) (entries : Entries) : Entries :=
  entries.map fun old => if old.1 = key then (key, e) else old

/-- Changes the table at a path. Missing tables on the way are made. In an array of tables the path
leads to the last one. Keys with points do not enter a table that has a header of its own, and
nothing enters a finished value. -/
def changeAt (dotted : Bool) (change : Origin → Entries → Option Entries) :
    List String → Origin → Entries → Option Entries
  | [], origin, entries => change origin entries
  | key :: path, _, entries =>
      match entries.lookup key with
      | none => do
          let origin := if dotted then Origin.dotted else .implied
          let sub ← changeAt dotted change path origin []
          some (entries ++ [(key, .table origin sub)])
      | some (.value _) => none
      | some (.table origin sub) =>
          if dotted ∧ origin = .header then none
          else do
            let sub ← changeAt dotted change path origin sub
            some (replaceEntry key (.table origin sub) entries)
      | some (.tables earlier last) => do
          let last ← changeAt dotted change path .header last
          some (replaceEntry key (.tables earlier last) entries)

/-- Gives a new key its value. A key with points puts it into a table that keys with points made. -/
def assignAt (path : List String) (v : Toml) (origin : Origin) (entries : Entries) :
    Option Entries :=
  match path.getLast? with
  | none => none
  | some key =>
      changeAt true (fun origin entries =>
        if path.length > 1 ∧ origin ≠ .dotted then none
        else
          match entries.lookup key with
          | none => some (entries ++ [(key, .value v)])
          | some _ => none) path.dropLast origin entries

/-- Opens the table of a header. -/
def openTable (path : List String) (entries : Entries) : Option Entries :=
  match path.getLast? with
  | none => none
  | some key =>
      changeAt false (fun _ entries =>
        match entries.lookup key with
        | none => some (entries ++ [(key, .table .header [])])
        | some (.table .implied sub) => some (replaceEntry key (.table .header sub) entries)
        | some _ => none) path.dropLast .header entries

/-- Opens one more table of an array. -/
def openArrayTable (path : List String) (entries : Entries) : Option Entries :=
  match path.getLast? with
  | none => none
  | some key =>
      changeAt false (fun _ entries =>
        match entries.lookup key with
        | none => some (entries ++ [(key, .tables [] [])])
        | some (.tables earlier last) =>
            some (replaceEntry key (.tables (earlier ++ [last]) []) entries)
        | some _ => none) path.dropLast .header entries

mutual

/-- The value of an entry, finished. -/
def Entry.finish : Entry → Toml
  | .value v => v
  | .table _ entries => .table (finishEntries entries)
  | .tables earlier last => .array (finishTables earlier ++ [.table (finishEntries last)])

def finishEntries : List (String × Entry) → List (String × Toml)
  | [] => []
  | (key, e) :: rest => (key, e.finish) :: finishEntries rest

def finishTables : List (List (String × Entry)) → List Toml
  | [] => []
  | entries :: rest => .table (finishEntries entries) :: finishTables rest

end

mutual

/-- The value that an expression denotes, if its inline tables are well formed. -/
def Expression.value? : Expression → Option Toml
  | .plain v => some v
  | .array items => (values? items).map .array
  | .inline entries => (inlineEntries? entries []).map fun entries => .table (finishEntries entries)

def values? : List Expression → Option (List Toml)
  | [] => some []
  | e :: rest => do
      let v ← e.value?
      let vs ← values? rest
      some (v :: vs)

def inlineEntries? : List (List String × Expression) → Entries → Option Entries
  | [], entries => some entries
  | (path, e) :: rest, entries => do
      let v ← e.value?
      let entries ← assignAt path v .header entries
      inlineEntries? rest entries

end

/-- The tables so far, and the path of the table that assignments go to. -/
structure Builder where
  entries : Entries
  current : List String

/-- What a statement makes of the tables so far. -/
def Builder.step (b : Builder) : Statement → Option Builder
  | .header path => (openTable path b.entries).map (⟨·, path⟩)
  | .arrayHeader path => (openArrayTable path b.entries).map (⟨·, path⟩)
  | .assign path e => do
      let v ← e.value?
      let entries ← changeAt false (assignAt path v) b.current .header b.entries
      some { b with entries }

/-- The table that statements make. -/
def ofStatements? (statements : List Statement) : Option Toml := do
  let b ← statements.foldlM Builder.step ⟨[], []⟩
  some (.table (finishEntries b.entries))

/-- The table of a text. -/
def parse? (text : String) : Option Toml := do
  let statements ← statements? text
  ofStatements? statements

end Connectivity.Toml
