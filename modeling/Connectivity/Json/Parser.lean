import Connectivity.Json.Basic
import Connectivity.Text.Characters

/-!
# Reading JSON

The grammar of RFC 8259, read from a list of characters. Each reader returns what it read and the
characters that follow. Only blanks may stand around the one value of a text.
-/
namespace Connectivity.Json

/-- Blank between tokens: space, tab, line feed and carriage return. -/
def isBlank (c : Char) : Bool := c = ' ' || c = '\t' || c = '\n' || c = '\r'

def skipBlanks (cs : List Char) : List Char := cs.dropWhile isBlank

/-- A piece of a string literal: a character as it stands, or the code that an escape names. -/
inductive Piece where
  | plain (c : Char)
  | code (n : Nat)
  deriving DecidableEq, Repr

/-- The character that a backslash and a letter stand for. -/
def shortEscape? (c : Char) : Option Char :=
  if c = '"' ∨ c = '\\' ∨ c = '/' then some c
  else if c = 'b' then some '\x08'
  else if c = 'f' then some '\x0c'
  else if c = 'n' then some '\n'
  else if c = 'r' then some '\r'
  else if c = 't' then some '\t'
  else none

/-- The pieces up to the closing quote. A control character must be escaped. -/
def readPieces : List Char → Option (List Piece × List Char)
  | [] => none
  | '"' :: rest => some ([], rest)
  | '\\' :: 'u' :: a :: b :: c :: d :: rest => do
      let n ← Text.ofHex? [a, b, c, d]
      let (ps, rest) ← readPieces rest
      some (.code n :: ps, rest)
  | '\\' :: c :: rest => do
      let e ← shortEscape? c
      let (ps, rest) ← readPieces rest
      some (.plain e :: ps, rest)
  | c :: rest =>
      if c.toNat < 0x20 ∨ c = '\\' then none
      else do
        let (ps, rest) ← readPieces rest
        some (.plain c :: ps, rest)

def isHighSurrogate (n : Nat) : Bool := 0xd800 ≤ n && n ≤ 0xdbff

def isLowSurrogate (n : Nat) : Bool := 0xdc00 ≤ n && n ≤ 0xdfff

/-- The characters that pieces stand for. Two codes make one character if they are a surrogate
pair; half of a pair stands for none. -/
def joinPieces : List Piece → Option (List Char)
  | [] => some []
  | .plain c :: ps => (joinPieces ps).map (c :: ·)
  | .code h :: .code l :: ps =>
      if isHighSurrogate h then
        if isLowSurrogate l then
          (joinPieces ps).map (Char.ofNat (0x10000 + (h - 0xd800) * 0x400 + (l - 0xdc00)) :: ·)
        else none
      else if isLowSurrogate h then none
      else (joinPieces (.code l :: ps)).map (Char.ofNat h :: ·)
  | .code n :: ps =>
      if isHighSurrogate n || isLowSurrogate n then none
      else (joinPieces ps).map (Char.ofNat n :: ·)

/-- A string literal after its opening quote; `none` inside for one that denotes no string. -/
def readString (cs : List Char) : Option (Option String × List Char) := do
  let (ps, rest) ← readPieces cs
  some ((joinPieces ps).map String.ofList, rest)

/-- The whole part of a number: no zero may stand before another digit. -/
def readWhole (cs : List Char) : Option (Nat × List Char) :=
  match Text.spanDigits cs with
  | ([], _) => none
  | (d :: ds, rest) => if d = '0' ∧ ds ≠ [] then none else some (Text.ofDecimal (d :: ds), rest)

def readFraction : List Char → Option (List (Fin 10) × List Char)
  | '.' :: cs =>
      match Text.spanDigits cs with
      | ([], _) => none
      | (ds, rest) => some (ds.filterMap Text.digit?, rest)
  | cs => some ([], cs)

/-- The digits of an exponent after its letter and sign. -/
def readExponentDigits (cs : List Char) : Option (Nat × List Char) :=
  match Text.spanDigits cs with
  | ([], _) => none
  | (ds, rest) => some (Text.ofDecimal ds, rest)

def readExponent : List Char → Option (Option Int × List Char)
  | [] => some (none, [])
  | c :: cs =>
      if c = 'e' ∨ c = 'E' then
        match cs with
        | '-' :: cs => (readExponentDigits cs).map fun (n, rest) => (some (-(n : Int)), rest)
        | '+' :: cs => (readExponentDigits cs).map fun (n, rest) => (some (n : Int), rest)
        | cs => (readExponentDigits cs).map fun (n, rest) => (some (n : Int), rest)
      else some (none, c :: cs)

/-- A number after its sign. -/
def readUnsigned (negative : Bool) (cs : List Char) : Option (Json × List Char) := do
  let (whole, cs) ← readWhole cs
  let (fraction, cs) ← readFraction cs
  let (exponent, cs) ← readExponent cs
  some (.number ⟨negative, whole, fraction, exponent⟩, cs)

def readNumber : List Char → Option (Json × List Char)
  | '-' :: cs => readUnsigned true cs
  | cs => readUnsigned false cs

/-- The three values that are words. -/
def readWord (cs : List Char) : Option (Json × List Char) :=
  [("null", Json.null), ("true", .bool true), ("false", .bool false)].findSome? fun (word, j) =>
    (word.toList.isPrefixOf? cs).map (j, ·)

/-- An object of members whose keys all denote strings. -/
def ofMembers (members : List (Option String × Json)) : Json :=
  match members.mapM fun (key, j) => key.map (·, j) with
  | some members => .object members
  | none => .unreadable

mutual

/-- Reads one value; `fuel` bounds its depth and the number of its items. -/
def readValue : Nat → List Char → Option (Json × List Char)
  | 0, _ => none
  | fuel + 1, cs =>
      match skipBlanks cs with
      | '"' :: rest => (readString rest).map fun (s, rest) => (s.elim .unreadable .string, rest)
      | '[' :: rest =>
          match skipBlanks rest with
          | ']' :: rest => some (.array [], rest)
          | rest => (readItems fuel rest).map fun (items, rest) => (.array items, rest)
      | '{' :: rest =>
          match skipBlanks rest with
          | '}' :: rest => some (.object [], rest)
          | rest => (readMembers fuel rest).map fun (ms, rest) => (ofMembers ms, rest)
      | rest => (readWord rest).or (readNumber rest)

/-- Reads the items of an array that has some, and its closing bracket. -/
def readItems : Nat → List Char → Option (List Json × List Char)
  | 0, _ => none
  | fuel + 1, cs => do
      let (j, rest) ← readValue fuel cs
      match skipBlanks rest with
      | ',' :: rest => (readItems fuel rest).map fun (items, rest) => (j :: items, rest)
      | ']' :: rest => some ([j], rest)
      | _ => none

/-- Reads the members of an object that has some, and its closing brace. -/
def readMembers : Nat → List Char → Option (List (Option String × Json) × List Char)
  | 0, _ => none
  | fuel + 1, cs =>
      match skipBlanks cs with
      | '"' :: rest => do
          let (key, rest) ← readString rest
          match skipBlanks rest with
          | ':' :: rest => do
              let (j, rest) ← readValue fuel rest
              match skipBlanks rest with
              | ',' :: rest => (readMembers fuel rest).map fun (ms, rest) => ((key, j) :: ms, rest)
              | '}' :: rest => some ([(key, j)], rest)
              | _ => none
          | _ => none
      | _ => none

end

/-- The value of a text. -/
def parse? (text : String) : Option Json :=
  let cs := text.toList
  match readValue (cs.length + 1) cs with
  | some (j, rest) => if (skipBlanks rest).isEmpty then some j else none
  | none => none

end Connectivity.Json
