import Connectivity.Json.Basic
import Connectivity.Text.Characters

/-!
# Printing JSON

The compact text of a value: no blanks, members in their order, and in strings an escape only where
the format demands one.
-/
namespace Connectivity.Json

/-- A quote, a backslash and the control characters are escaped, all else stands for itself. -/
def escape (c : Char) : List Char :=
  if c = '"' then ['\\', '"']
  else if c = '\\' then ['\\', '\\']
  else if c = '\n' then ['\\', 'n']
  else if c = '\r' then ['\\', 'r']
  else if c = '\t' then ['\\', 't']
  else if c = '\x08' then ['\\', 'b']
  else if c = '\x0c' then ['\\', 'f']
  else if c.toNat < 0x20 then '\\' :: 'u' :: Text.paddedHex 4 c.toNat
  else [c]

def printString (s : String) : List Char :=
  '"' :: (s.toList.flatMap escape ++ ['"'])

def printExponent : Option Int → List Char
  | none => []
  | some (.ofNat n) => 'e' :: Text.decimal n
  | some (.negSucc n) => 'e' :: '-' :: Text.decimal (n + 1)

def Number.print (n : Number) : List Char :=
  (if n.negative then ['-'] else []) ++ Text.decimal n.whole ++
    (if n.fraction = [] then [] else '.' :: n.fraction.map Text.digitChar) ++
    printExponent n.exponent

mutual

def printChars : Json → List Char
  | .null => "null".toList
  | .bool true => "true".toList
  | .bool false => "false".toList
  | .number n => n.print
  | .string s => printString s
  | .array items => '[' :: printItems items
  | .object members => '{' :: printMembers members
  | .unreadable => "\"\\ud800\"".toList

def printItems : List Json → List Char
  | [] => [']']
  | [j] => printChars j ++ [']']
  | j :: rest => printChars j ++ ',' :: printItems rest

def printMembers : List (String × Json) → List Char
  | [] => ['}']
  | [(key, j)] => printString key ++ ':' :: printChars j ++ ['}']
  | (key, j) :: rest => printString key ++ ':' :: printChars j ++ ',' :: printMembers rest

end

/-- The text of a value. -/
def print (j : Json) : String := String.ofList (printChars j)

end Connectivity.Json
