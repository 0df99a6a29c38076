import Connectivity.Text.Characters

/-!
# Writing TOML strings

Of the notations that TOML has for a string, the plainest that fits is chosen: quotes without an
escape, a literal in single quotes, three quotes of either kind, and escapes only where nothing else
will do.
-/
namespace Connectivity.Toml

/-- Characters that stand only as escapes: the control characters but for tab and line feed. -/
def isControl (c : Char) : Bool :=
  (c.toNat < 0x20 && c ≠ '\t' && c ≠ '\n') || c.toNat = 0x7f

/-- Characters that are safe between any quotes. -/
def isSafe (c : Char) : Bool := c.isAlphanum || "_-./: ".toList.contains c

/-- The longest run of a character. -/
def longestRun (mark : Char) : List Char → Nat → Nat
  | [], run => run
  | c :: rest, run =>
      if c = mark then longestRun mark rest (run + 1) else max run (longestRun mark rest 0)

/-- The escape of a control character, a tab or a backslash; other characters stay as they are. -/
def escapeChar (c : Char) : List Char :=
  if c = '\\' then ['\\', '\\']
  else if c = '\x08' then ['\\', 'b']
  else if c = '\t' then ['\\', 't']
  else if c = '\x0c' then ['\\', 'f']
  else if c = '\r' then ['\\', 'r']
  else if isControl c then '\\' :: 'u' :: (Text.paddedHex 4 c.toNat).map Char.toUpper
  else [c]

def tabEscaped (cs : List Char) : List Char :=
  cs.flatMap fun c => if c = '\t' then ['\\', 't'] else [c]

/-- Escapes on one line, quotes included. -/
def escapeLine (cs : List Char) : List Char :=
  cs.flatMap fun c => if c = '"' then ['\\', '"'] else escapeChar c

/-- Escapes in three quotes, where of a run of quotes only every third is escaped; `quotes` counts
those just before. -/
def escapeLines : Nat → List Char → List Char
  | _, [] => []
  | quotes, c :: rest =>
      if c = '"' then
        if quotes = 2 then '\\' :: '"' :: escapeLines 0 rest
        else '"' :: escapeLines (quotes + 1) rest
      else if c = '\n' then '\n' :: escapeLines 0 rest
      else escapeChar c ++ escapeLines 0 rest

/-- A text in three quotes; before a text of several lines a line end is added, which is not part
of it. -/
def inThree (quote : Char) (text written : List Char) : List Char :=
  let quotes := [quote, quote, quote]
  quotes ++ (if text.contains '\n' then ['\n'] else []) ++ written ++ quotes

/-- The notation of a string. -/
def printString (s : String) : List Char :=
  let cs := s.toList
  let hasControl := cs.any isControl
  let has (c : Char) : Bool := cs.contains c
  if cs.all isSafe then '"' :: cs ++ ['"']
  else if !hasControl && !has '\\' && !has '"' && !has '\n' then '"' :: tabEscaped cs ++ ['"']
  else if !hasControl && !has '\'' && !has '\n' then '\'' :: cs ++ ['\'']
  else if !hasControl && !has '\\' && longestRun '"' cs 0 ≤ 2 then inThree '"' cs (tabEscaped cs)
  else if !hasControl && longestRun '\'' cs 0 ≤ 2 then inThree '\'' cs cs
  else if has '\n' then inThree '"' cs (escapeLines 0 cs)
  else '"' :: escapeLine cs ++ ['"']

end Connectivity.Toml
