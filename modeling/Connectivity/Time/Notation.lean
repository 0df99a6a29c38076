import Connectivity.Text.Characters
import Connectivity.Time.Instant

/-!
# Instants as text

Instants are written as RFC 3339 has it, in UTC and with the fewest of 0, 3, 6 or 9 digits of
fraction that are exact. They are read from a wider grammar: numbers may have fewer digits, blanks
may stand between the parts, a space or a small letter may separate date and time, and the offset
may be any number of minutes within a day.
-/
namespace Connectivity.Instant

open Text

/-- Up to `width` digits, at least one, after blanks. -/
def readField (width : Nat) (cs : List Char) : Option (Nat × List Char) :=
  let cs := trimStart cs
  let digits := (cs.take width).takeWhile Char.isDigit
  if digits.isEmpty then none else some (ofDecimal digits, cs.drop digits.length)

/-- A character after blanks. -/
def readMark (mark : Char) (cs : List Char) : Option (List Char) :=
  match trimStart cs with
  | [] => none
  | c :: rest => if c = mark then some rest else none

/-- A year of any number of digits after its sign. -/
def readSignedYear (negative : Bool) (cs : List Char) : Option (Int × List Char) :=
  match spanDigits cs with
  | ([], _) => none
  | (ds, rest) => some (if negative then -(ofDecimal ds : Int) else ofDecimal ds, rest)

/-- A year has four digits at most unless it has a sign. -/
def readYear (cs : List Char) : Option (Int × List Char) :=
  match trimStart cs with
  | '-' :: rest => readSignedYear true rest
  | '+' :: rest => readSignedYear false rest
  | rest => (readField 4 rest).map fun (n, rest) => (n, rest)

def readDate (cs : List Char) : Option (Date × List Char) := do
  let (year, cs) ← readYear cs
  let cs ← readMark '-' cs
  let (month, cs) ← readField 2 cs
  let cs ← readMark '-' cs
  let (day, cs) ← readField 2 cs
  let date ← Date.of? year month day
  return (date, cs)

/-- The nanoseconds that decimal digits of a second denote: zeros are added up to nine digits, and
digits after the ninth do not count. -/
def nanosecondsOf (digits : List Char) : Nat :=
  ofDecimal ((digits ++ List.replicate 9 '0').take 9)

/-- The fraction of a second, if a point follows. -/
def readFraction : List Char → Option (Nat × List Char)
  | '.' :: cs =>
      match spanDigits cs with
      | ([], _) => none
      | (ds, rest) => some (nanosecondsOf ds, rest)
  | cs => some (0, cs)

def readTime (cs : List Char) : Option (TimeOfDay × List Char) := do
  let (hour, cs) ← readField 2 cs
  let cs ← readMark ':' cs
  let (minute, cs) ← readField 2 cs
  let cs ← readMark ':' cs
  let (second, cs) ← readField 2 cs
  let (nanosecond, cs) ← readFraction cs
  let time ← TimeOfDay.of? hour minute second nanosecond
  return (time, cs)

/-- Two digits, as they stand. -/
def readTwo : List Char → Option (Nat × List Char)
  | a :: b :: rest =>
      if a.isDigit && b.isDigit then some (ofDecimal [a, b], rest) else none
  | _ => none

/-- Hours and minutes of an offset, with colons or blanks between them or nothing. -/
def readOffset (cs : List Char) : Option (Nat × List Char) := do
  let (hours, cs) ← readTwo cs
  let (minutes, cs) ← readTwo (cs.dropWhile fun c => c = ':' || isBlank c)
  if minutes < 60 ∧ hours < 24 then return (60 * hours + minutes, cs) else none

/-- The letters `UTC` in either case, or `Z`, or an offset with its sign. -/
def readZone (cs : List Char) : Option (Int × List Char) :=
  if (cs.take 3).map Char.toUpper = ['U', 'T', 'C'] then some (0, cs.drop 3)
  else
    match cs with
    | [] => none
    | c :: rest =>
        if c = 'Z' ∨ c = 'z' then some (0, rest)
        else if c = '+' then (readOffset rest).map fun (m, rest) => ((m : Int), rest)
        else if c = '-' ∨ c = '\u2212' then
          (readOffset rest).map fun (m, rest) => (-(m : Int), rest)
        else none

def readSeparator : List Char → Option (List Char)
  | [] => none
  | c :: rest => if c = 'T' ∨ c = 't' ∨ c = ' ' then some rest else none

/-- The instant that a text denotes. -/
def ofText? (text : String) : Option Instant := do
  let (date, cs) ← readDate text.toList
  let cs ← readSeparator cs
  let (time, cs) ← readTime cs
  let (offset, cs) ← readZone (trimStart cs)
  if (trimStart cs).isEmpty then ofLocal? date time offset else none

/-- Years of four digits are written as they are, others with their sign. -/
def yearChars (year : Int) : List Char :=
  if 0 ≤ year ∧ year ≤ 9999 then padded 4 year.toNat
  else if 0 ≤ year then '+' :: padded 4 year.toNat
  else '-' :: padded 4 (-year).toNat

def fractionChars (nanosecond : Nat) : List Char :=
  if nanosecond = 0 then []
  else if nanosecond % 1000000 = 0 then '.' :: padded 3 (nanosecond / 1000000)
  else if nanosecond % 1000 = 0 then '.' :: padded 6 (nanosecond / 1000)
  else '.' :: padded 9 nanosecond

def chars (t : Instant) : List Char :=
  yearChars t.date.year ++ '-' :: padded 2 t.date.month ++ '-' :: padded 2 t.date.day ++
    'T' :: padded 2 t.time.hour ++ ':' :: padded 2 t.time.minute ++
    ':' :: padded 2 t.time.second ++ fractionChars t.time.nanosecond ++ ['Z']

/-- The text of an instant. -/
def text (t : Instant) : String := String.ofList t.chars

end Connectivity.Instant
