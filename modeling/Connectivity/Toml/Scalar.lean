import Connectivity.Text.Characters
import Connectivity.Time.Instant
import Connectivity.Toml.Basic

/-!
# Words of a TOML document

Integers, floats, truth values, dates and times: the values that are written without quotes or
brackets.
-/
namespace Connectivity.Toml

open Text

/-- The sign that a number may have. -/
inductive Sign where
  | none
  | plus
  | minus
  deriving DecidableEq, Repr

/-- The sign of a number, and what follows it. -/
def splitSign : List Char → Sign × List Char
  | '-' :: cs => (.minus, cs)
  | '+' :: cs => (.plus, cs)
  | cs => (.none, cs)

def Sign.apply (s : Sign) (n : Nat) : Int := if s = .minus then -n else n

/-- The characters of a number without its underscores. Each of them stands between two digits;
`afterDigit` says that a digit has just been. -/
def ungroup? (isDigit : Char → Bool) (afterDigit : Bool) : List Char → Option (List Char)
  | [] => some []
  | c :: rest =>
      if c = '_' then
        if afterDigit && rest.head?.any isDigit then ungroup? isDigit false rest else none
      else (ungroup? isDigit (isDigit c) rest).map (c :: ·)

def isHexDigit (c : Char) : Bool := (hexDigit? c).isSome

/-- The value of digits to a base, if there are any and they all are such digits. -/
def ofDigits? (base : Nat) : List Char → Option Nat
  | [] => none
  | ds => ds.foldlM (fun n c => ((hexDigit? c).filter (· < base)).map (base * n + ·)) 0

/-- A number does not begin with a zero that other digits follow. -/
def hasLeadingZero : List Char → Bool
  | '0' :: c :: _ => c.isDigit || c = '_'
  | _ => false

/-- An integer as it is written, without its underscores. -/
structure Numeral where
  sign : Sign
  base : Nat
  digits : List Char

/-- A hexadecimal, octal or binary integer after its mark. -/
def basedNumeral? (base : Nat) (cs : List Char) : Option Numeral := do
  let ds ← ungroup? isHexDigit false cs
  if ds.all fun c => (ofDigits? base [c]).isSome then some ⟨.none, base, ds⟩ else none

/-- A decimal integer. Only its digits before the first underscore are sure to be decimal: what
follows may be anything but a float or a text with blanks. -/
def decimalNumeral? (cs : List Char) : Option Numeral :=
  let (sign, cs) := splitSign cs
  let rest := cs.dropWhile Char.isDigit
  if cs.isEmpty || hasLeadingZero cs || rest.any (".eE ".toList.contains ·) ||
    rest.head?.any (· ≠ '_') then none
  else (ungroup? isHexDigit false cs).map (⟨sign, 10, ·⟩)

/-- Decimal integers may have a sign; hexadecimal, octal and binary ones have none. -/
def numeral? : List Char → Option Numeral
  | '0' :: 'x' :: cs => basedNumeral? 16 cs
  | '0' :: 'o' :: cs => basedNumeral? 8 cs
  | '0' :: 'b' :: cs => basedNumeral? 2 cs
  | cs => decimalNumeral? cs

/-- The value of a numeral, if it has one that fits into 128 binary digits. -/
def Numeral.value? (n : Numeral) : Option Int := do
  let size ← ofDigits? n.base n.digits
  if size < Nat.pow 2 128 ∧ (n.sign = .minus → size ≤ Nat.pow 2 127) then some (n.sign.apply size)
  else none

/-- A float by its digits and the power of ten that they are multiplied by. -/
structure Decimal where
  digits : List Char
  exponent : Int

/-- Digits, and the text after them; at least one. -/
def someDigits (cs : List Char) : Option (List Char × List Char) :=
  match spanDigits cs with
  | ([], _) => none
  | split => some split

/-- The fraction that a number may have. -/
def fraction? : List Char → Option (List Char × List Char)
  | '.' :: cs => someDigits cs
  | cs => some ([], cs)

/-- The exponent that a number may have, up to the end of the text. -/
def exponent? : List Char → Option Int
  | [] => some 0
  | letter :: cs => do
      let (sign, cs) := splitSign cs
      let (ds, rest) ← someDigits cs
      if (letter = 'e' ∨ letter = 'E') ∧ rest.isEmpty then some (sign.apply (ofDecimal ds))
      else none

/-- A decimal number with a fraction, an exponent or both. -/
def decimal? (cs : List Char) : Option Decimal := do
  let (_, cs) := splitSign cs
  if hasLeadingZero cs then none
  else
    let cs ← ungroup? Char.isDigit false cs
    let (whole, cs) ← someDigits cs
    let (fraction, power) ← fraction? cs
    if fraction.isEmpty && power.isEmpty then none
    else
      let exponent ← exponent? power
      some ⟨whole ++ fraction, exponent - fraction.length⟩

/-- A decimal number that rounds to a double of finite size. The least number that does not is half
a unit above the greatest double. -/
def Decimal.isFinite (d : Decimal) : Bool :=
  let digits := d.digits.dropWhile (· = '0')
  let magnitude := (digits.length : Int) + d.exponent
  if digits.isEmpty || magnitude < 300 then true
  else if magnitude > 320 then false
  else
    let bound := Nat.pow 2 1024 - Nat.pow 2 970
    if 0 ≤ d.exponent then ofDecimal digits * Nat.pow 10 d.exponent.toNat < bound
    else ofDecimal digits < bound * Nat.pow 10 (-d.exponent).toNat

/-- Infinity and the value that is no number, with a sign or without. -/
def isSpecialFloat (cs : List Char) : Bool :=
  let (_, word) := splitSign cs
  word = "inf".toList || word = "nan".toList

/-- A number of exactly `width` digits, and what follows it. -/
def fixedNumber (width : Nat) (cs : List Char) : Option (Nat × List Char) :=
  let ds := cs.take width
  if ds.length = width ∧ ds.all Char.isDigit then some (ofDecimal ds, cs.drop width) else none

def mark (c : Char) : List Char → Option (List Char)
  | [] => none
  | d :: rest => if d = c then some rest else none

def datePart (cs : List Char) : Option (List Char) := do
  let (year, cs) ← fixedNumber 4 cs
  let cs ← mark '-' cs
  let (month, cs) ← fixedNumber 2 cs
  let cs ← mark '-' cs
  let (day, cs) ← fixedNumber 2 cs
  if (Date.of? year month day).isSome then some cs else none

/-- Hours and minutes, and the seconds that may follow. -/
def timePart (cs : List Char) : Option (List Char) := do
  let (hour, cs) ← fixedNumber 2 cs
  let cs ← mark ':' cs
  let (minute, cs) ← fixedNumber 2 cs
  if hour < 24 ∧ minute < 60 then
    match cs with
    | ':' :: cs => do
        let (second, cs) ← fixedNumber 2 cs
        if second ≤ 60 then (fraction? cs).map Prod.snd else none
    | cs => some cs
  else none

/-- Nothing, or `Z`, or an offset. -/
def isOffset (cs : List Char) : Bool :=
  match cs with
  | [] => true
  | c :: rest =>
      if c = 'Z' ∨ c = 'z' then rest.isEmpty
      else if c = '+' ∨ c = '-' then
        match fixedNumber 2 rest with
        | some (hour, ':' :: rest) =>
            match fixedNumber 2 rest with
            | some (minute, []) => hour < 24 && minute < 60
            | _ => false
        | _ => false
      else false

/-- A date, a time of day, or both with an offset or without. -/
def isDatetime (cs : List Char) : Bool :=
  match datePart cs with
  | some [] => true
  | some (c :: rest) =>
      (c = 'T' || c = 't' || c = ' ') &&
        match timePart rest with
        | some rest => isOffset rest
        | none => false
  | none => timePart cs = some []

/-- The value of words. -/
def ofWords? (cs : List Char) : Option Toml :=
  let text := String.ofList cs
  if cs = "true".toList then some (.bool true)
  else if cs = "false".toList then some (.bool false)
  else if isSpecialFloat cs then some (.float text)
  else if isDatetime cs then some (.datetime text)
  else
    match numeral? cs with
    | some n => some ((n.value?.map .integer).getD (.unreadable text))
    | none => (decimal? cs).map fun d => if d.isFinite then .float text else .unreadable text

end Connectivity.Toml
