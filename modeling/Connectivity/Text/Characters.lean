/-!
# Blanks and digits

The characters that count as white space in ids and dates, as Unicode lists them, and numbers as
digits: decimal digits as they stand in a text, padded decimal numbers, and hexadecimal digits.
-/
namespace Connectivity.Text

/-- Unicode's property `White_Space`: 25 characters. -/
def isBlank (c : Char) : Bool :=
  let n := c.toNat
  (0x09 ≤ n && n ≤ 0x0d) || n == 0x20 || n == 0x85 || n == 0xa0 || n == 0x1680 ||
    (0x2000 ≤ n && n ≤ 0x200a) || n == 0x2028 || n == 0x2029 || n == 0x202f || n == 0x205f ||
    n == 0x3000

/-- The text without the blanks it starts with. -/
def trimStart (cs : List Char) : List Char := cs.dropWhile isBlank

/-- A text is blank if it holds nothing else than blanks. -/
def isBlankText (s : String) : Bool := s.toList.all isBlank

def digit? (c : Char) : Option (Fin 10) :=
  if h : '0'.toNat ≤ c.toNat ∧ c.toNat ≤ '9'.toNat then
    some ⟨c.toNat - '0'.toNat, by
      have h0 : '0'.toNat = 48 := rfl
      have h9 : '9'.toNat = 57 := rfl
      omega⟩
  else none

def digitChar (d : Fin 10) : Char := Char.ofNat (48 + d)

@[simp] theorem digit?_digitChar (d : Fin 10) : digit? (digitChar d) = some d := by
  revert d; decide

/-- The digits a text starts with, and what follows them. -/
def spanDigits (cs : List Char) : List Char × List Char :=
  (cs.takeWhile Char.isDigit, cs.dropWhile Char.isDigit)

/-- The number that decimal digits denote. -/
def ofDecimal (ds : List Char) : Nat := Nat.ofDigitChars 10 ds 0

/-- The decimal digits of a number, at least one. -/
def decimal (n : Nat) : List Char := Nat.toDigits 10 n

@[simp] theorem ofDecimal_decimal (n : Nat) : ofDecimal (decimal n) = n :=
  Nat.ofDigitChars_toDigits (by omega) (by omega)

/-- Decimal digits with zeros in front up to the given width. -/
def padded (width n : Nat) : List Char :=
  List.replicate (width - (decimal n).length) '0' ++ decimal n

theorem ofDecimal_padded (width n : Nat) : ofDecimal (padded width n) = n := by
  have zeros : ∀ k, Nat.ofDigitChars 10 (List.replicate k '0' ++ decimal n) 0 =
      Nat.ofDigitChars 10 (decimal n) 0 := by
    intro k
    induction k with
    | zero => rfl
    | succ k ih => simpa [List.replicate_succ, Nat.ofDigitChars] using ih
  exact (zeros _).trans (ofDecimal_decimal n)

/-- The value of a hexadecimal digit of either case. -/
def hexDigit? (c : Char) : Option Nat :=
  if c.isDigit then some (c.toNat - 48)
  else if 'a' ≤ c ∧ c ≤ 'f' then some (c.toNat - 87)
  else if 'A' ≤ c ∧ c ≤ 'F' then some (c.toNat - 55)
  else none

/-- The number that hexadecimal digits denote, if they all are such digits. -/
def ofHex? (ds : List Char) : Option Nat :=
  ds.foldlM (fun n c => (hexDigit? c).map (16 * n + ·)) 0

/-- Hexadecimal digits of lower case, with zeros in front up to the given width. -/
def paddedHex (width n : Nat) : List Char :=
  let ds := Nat.toDigits 16 n
  List.replicate (width - ds.length) '0' ++ ds

end Connectivity.Text
