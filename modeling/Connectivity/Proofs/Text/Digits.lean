import Connectivity.Text.Characters

/-!
# Digits in a text

A reader of digits stops where something else follows. It finds the digits of a number as they were
written, padded or not, in decimal or hexadecimal notation.
-/
namespace Connectivity.Text

theorem ne_of_kind {p : Char → Bool} {c d : Char} (hc : p c = true) (hd : p d = false) : c ≠ d := by
  rintro rfl
  rw [hc] at hd
  cases hd

/-- The text does not go on with a character of the kind `p`. -/
def EndsAt (p : Char → Bool) (rest : List Char) : Prop := ∀ c ∈ rest.head?, p c = false

@[simp] theorem endsAt_nil (p : Char → Bool) : EndsAt p [] := by simp [EndsAt]

@[simp] theorem endsAt_cons {p : Char → Bool} {c : Char} {rest : List Char} :
    EndsAt p (c :: rest) ↔ p c = false := by
  simp [EndsAt]

theorem EndsAt.mono {p q : Char → Bool} {rest : List Char} (h : EndsAt q rest)
    (hkinds : ∀ c, p c = true → q c = true) : EndsAt p rest := fun c hc =>
  Bool.eq_false_iff.2 fun hp => ne_of_kind (hkinds c hp) (h c hc) rfl

section

variable {p : Char → Bool} {cs rest : List Char}

theorem takeWhile_append_of_endsAt (hcs : ∀ c ∈ cs, p c = true) (hrest : EndsAt p rest) :
    (cs ++ rest).takeWhile p = cs := by
  rw [List.takeWhile_append_of_pos hcs]
  cases rest with
  | nil => simp
  | cons c rest => simp [endsAt_cons.1 hrest]

theorem dropWhile_append_of_endsAt (hcs : ∀ c ∈ cs, p c = true) (hrest : EndsAt p rest) :
    (cs ++ rest).dropWhile p = rest := by
  rw [List.dropWhile_append_of_pos hcs]
  cases rest with
  | nil => simp
  | cons c rest => simp [endsAt_cons.1 hrest]

theorem dropWhile_of_endsAt (hrest : EndsAt p rest) : rest.dropWhile p = rest :=
  dropWhile_append_of_endsAt (List.forall_mem_nil _) hrest

end

theorem spanDigits_of_digits {ds rest : List Char} (hds : ∀ c ∈ ds, c.isDigit = true)
    (hrest : EndsAt Char.isDigit rest) : spanDigits (ds ++ rest) = (ds, rest) := by
  rw [spanDigits, takeWhile_append_of_endsAt hds hrest, dropWhile_append_of_endsAt hds hrest]

/-- Digits are found where there are some. -/
theorem spanDigits_eq_cons {ds rest : List Char} (hds : ∀ c ∈ ds, c.isDigit = true)
    (hne : ds ≠ []) (hrest : EndsAt Char.isDigit rest) :
    ∃ d tail, ds = d :: tail ∧ spanDigits (ds ++ rest) = (d :: tail, rest) := by
  obtain ⟨d, tail, rfl⟩ := List.exists_cons_of_ne_nil hne
  exact ⟨d, tail, rfl, spanDigits_of_digits hds hrest⟩

/-! ## Decimal digits -/

theorem exists_digitChar {c : Char} (h : c.isDigit = true) : ∃ d, c = digitChar d := by
  simp only [Char.isDigit, Bool.and_eq_true, decide_eq_true_eq] at h
  have h48 : 48 ≤ c.toNat := h.1
  have h57 : c.toNat ≤ 57 := h.2
  refine ⟨⟨c.toNat - 48, by omega⟩, ?_⟩
  rw [digitChar, show 48 + (c.toNat - 48) = c.toNat by omega, Char.ofNat_toNat]

theorem isDigit_of_mem_decimal {n : Nat} {c : Char} (h : c ∈ decimal n) : c.isDigit = true :=
  Nat.isDigit_of_mem_toDigits (by omega) (by omega) h

theorem decimal_ne_nil (n : Nat) : decimal n ≠ [] := Nat.toDigits_ne_nil

theorem exists_decimal_eq_cons (n : Nat) : ∃ d ds, decimal n = d :: ds ∧ d.isDigit = true := by
  obtain ⟨d, ds, h⟩ := List.exists_cons_of_ne_nil (decimal_ne_nil n)
  exact ⟨d, ds, h, isDigit_of_mem_decimal (h ▸ List.mem_cons_self)⟩

/-- No zero stands before another digit. -/
theorem eq_nil_of_decimal_eq_zero_cons {n : Nat} {ds : List Char} (h : decimal n = '0' :: ds) :
    ds = [] := by
  induction n using Nat.strongRecOn generalizing ds with
  | ind n ih =>
      rcases Nat.lt_or_ge n 10 with hn | hn
      · rw [decimal, Nat.toDigits_of_lt_base hn] at h
        exact (List.cons.inj h).2.symm
      · rw [decimal, Nat.toDigits_of_base_le (by omega) hn] at h
        -- the digits before the last one are those of a smaller number, which is not zero
        obtain ⟨d, front, hfront⟩ := List.exists_cons_of_ne_nil (decimal_ne_nil (n / 10))
        rw [decimal] at hfront
        rw [hfront, List.cons_append] at h
        obtain ⟨rfl, -⟩ := List.cons.inj h
        have hnil := ih (n / 10) (by omega) hfront
        have hzero := ofDecimal_decimal (n / 10)
        rw [decimal, hfront, hnil] at hzero
        have : n / 10 = 0 := hzero.symm
        omega

theorem isDigit_digitChar (d : Fin 10) : (digitChar d).isDigit = true := by
  revert d; decide

theorem filterMap_digit?_map_digitChar (ds : List (Fin 10)) :
    (ds.map digitChar).filterMap digit? = ds := by
  induction ds with
  | nil => rfl
  | cons d ds ih => simp [ih]

/-! ## Padded numbers -/

theorem isDigit_of_mem_padded {width n : Nat} {c : Char} (h : c ∈ padded width n) :
    c.isDigit = true := by
  rcases List.mem_append.1 h with h | h
  · rw [List.eq_of_mem_replicate h]
    rfl
  · exact isDigit_of_mem_decimal h

theorem padded_ne_nil (width n : Nat) : padded width n ≠ [] := by
  simp [padded, decimal_ne_nil]

theorem exists_padded_eq_cons (width n : Nat) :
    ∃ d ds, padded width n = d :: ds ∧ d.isDigit = true := by
  obtain ⟨d, ds, h⟩ := List.exists_cons_of_ne_nil (padded_ne_nil width n)
  exact ⟨d, ds, h, isDigit_of_mem_padded (h ▸ List.mem_cons_self)⟩

/-- A number that the width has room for is written with exactly as many digits. -/
theorem length_padded {width n : Nat} (hwidth : 0 < width) (hn : n < Nat.pow 10 width) :
    (padded width n).length = width := by
  have : (decimal n).length ≤ width := (Nat.length_toDigits_le_iff (by omega) hwidth).2 hn
  simp only [padded, List.length_append, List.length_replicate]
  omega

/-! ## Hexadecimal digits -/

/-- The code of a control character takes four hexadecimal digits, in either case of letters. -/
theorem paddedHex_control {n : Nat} (h : n < 0x80) :
    ∃ a b c d, paddedHex 4 n = [a, b, c, d] ∧ ofHex? [a, b, c, d] = some n ∧
      ofHex? [a.toUpper, b.toUpper, c.toUpper, d.toUpper] = some n := by
  have all : ∀ m : Fin 0x80, (paddedHex 4 m).length = 4 ∧ ofHex? (paddedHex 4 m) = some m.val ∧
      ofHex? ((paddedHex 4 m).map Char.toUpper) = some m.val := by decide +kernel
  obtain ⟨hlength, hlower, hupper⟩ := all ⟨n, h⟩
  obtain ⟨a, b, c, d, hdigits⟩ : ∃ a b c d, paddedHex 4 n = [a, b, c, d] := by
    match paddedHex 4 n, hlength with
    | [a, b, c, d], _ => exact ⟨a, b, c, d, rfl⟩
  rw [hdigits] at hlower hupper
  exact ⟨a, b, c, d, hdigits, hlower, hupper⟩

end Connectivity.Text
