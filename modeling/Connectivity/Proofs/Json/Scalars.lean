import Connectivity.Json.Parser
import Connectivity.Json.Printer
import Connectivity.Proofs.Text.Digits

/-!
# Strings and numbers in JSON

A string or a number that was printed is read back, whatever follows it in the text. What follows a
number must not be taken for more of it.
-/
namespace Connectivity.Json

open Text

/-! ## Strings -/

/-- The code of a character below the surrogates stands for the character. -/
theorem joinPieces_code {n : Nat} (h : n < 0xd800) (ps : List Piece) :
    joinPieces (.code n :: ps) = (joinPieces ps).map (Char.ofNat n :: ·) := by
  have high : isHighSurrogate n = false := by
    simp only [isHighSurrogate, Bool.and_eq_false_iff, decide_eq_false_iff_not]; omega
  have low : isLowSurrogate n = false := by
    simp only [isLowSurrogate, Bool.and_eq_false_iff, decide_eq_false_iff_not]; omega
  match ps with
  | [] => simp [joinPieces, high, low]
  | .plain c :: ps => simp [joinPieces, high, low]
  | .code l :: ps => simp [joinPieces, high, low]

/-- The three ways to print a character. -/
theorem escape_cases (c : Char) :
    (∃ letter, escape c = ['\\', letter] ∧ letter ≠ 'u' ∧ shortEscape? letter = some c) ∨
      (escape c = '\\' :: 'u' :: paddedHex 4 c.toNat ∧ c.toNat < 0x20) ∨
      (escape c = [c] ∧ c ≠ '"' ∧ c ≠ '\\' ∧ ¬ c.toNat < 0x20) := by
  by_cases short : c ∈ ['"', '\\', '\n', '\r', '\t', '\x08', '\x0c']
  case pos =>
    simp only [List.mem_cons, List.not_mem_nil, or_false] at short
    rcases short with rfl | rfl | rfl | rfl | rfl | rfl | rfl <;>
      exact .inl ⟨_, rfl, by decide, rfl⟩
  case neg =>
    simp only [List.mem_cons, List.not_mem_nil, or_false, not_or] at short
    obtain ⟨hquote, hbackslash, hrest⟩ := short
    by_cases control : c.toNat < 0x20
    case pos => exact .inr (.inl ⟨by simp [escape, hquote, hbackslash, hrest, control], control⟩)
    case neg =>
      exact .inr (.inr ⟨by simp [escape, hquote, hbackslash, hrest, control], hquote, hbackslash,
        control⟩)

/-- One character as it was printed is one piece, which stands for that character. -/
theorem readPieces_escape (c : Char) (rest : List Char) :
    ∃ p, readPieces (escape c ++ rest) =
        (readPieces rest).map (fun (ps, rest) => (p :: ps, rest)) ∧
      ∀ ps, joinPieces (p :: ps) = (joinPieces ps).map (c :: ·) := by
  rcases escape_cases c with ⟨letter, h, hletter, hshort⟩ | ⟨h, hcontrol⟩ |
    ⟨h, hquote, hbackslash, hcontrol⟩
  · refine ⟨.plain c, ?_, fun _ => rfl⟩
    cases hrest : readPieces rest <;> simp [h, readPieces, hletter, hshort, hrest]
  · obtain ⟨w, x, y, z, hdigits, hvalue, -⟩ := paddedHex_control (n := c.toNat) (by omega)
    refine ⟨.code c.toNat, ?_, fun ps => ?_⟩
    · cases hrest : readPieces rest <;> simp [h, hdigits, readPieces, hvalue, hrest]
    · rw [joinPieces_code (by omega), Char.ofNat_toNat]
  · refine ⟨.plain c, ?_, fun _ => rfl⟩
    cases hrest : readPieces rest <;> simp [h, readPieces, hbackslash, hcontrol, hrest]

theorem readPieces_printed (cs rest : List Char) :
    ∃ ps, readPieces (cs.flatMap escape ++ '"' :: rest) = some (ps, rest) ∧
      joinPieces ps = some cs := by
  induction cs with
  | nil => exact ⟨[], by simp [readPieces], rfl⟩
  | cons c cs ih =>
      obtain ⟨ps, hread, hjoin⟩ := ih
      obtain ⟨p, hfirst, hchar⟩ := readPieces_escape c (cs.flatMap escape ++ '"' :: rest)
      refine ⟨p :: ps, ?_, by rw [hchar, hjoin]; rfl⟩
      rw [List.flatMap_cons, List.append_assoc, hfirst, hread]
      rfl

/-- The text of a string after its opening quote. -/
def stringBody (s : String) : List Char := s.toList.flatMap escape ++ ['"']

theorem readString_stringBody (s : String) (rest : List Char) :
    readString (stringBody s ++ rest) = some (some s, rest) := by
  obtain ⟨ps, hread, hjoin⟩ := readPieces_printed s.toList rest
  rw [stringBody, List.append_assoc, List.singleton_append, readString, hread]
  simp [hjoin]

/-! ## Numbers -/

/-- A character with which a number could go on. -/
def continuesNumber (c : Char) : Bool := c.isDigit || c = '.' || c = 'e' || c = 'E'

/-- The text does not go on with more of a number. -/
abbrev NumberEnds (rest : List Char) : Prop := EndsAt continuesNumber rest

theorem NumberEnds.noDigit {rest : List Char} (h : NumberEnds rest) : EndsAt Char.isDigit rest :=
  h.mono fun c hc => by simp [continuesNumber, hc]

theorem readWhole_decimal (n : Nat) {rest : List Char} (hrest : EndsAt Char.isDigit rest) :
    readWhole (decimal n ++ rest) = some (n, rest) := by
  obtain ⟨d, ds, hdigits, hspan⟩ :=
    spanDigits_eq_cons (fun c => isDigit_of_mem_decimal) (decimal_ne_nil n) hrest
  have hzero : ¬ (d = '0' ∧ ds ≠ []) := by
    rintro ⟨rfl, hne⟩
    exact hne (eq_nil_of_decimal_eq_zero_cons hdigits)
  rw [readWhole, hspan]
  simp only [if_neg hzero, ← hdigits, ofDecimal_decimal]

/-- The written fraction of a number. -/
def fractionText (fraction : List (Fin 10)) : List Char :=
  if fraction = [] then [] else '.' :: fraction.map digitChar

theorem readFraction_fractionText (fraction : List (Fin 10)) {rest : List Char}
    (hrest : EndsAt (fun c => c.isDigit || c = '.') rest) :
    readFraction (fractionText fraction ++ rest) = some (fraction, rest) := by
  cases fraction with
  | nil =>
      cases rest with
      | nil => rfl
      | cons c rest =>
          have hc : c ≠ '.' := by rintro rfl; simp at hrest
          simp [fractionText, readFraction, hc]
  | cons d ds =>
      have hspan : spanDigits ((d :: ds).map digitChar ++ rest) =
          ((d :: ds).map digitChar, rest) := by
        refine spanDigits_of_digits (fun c hc => ?_) (hrest.mono fun c hc => by simp [hc])
        obtain ⟨e, -, rfl⟩ := List.mem_map.1 hc
        exact isDigit_digitChar e
      simp only [fractionText, List.cons_ne_nil, if_false, List.cons_append, readFraction, hspan]
      show some (((d :: ds).map digitChar).filterMap digit?, rest) = _
      rw [filterMap_digit?_map_digitChar]

theorem readExponentDigits_decimal (n : Nat) {rest : List Char}
    (hrest : EndsAt Char.isDigit rest) :
    readExponentDigits (decimal n ++ rest) = some (n, rest) := by
  obtain ⟨d, ds, hdigits, hspan⟩ :=
    spanDigits_eq_cons (fun c => isDigit_of_mem_decimal) (decimal_ne_nil n) hrest
  rw [readExponentDigits, hspan]
  simp only [← hdigits, ofDecimal_decimal]

theorem readExponent_printExponent (exponent : Option Int) {rest : List Char}
    (hrest : NumberEnds rest) :
    readExponent (printExponent exponent ++ rest) = some (exponent, rest) := by
  match exponent with
  | none =>
      cases rest with
      | nil => rfl
      | cons c rest => simp_all [printExponent, readExponent, continuesNumber]
  | some (.ofNat n) =>
      obtain ⟨d, ds, hdigits, hd⟩ := exists_decimal_eq_cons n
      have hread := readExponentDigits_decimal n hrest.noDigit
      rw [hdigits] at hread
      have hminus : d ≠ '-' := ne_of_kind hd (by decide)
      have hplus : d ≠ '+' := ne_of_kind hd (by decide)
      simp_all [printExponent, readExponent]
  | some (.negSucc n) =>
      have hread := readExponentDigits_decimal (n + 1) hrest.noDigit
      simp [printExponent, readExponent, hread, Int.negSucc_eq]

/-- What may follow the whole part of a number. -/
theorem exponent_ends (exponent : Option Int) {rest : List Char} (hrest : NumberEnds rest) :
    EndsAt (fun c => c.isDigit || c = '.') (printExponent exponent ++ rest) := by
  match exponent with
  | none =>
      cases rest with
      | nil => simp [printExponent]
      | cons c rest => simp_all [printExponent, continuesNumber]
  | some (.ofNat n) => simp [printExponent]
  | some (.negSucc n) => simp [printExponent]

theorem fraction_ends (fraction : List (Fin 10)) {rest : List Char}
    (hrest : EndsAt Char.isDigit rest) : EndsAt Char.isDigit (fractionText fraction ++ rest) := by
  cases fraction with
  | nil => simpa [fractionText] using hrest
  | cons d ds => simp [fractionText]

theorem readUnsigned_print (n : Number) {rest : List Char} (hrest : NumberEnds rest) :
    readUnsigned n.negative (decimal n.whole ++
        (fractionText n.fraction ++ (printExponent n.exponent ++ rest))) =
      some (.number n, rest) := by
  have hexponent := exponent_ends n.exponent hrest
  have hnodigit : EndsAt Char.isDigit (printExponent n.exponent ++ rest) :=
    hexponent.mono fun c hc => by simp [hc]
  simp [readUnsigned, readWhole_decimal n.whole (fraction_ends n.fraction hnodigit),
    readFraction_fractionText n.fraction hexponent, readExponent_printExponent n.exponent hrest]

theorem readNumber_print (n : Number) {rest : List Char} (hrest : NumberEnds rest) :
    readNumber (n.print ++ rest) = some (.number n, rest) := by
  have hread := readUnsigned_print n hrest
  obtain ⟨negative, whole, fraction, exponent⟩ := n
  cases negative with
  | true => simpa [Number.print, readNumber, fractionText] using hread
  | false =>
      obtain ⟨d, ds, hdigits, hd⟩ := exists_decimal_eq_cons whole
      have hminus : d ≠ '-' := ne_of_kind hd (by decide)
      simp_all [Number.print, readNumber, fractionText]

end Connectivity.Json
