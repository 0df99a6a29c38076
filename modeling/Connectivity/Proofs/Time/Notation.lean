import Connectivity.Proofs.Text.Digits
import Connectivity.Time.Notation

/-!
# Instants read back

The text of an instant denotes that instant, whatever its year, its fraction of a second, or its
second number 60. Each field has as many digits as its reader may take, the year apart, which is
signed when it has more.
-/
namespace Connectivity.Instant

open Text

/-! ## Fields and marks -/

theorem isBlank_of_isDigit {c : Char} (h : c.isDigit = true) : isBlank c = false := by
  have all : ∀ d, isBlank (digitChar d) = false := by decide
  obtain ⟨d, rfl⟩ := exists_digitChar h
  exact all d

theorem trimStart_cons {c : Char} {cs : List Char} (h : isBlank c = false) :
    trimStart (c :: cs) = c :: cs :=
  dropWhile_of_endsAt (endsAt_cons.2 h)

theorem trimStart_padded (width n : Nat) (rest : List Char) :
    trimStart (padded width n ++ rest) = padded width n ++ rest := by
  obtain ⟨d, ds, h, hd⟩ := exists_padded_eq_cons width n
  rw [h, List.cons_append, trimStart_cons (isBlank_of_isDigit hd)]

/-- A field takes the digits of a padded number and leaves the rest, even more digits. -/
theorem readField_padded {width n : Nat} (hwidth : 0 < width) (hn : n < Nat.pow 10 width)
    (rest : List Char) : readField width (padded width n ++ rest) = some (n, rest) := by
  have hlength := length_padded hwidth hn
  have htake : (padded width n ++ rest).take width = padded width n :=
    List.take_left' hlength
  have hdigits : (padded width n).takeWhile Char.isDigit = padded width n := by
    simpa using takeWhile_append_of_endsAt (fun c (h : c ∈ padded width n) =>
      isDigit_of_mem_padded h) (endsAt_nil _)
  simp only [readField, trimStart_padded, htake, hdigits, ofDecimal_padded, List.drop_left]
  simp [padded_ne_nil]

theorem readMark_cons {mark : Char} (h : isBlank mark = false) (rest : List Char) :
    readMark mark (mark :: rest) = some rest := by
  simp [readMark, trimStart_cons h]

/-! ## Dates -/

theorem readSignedYear_padded (negative : Bool) (n : Nat) {rest : List Char}
    (hrest : EndsAt Char.isDigit rest) :
    readSignedYear negative (padded 4 n ++ rest) =
      some (if negative then -(n : Int) else n, rest) := by
  obtain ⟨d, ds, hdigits, hspan⟩ :=
    spanDigits_eq_cons (fun c => isDigit_of_mem_padded) (padded_ne_nil 4 n) hrest
  rw [readSignedYear, hspan]
  simp only [← hdigits, ofDecimal_padded]

theorem readYear_unsigned {c : Char} (hc : c.isDigit = true) (cs : List Char) :
    readYear (c :: cs) = (readField 4 (c :: cs)).map fun (n, rest) => ((n : Int), rest) := by
  rw [readYear, trimStart_cons (isBlank_of_isDigit hc)]
  split
  case h_1 heq => obtain ⟨rfl, -⟩ := List.cons.inj heq; simp at hc
  case h_2 heq => obtain ⟨rfl, -⟩ := List.cons.inj heq; simp at hc
  case h_3 => rfl

theorem readYear_yearChars (year : Int) {rest : List Char} (hrest : EndsAt Char.isDigit rest) :
    readYear (yearChars year ++ rest) = some (year, rest) := by
  unfold yearChars
  split
  case isTrue h =>
    have hread : readField 4 (padded 4 year.toNat ++ rest) = some (year.toNat, rest) :=
      readField_padded (by omega) (show year.toNat < 10000 by omega) rest
    obtain ⟨d, ds, hdigits, hd⟩ := exists_padded_eq_cons 4 year.toNat
    rw [hdigits, List.cons_append] at hread ⊢
    rw [readYear_unsigned hd, hread]
    simp only [Option.map_some, Int.toNat_of_nonneg h.1]
  case isFalse =>
    split
    case isTrue h =>
      rw [List.cons_append, readYear, trimStart_cons (by decide)]
      simp only [readSignedYear_padded false year.toNat hrest, Bool.false_eq_true, if_false,
        Int.toNat_of_nonneg h]
    case isFalse h =>
      rw [List.cons_append, readYear, trimStart_cons (by decide)]
      simp only [readSignedYear_padded true (-year).toNat hrest, if_true]
      rw [Int.toNat_of_nonneg (by omega), Int.neg_neg]

/-- The text of a date. -/
def dateChars (date : Date) : List Char :=
  yearChars date.year ++ '-' :: (padded 2 date.month ++ '-' :: padded 2 date.day)

theorem daysInMonth_le (year : Int) (month : Nat) : daysInMonth year month ≤ 31 := by
  simp only [daysInMonth]
  repeat' split
  all_goals omega

theorem readDate_dateChars (date : Date) (rest : List Char) :
    readDate (dateChars date ++ rest) = some (date, rest) := by
  have hmonth : date.month < Nat.pow 10 2 := by
    have := date.month_mem
    show date.month < 100
    omega
  have hday : date.day < Nat.pow 10 2 := by
    have := date.day_mem
    have := daysInMonth_le date.year date.month
    show date.day < 100
    omega
  have hyear : ∀ more, readYear (yearChars date.year ++ '-' :: more) =
      some (date.year, '-' :: more) := fun more => readYear_yearChars date.year (by simp)
  simp [readDate, dateChars, hyear, readMark_cons (show isBlank '-' = false by decide),
    readField_padded (by omega) hmonth, readField_padded (by omega) hday]

/-! ## Times of day -/

/-- Up to nine digits count as many nanoseconds as the digits after them leave. -/
theorem nanosecondsOf_eq {ds : List Char} (h : ds.length ≤ 9) :
    nanosecondsOf ds = Nat.pow 10 (9 - ds.length) * ofDecimal ds := by
  have htake : (ds ++ List.replicate 9 '0').take 9 = ds ++ List.replicate (9 - ds.length) '0' := by
    rw [List.take_append, List.take_of_length_le h, List.take_replicate,
      Nat.min_eq_left (by omega)]
  rw [nanosecondsOf, htake, ofDecimal, Nat.ofDigitChars_append, Nat.ofDigitChars_replicate_zero]
  rfl

theorem readFraction_digits {ds rest : List Char} (hds : ∀ c ∈ ds, c.isDigit = true)
    (hne : ds ≠ []) (hrest : EndsAt Char.isDigit rest) :
    readFraction ('.' :: (ds ++ rest)) = some (nanosecondsOf ds, rest) := by
  obtain ⟨d, ds, rfl, hspan⟩ := spanDigits_eq_cons hds hne hrest
  simp only [readFraction, hspan]

/-- A fraction of as many digits as are needed. -/
theorem readFraction_padded {width n : Nat} (hwidth : 0 < width) (hle : width ≤ 9)
    (hn : n < Nat.pow 10 width) {rest : List Char} (hrest : EndsAt Char.isDigit rest) :
    readFraction ('.' :: (padded width n ++ rest)) =
      some (Nat.pow 10 (9 - width) * n, rest) := by
  have hlength := length_padded hwidth hn
  rw [readFraction_digits (fun c => isDigit_of_mem_padded) (padded_ne_nil width n) hrest,
    nanosecondsOf_eq (by omega), hlength, ofDecimal_padded]

theorem readFraction_fractionChars {n : Nat} (hn : n < 1000000000) {rest : List Char}
    (hrest : EndsAt (fun c => c.isDigit || c = '.') rest) :
    readFraction (fractionChars n ++ rest) = some (n, rest) := by
  have hdigit : EndsAt Char.isDigit rest := hrest.mono fun c hc => by simp [hc]
  unfold fractionChars
  split
  case isTrue h =>
    cases rest with
    | nil => simp [readFraction, h]
    | cons c rest => simp_all [readFraction]
  case isFalse =>
    split
    case isTrue h =>
      rw [List.cons_append, readFraction_padded (by omega) (by omega)
        (show n / 1000000 < 1000 by omega) hdigit]
      show some (1000000 * (n / 1000000), rest) = _
      rw [Nat.mul_div_cancel' (Nat.dvd_of_mod_eq_zero h)]
    case isFalse =>
      split
      case isTrue h =>
        rw [List.cons_append, readFraction_padded (by omega) (by omega)
          (show n / 1000 < 1000000 by omega) hdigit]
        show some (1000 * (n / 1000), rest) = _
        rw [Nat.mul_div_cancel' (Nat.dvd_of_mod_eq_zero h)]
      case isFalse =>
        rw [List.cons_append, readFraction_padded (by omega) (by omega) hn hdigit]
        show some (1 * n, rest) = _
        rw [Nat.one_mul]

/-- The text of a time of day. -/
def timeChars (time : TimeOfDay) : List Char :=
  padded 2 time.hour ++ ':' :: (padded 2 time.minute ++
    ':' :: (padded 2 time.second ++ fractionChars time.nanosecond))

theorem readTime_timeChars (time : TimeOfDay) {rest : List Char}
    (hrest : EndsAt (fun c => c.isDigit || c = '.') rest) :
    readTime (timeChars time ++ rest) = some (time, rest) := by
  have hbound := time.minuteOfDay_lt
  have hhour : time.hour < Nat.pow 10 2 := by
    show time.minuteOfDay / 60 < 100
    omega
  have hminute : time.minute < Nat.pow 10 2 := by
    show time.minuteOfDay % 60 < 100
    omega
  have hsecond : time.second < Nat.pow 10 2 := by
    have := time.second_le
    show time.second < 100
    omega
  simp [readTime, timeChars, readMark_cons (show isBlank ':' = false by decide),
    readField_padded (by omega) hhour, readField_padded (by omega) hminute,
    readField_padded (by omega) hsecond, readFraction_fractionChars time.nanosecond_lt hrest]

/-! ## Instants -/

theorem chars_eq (t : Instant) :
    t.chars = dateChars t.date ++ 'T' :: (timeChars t.time ++ ['Z']) := by
  simp [chars, dateChars, timeChars]

theorem readZone_Z : readZone ['Z'] = some (0, []) := by decide

/-- An instant is read back from its text, to the nanosecond. -/
theorem ofText?_text (t : Instant) : ofText? t.text = some t := by
  have hblank : trimStart ['Z'] = ['Z'] := trimStart_cons (by decide)
  have hnil : trimStart [] = [] := rfl
  simp [ofText?, text, chars_eq, readDate_dateChars, readSeparator, readTime_timeChars t.time,
    hblank, readZone_Z, hnil]

example : (ofText? "2024-02-29t23:59:60.5-00:30").map text = some "2024-03-01T00:29:60.500Z" := by
  decide +kernel

end Connectivity.Instant
