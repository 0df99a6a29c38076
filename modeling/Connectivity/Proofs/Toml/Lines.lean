import Connectivity.Proofs.Toml.Strings

/-!
# Lines of a TOML text

Headers of tables, assignments of strings, counts and truth values, and empty lines, as they are
written one to a line. Whatever follows the line, it is read as its statement.
-/
namespace Connectivity.Toml

open Text

variable {rest : List Char}

/-! ## Words -/

/-- Decimal digits denote the same number to the base ten. -/
theorem foldlM_digits {ds : List Char} (hds : ∀ c ∈ ds, c.isDigit = true) (n : Nat) :
    ds.foldlM (fun n c => ((hexDigit? c).filter (· < 10)).map (10 * n + ·)) n =
      some (Nat.ofDigitChars 10 ds n) := by
  induction ds generalizing n with
  | nil => rfl
  | cons c ds ih =>
      have hc := hds c List.mem_cons_self
      have hbound : c.toNat - 48 < 10 := by
        have all : ∀ d, (digitChar d).toNat - 48 < 10 := by decide
        obtain ⟨d, rfl⟩ := exists_digitChar hc
        exact all d
      have hdigit : (hexDigit? c).filter (· < 10) = some (c.toNat - 48) := by
        simp [hexDigit?, hc, hbound]
      rw [List.foldlM_cons, hdigit]
      exact ih (fun c h => hds c (List.mem_cons_of_mem _ h)) _

theorem ofDigits?_decimal (n : Nat) : ofDigits? 10 (decimal n) = some n := by
  have hfold := foldlM_digits (fun c => isDigit_of_mem_decimal (n := n)) 0
  obtain ⟨d, ds, h, -⟩ := exists_decimal_eq_cons n
  have hvalue : Nat.ofDigitChars 10 (decimal n) 0 = n := ofDecimal_decimal n
  rw [hvalue, h] at hfold
  rw [h]
  exact hfold

/-- There is nothing to take out of digits. -/
theorem ungroup?_digits {ds : List Char} (hds : ∀ c ∈ ds, c.isDigit = true)
    (isDigit : Char → Bool) (afterDigit : Bool) : ungroup? isDigit afterDigit ds = some ds := by
  induction ds generalizing afterDigit with
  | nil => rfl
  | cons c ds ih =>
      have hc : c ≠ '_' := ne_of_kind (hds c List.mem_cons_self) (by decide)
      simp [ungroup?, hc, ih fun c h => hds c (List.mem_cons_of_mem _ h)]

theorem splitSign_decimal (n : Nat) : splitSign (decimal n) = (.none, decimal n) := by
  obtain ⟨d, ds, h, hd⟩ := exists_decimal_eq_cons n
  have hminus : d ≠ '-' := ne_of_kind hd (by decide)
  have hplus : d ≠ '+' := ne_of_kind hd (by decide)
  simp [h, splitSign, hminus, hplus]

theorem numeral?_decimal (n : Nat) : numeral? (decimal n) = some ⟨.none, 10, decimal n⟩ := by
  have hdigits : ∀ c ∈ decimal n, c.isDigit = true := fun c h => isDigit_of_mem_decimal h
  have hungroup := ungroup?_digits hdigits isHexDigit false
  have hspan : (decimal n).dropWhile Char.isDigit = [] := by
    simpa using dropWhile_append_of_endsAt hdigits (endsAt_nil _)
  have hzero : hasLeadingZero (decimal n) = false := by
    cases hlead : hasLeadingZero (decimal n) with
    | false => rfl
    | true =>
        unfold hasLeadingZero at hlead
        split at hlead
        case h_1 c _ h => cases eq_nil_of_decimal_eq_zero_cons h
        case h_2 => cases hlead
  have hmark : ∀ c cs, decimal n = '0' :: c :: cs → c.isDigit = true := fun c cs heq =>
    hdigits c (heq ▸ List.mem_cons_of_mem _ List.mem_cons_self)
  unfold numeral?
  split
  case h_1 heq => exact absurd (hmark _ _ heq) (by decide)
  case h_2 heq => exact absurd (hmark _ _ heq) (by decide)
  case h_3 heq => exact absurd (hmark _ _ heq) (by decide)
  case h_4 =>
    simp [decimalNumeral?, splitSign_decimal, hspan, hzero, hungroup, decimal_ne_nil]

theorem mark_digits {ds : List Char} (hds : ∀ c ∈ ds, c.isDigit = true) {c : Char}
    (hc : c.isDigit = false) : mark c ds = none := by
  cases ds with
  | nil => rfl
  | cons d ds =>
      have hne : d ≠ c := ne_of_kind (hds d List.mem_cons_self) hc
      simp [mark, hne]

/-- Neither a date nor a time of day is a number without marks. -/
theorem not_isDatetime_digits {ds : List Char} (hds : ∀ c ∈ ds, c.isDigit = true) :
    isDatetime ds = false := by
  have hmark : ∀ width c, c.isDigit = false →
      (fixedNumber width ds).bind (fun p => mark c p.2) = none := by
    intro width c hc
    simp only [fixedNumber]
    split
    case isTrue => exact mark_digits (fun d h => hds d (List.mem_of_mem_drop h)) hc
    case isFalse => rfl
  have hdate : datePart ds = none := by
    have := hmark 4 '-' (by decide)
    cases hnumber : fixedNumber 4 ds with
    | none => simp [datePart, hnumber]
    | some p => simp_all [datePart]
  have htime : timePart ds = none := by
    have := hmark 2 ':' (by decide)
    cases hnumber : fixedNumber 2 ds with
    | none => simp [timePart, hnumber]
    | some p => simp_all [timePart]
  simp [isDatetime, hdate, htime]

theorem ofWords?_decimal {n : Nat} (h : n ≤ maxCount) :
    ofWords? (decimal n) = some (.integer n) := by
  have hdigits : ∀ c ∈ decimal n, c.isDigit = true := fun c h => isDigit_of_mem_decimal h
  have hvalue : Numeral.value? ⟨.none, 10, decimal n⟩ = some (n : Int) := by
    have hsmall : n < Nat.pow 2 128 := Nat.lt_of_le_of_lt h (by decide)
    simp [Numeral.value?, ofDigits?_decimal, hsmall, Sign.apply]
  have hword : ∀ c word, c.isDigit = false → decimal n ≠ c :: word := fun c word hc heq =>
    ne_of_kind (hdigits c (heq ▸ List.mem_cons_self)) hc rfl
  have hspecial : isSpecialFloat (decimal n) = false := by
    simp [isSpecialFloat, splitSign_decimal, hword]
  simp [ofWords?, hword, hspecial, not_isDatetime_digits hdigits, numeral?_decimal, hvalue]

theorem ofWords?_bool (b : Bool) :
    ofWords? (if b then "true".toList else "false".toList) = some (.bool b) := by
  cases b <;> simp [ofWords?]

/-! ## Values -/

/-- The text is that of one value, up to the end of its line. -/
structure IsValue (text : List Char) (v : Toml) : Prop where
  begins : ∃ d tail, text = d :: tail ∧ isSpace d = false
  reads : ∀ fuel depth rest,
    readValue (fuel + 1) depth (text ++ '\n' :: rest) = some (.plain v, '\n' :: rest)

theorem printString_begins (s : String) :
    ∃ quote tail, printString s = quote :: tail ∧ (quote = '"' ∨ quote = '\'') := by
  simp only [printString, inThree]
  repeat' split
  all_goals first | exact ⟨'"', _, rfl, .inl rfl⟩ | exact ⟨'\'', _, rfl, .inr rfl⟩

theorem isValue_string (s : String) : IsValue (printString s) (.string s) := by
  have hread : ∀ rest, readString (printString s ++ '\n' :: rest) = some (s, '\n' :: rest) :=
    fun rest => readString_printString s (by simp)
  obtain ⟨quote, tail, h, hquote⟩ := printString_begins s
  rw [h] at hread ⊢
  refine ⟨⟨quote, tail, rfl, ?_⟩, fun fuel depth rest => ?_⟩
  · rcases hquote with rfl | rfl <;> decide
  · have := hread rest
    rw [List.cons_append] at this ⊢
    rcases hquote with rfl | rfl <;> simp [readValue, this]

theorem spanWords_append {words : List Char} (h : ∀ c ∈ words, isWordStart c = true) :
    spanWords (words ++ '\n' :: rest) = (words, '\n' :: rest) := by
  induction words with
  | nil => simp [spanWords, isMark]
  | cons c words ih =>
      have hc := h c List.mem_cons_self
      simp only [isWordStart, Bool.not_eq_true', Bool.or_eq_false_iff] at hc
      obtain ⟨⟨⟨hmark, hspace⟩, -⟩, -⟩ := hc
      simp [spanWords, hmark, hspace, ih fun c h' => h c (List.mem_cons_of_mem _ h')]

theorem isValue_words {words : List Char} {v : Toml} (hne : words ≠ [])
    (h : ∀ c ∈ words, isWordStart c = true) (hv : ofWords? words = some v) : IsValue words v := by
  have hspan : ∀ rest, readWords (words ++ '\n' :: rest) = some (v, '\n' :: rest) := fun rest => by
    simp [readWords, spanWords_append h, hv]
  obtain ⟨c, tail, rfl⟩ := List.exists_cons_of_ne_nil hne
  have hstart := h c List.mem_cons_self
  have hc : ∀ d, isWordStart d = false → c ≠ d := fun d => ne_of_kind hstart
  refine ⟨⟨c, tail, rfl, ?_⟩, fun fuel depth rest => ?_⟩
  · simp only [isWordStart, Bool.not_eq_true', Bool.or_eq_false_iff] at hstart
    exact hstart.1.1.2
  · have := hspan rest
    rw [List.cons_append] at this ⊢
    simp [readValue, hc '[' (by decide), hc '{' (by decide), hc '"' (by decide),
      hc '\'' (by decide), this]

theorem isValue_count {n : Nat} (h : n ≤ maxCount) : IsValue (decimal n) (.integer n) := by
  refine isValue_words (decimal_ne_nil n) (fun c hc => ?_) (ofWords?_decimal h)
  have all : ∀ d, isWordStart (digitChar d) = true := by decide
  obtain ⟨d, rfl⟩ := exists_digitChar (isDigit_of_mem_decimal hc)
  exact all d

theorem isValue_bool (b : Bool) :
    IsValue (if b then "true".toList else "false".toList) (.bool b) :=
  isValue_words (by cases b <;> simp) (by cases b <;> simp [isWordStart, isMark, isSpace])
    (ofWords?_bool b)

/-! ## Keys -/

/-- A key that needs no quotes. -/
structure IsBareKey (key : String) : Prop where
  ne_nil : key.toList ≠ []
  bare : ∀ c ∈ key.toList, isBareKeyChar c = true

theorem isBareKey_of_check {key : String}
    (h : (!key.toList.isEmpty && key.toList.all isBareKeyChar) = true) : IsBareKey key := by
  simp only [Bool.and_eq_true, Bool.not_eq_true', List.isEmpty_eq_false_iff] at h
  exact ⟨h.1, List.all_eq_true.1 h.2⟩

/-- No statement begins with space, a comment, the end of a line or a byte order mark. -/
def beforeStatements : List Char := [' ', '\t', '#', '\n', '\r', '\ufeff']

theorem IsBareKey.begins {key : String} (h : IsBareKey key) :
    ∃ d tail, key.toList = d :: tail ∧ d ∉ beforeStatements ++ ['[', '"', '\''] := by
  obtain ⟨d, tail, hkey⟩ := List.exists_cons_of_ne_nil h.ne_nil
  refine ⟨d, tail, hkey, fun hmem => ?_⟩
  have hd := h.bare d (hkey ▸ List.mem_cons_self)
  have none_bare : (beforeStatements ++ ['[', '"', '\'']).any isBareKeyChar = false := by decide
  exact List.any_eq_false.1 none_bare d hmem hd

theorem readKeyPart_bare {key : String} (hkey : IsBareKey key)
    (hrest : EndsAt isBareKeyChar rest) : readKeyPart (key.toList ++ rest) = some (key, rest) := by
  have htake := takeWhile_append_of_endsAt hkey.bare hrest
  have hdrop := dropWhile_append_of_endsAt hkey.bare hrest
  have hne : key.toList.isEmpty = false := by simpa using hkey.ne_nil
  obtain ⟨d, tail, h, hd⟩ := hkey.begins
  have hc : ∀ c ∈ ['"', '\''], d ≠ c := by
    rintro c hc rfl
    exact hd (List.mem_append_right _ (List.mem_cons_of_mem _ hc))
  unfold readKeyPart
  split
  case h_1 heq => rw [h] at heq; exact absurd (List.cons.inj heq).1 (hc _ (by decide))
  case h_2 heq => rw [h] at heq; exact absurd (List.cons.inj heq).1 (hc _ (by decide))
  case h_3 => simp only [htake, hdrop, hne, String.ofList_toList]; rfl

theorem readKey_bare {key : String} (hkey : IsBareKey key) (hbare : EndsAt isBareKeyChar rest)
    (hpoint : EndsAt (fun c => c = '.') (skipSpace rest)) :
    readKey (key.toList ++ rest) = some ([key], skipSpace rest) := by
  have hskip : skipSpace (key.toList ++ rest) = key.toList ++ rest := by
    obtain ⟨d, tail, h, hd⟩ := hkey.begins
    simp only [beforeStatements, List.cons_append, List.mem_cons, not_or] at hd
    rw [h]
    exact skipSpace_cons (by simp [isSpace, hd.1, hd.2.1]) _
  show readParts (79 + 1) (key.toList ++ rest) = _
  rw [readParts, hskip, readKeyPart_bare hkey hbare]
  cases hrest : skipSpace rest with
  | nil => simp [hrest]
  | cons c more =>
      have hc : c ≠ '.' := by simpa [hrest] using hpoint
      simp [hrest, hc]

/-! ## Lines -/

/-- The text of one line makes one statement, whatever lines follow. -/
structure IsLine (text : List Char) (s : Statement) : Prop where
  begins : ∃ d tail, text = d :: tail ∧ d ∉ beforeStatements
  reads : ∀ rest, readStatement (text ++ '\n' :: rest) = some (s, rest)

theorem endLine?_newline (rest : List Char) : endLine? ('\n' :: rest) = some rest := by
  have hskip : skipSpace ('\n' :: rest) = '\n' :: rest := skipSpace_cons (by decide) rest
  simp [endLine?, hskip, newline?]

/-- The header of a table. -/
def headerLine (key : String) : List Char := '[' :: (key.toList ++ [']'])

theorem isLine_header {key : String} (hkey : IsBareKey key) :
    IsLine (headerLine key) (.header [key]) where
  begins := ⟨'[', _, rfl, by decide⟩
  reads rest := by
    have hskip : skipSpace (']' :: '\n' :: rest) = ']' :: '\n' :: rest :=
      skipSpace_cons (by decide) _
    have hread : readKey (key.toList ++ ']' :: '\n' :: rest) =
        some ([key], ']' :: '\n' :: rest) := by
      rw [readKey_bare hkey (by simp [isBareKeyChar]) (by simp [hskip]), hskip]
    obtain ⟨d, tail, hkey, hd⟩ := hkey.begins
    have hbracket : d ≠ '[' := by rintro rfl; exact hd (by decide)
    rw [hkey, List.cons_append] at hread
    simp [headerLine, hkey, readStatement, hbracket, hread, mark, endLine?_newline]

/-- The assignment of a value to a key. -/
def assignLine (key : String) (text : List Char) : List Char :=
  key.toList ++ ' ' :: '=' :: ' ' :: text

theorem isLine_assign {key : String} {text : List Char} {v : Toml} (hkey : IsBareKey key)
    (hv : IsValue text v) : IsLine (assignLine key text) (.assign [key] (.plain v)) where
  begins := by
    obtain ⟨d, tail, hkey, hd⟩ := hkey.begins
    exact ⟨d, _, by rw [assignLine, hkey]; rfl, fun h => hd (List.mem_append_left _ h)⟩
  reads rest := by
    have hspace : ∀ cs, skipSpace (' ' :: cs) = skipSpace cs := fun cs => by
      simp [skipSpace, isSpace]
    have hequals : skipSpace ('=' :: ' ' :: (text ++ '\n' :: rest)) =
        '=' :: ' ' :: (text ++ '\n' :: rest) := skipSpace_cons (by decide) _
    have hread : readKey (key.toList ++ ' ' :: '=' :: ' ' :: (text ++ '\n' :: rest)) =
        some ([key], '=' :: ' ' :: (text ++ '\n' :: rest)) := by
      rw [readKey_bare hkey (by simp [isBareKeyChar]) (by simp [hspace, hequals]), hspace, hequals]
    have htext : skipSpace (' ' :: (text ++ '\n' :: rest)) = text ++ '\n' :: rest := by
      obtain ⟨d, tail, rfl, hd⟩ := hv.begins
      rw [hspace]
      exact skipSpace_cons hd _
    obtain ⟨d, tail, hkey, hd⟩ := hkey.begins
    have hbracket : d ≠ '[' := by rintro rfl; exact hd (by decide)
    rw [hkey, List.cons_append] at hread
    simp [assignLine, hkey, readStatement, hbracket, hread, mark, htext, hv.reads, endLine?_newline]

/-! ## Texts of several lines -/

/-- Lines one after the other, each with its end. -/
def unlines (lines : List (List Char)) : List Char := lines.flatMap (· ++ ['\n'])

theorem unlines_cons (line : List Char) (lines : List (List Char)) :
    unlines (line :: lines) = line ++ '\n' :: unlines lines := by
  simp [unlines]

/-- Lines that make statements; an empty line makes none. -/
inductive AreLines : List (List Char) → List Statement → Prop
  | nil : AreLines [] []
  | empty {lines : List (List Char)} {ss : List Statement} :
      AreLines lines ss → AreLines ([] :: lines) ss
  | line {text : List Char} {s : Statement} {lines : List (List Char)} {ss : List Statement} :
      IsLine text s → AreLines lines ss → AreLines (text :: lines) (s :: ss)

/-- Skipping an empty line changes nothing for the readers of what follows. -/
theorem readStatements_newline (fuel : Nat) (cs : List Char) :
    readStatements fuel ('\n' :: cs) = readStatements fuel cs := by
  cases fuel with
  | zero => rfl
  | succ fuel =>
      have hskip : skipSpace ('\n' :: cs) = '\n' :: cs := skipSpace_cons (by decide) cs
      have hlines : skipLines (('\n' :: cs).length + 1) ('\n' :: cs) =
          skipLines (cs.length + 1) cs := by
        rw [skipLines, hskip]
        simp [endLine?_newline]
      rw [readStatements, readStatements, hlines]

theorem readStatements_line {text : List Char} {s : Statement} (h : IsLine text s) (fuel : Nat)
    (cs : List Char) :
    readStatements (fuel + 1) (text ++ '\n' :: cs) = (readStatements fuel cs).map (s :: ·) := by
  have hread := h.reads cs
  obtain ⟨d, tail, rfl, hd⟩ := h.begins
  simp only [beforeStatements, List.mem_cons, List.not_mem_nil, or_false, not_or] at hd
  obtain ⟨hspace, htab, hcomment, hnewline, hreturn, -⟩ := hd
  rw [List.cons_append] at hread ⊢
  have hskip : skipSpace (d :: (tail ++ '\n' :: cs)) = d :: (tail ++ '\n' :: cs) :=
    skipSpace_cons (by simp [isSpace, hspace, htab]) _
  have hlines : ∀ n, skipLines (n + 1) (d :: (tail ++ '\n' :: cs)) =
      some (d :: (tail ++ '\n' :: cs)) := fun n => by
    simp [skipLines, hskip, hcomment, hnewline, hreturn]
  simp [readStatements, hlines, hread]

/-- Lines are read as their statements. -/
theorem AreLines.readStatements {lines : List (List Char)} {ss : List Statement}
    (h : AreLines lines ss) {fuel : Nat} (hfuel : ss.length < fuel) :
    readStatements fuel (unlines lines) = some ss := by
  induction h generalizing fuel with
  | nil =>
      obtain ⟨fuel, rfl⟩ : ∃ n, fuel = n + 1 := Nat.exists_eq_add_one.2 hfuel
      rfl
  | empty _ ih =>
      rw [unlines_cons, List.nil_append, readStatements_newline]
      exact ih hfuel
  | line htext _ ih =>
      rw [List.length_cons] at hfuel
      obtain ⟨fuel, rfl⟩ : ∃ n, fuel = n + 1 := Nat.exists_eq_add_one.2 (by omega)
      rw [unlines_cons, readStatements_line htext, ih (by omega)]
      rfl

theorem AreLines.length_le {lines : List (List Char)} {ss : List Statement}
    (h : AreLines lines ss) : ss.length ≤ (unlines lines).length := by
  induction h with
  | nil => simp
  | empty _ ih => rw [unlines_cons, List.length_append, List.length_cons]; omega
  | line _ _ ih =>
      rw [unlines_cons, List.length_append, List.length_cons, List.length_cons]
      omega

theorem AreLines.no_mark {lines : List (List Char)} {ss : List Statement}
    (h : AreLines lines ss) (cs : List Char) : unlines lines ≠ '\ufeff' :: cs := by
  cases h with
  | nil => simp [unlines]
  | empty => rw [unlines_cons]; simp
  | line htext =>
      obtain ⟨d, tail, rfl, hd⟩ := htext.begins
      rw [unlines_cons, List.cons_append]
      rintro heq
      exact hd ((List.cons.inj heq).1 ▸ by decide)

/-- The statements of a text of such lines. -/
theorem AreLines.statements? {lines : List (List Char)} {ss : List Statement}
    (h : AreLines lines ss) : statements? (String.ofList (unlines lines)) = some ss := by
  have hread := h.readStatements (Nat.lt_succ_of_le h.length_le)
  unfold Toml.statements?
  rw [String.toList_ofList]
  split
  case h_1 heq => exact absurd heq (h.no_mark _)
  case h_2 => exact hread

end Connectivity.Toml
