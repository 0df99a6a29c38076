import Connectivity.Proofs.Toml.Quotes
import Connectivity.Toml.Printer

/-!
# Printed strings

Every string is read back from the notation that is chosen for it, whichever of the six that is.
-/
namespace Connectivity.Toml

open Text

/-! ## Characters and their escapes -/

theorem isText_of_not_isControl {c : Char} (h : isControl c = false) : IsText c := by
  by_cases hnewline : c = '\n'
  · exact .inr hnewline
  · refine .inl ?_
    simp only [isControl, Bool.or_eq_false_iff, Bool.and_eq_false_iff, decide_eq_false_iff_not] at h
    simp only [isPlain, Bool.or_eq_true, Bool.and_eq_true, decide_eq_true_eq]
    obtain ⟨(hlow | htab) | hline, hdelete⟩ := h
    · exact .inr ⟨by omega, hdelete⟩
    · exact .inl (by simpa using htab)
    · exact absurd (by simpa using hline) hnewline

theorem isPlain_of_not_isControl {c : Char} (h : isControl c = false) (hnewline : c ≠ '\n') :
    isPlain c = true :=
  (isText_of_not_isControl h).resolve_right hnewline

theorem lt_of_isControl {c : Char} (h : isControl c = true) : c.toNat < 0x80 := by
  simp only [isControl, Bool.or_eq_true, Bool.and_eq_true, decide_eq_true_eq] at h
  omega

theorem escapes_control {c : Char} (h : isControl c = true) :
    Escapes ('u' :: (paddedHex 4 c.toNat).map Char.toUpper) c := by
  obtain ⟨w, x, y, z, hdigits, -, hvalue⟩ := paddedHex_control (lt_of_isControl h)
  refine ⟨⟨'u', _, rfl, by decide⟩, fun rest => ?_⟩
  have hchar : charOf? c.toNat = some c := by
    rw [charOf?, if_pos (show c.toNat.isValidChar from c.valid), Char.ofNat_toNat]
  simp [hdigits, readEscape, hvalue, hchar]

/-- A character is escaped by a code for it, or stands for itself. -/
theorem escapeChar_cases (c : Char) :
    (∃ code, escapeChar c = '\\' :: code ∧ Escapes code c) ∨
      (escapeChar c = [c] ∧ c ≠ '\\' ∧ isControl c = false) := by
  by_cases short : c ∈ ['\\', '\x08', '\t', '\x0c', '\r']
  case pos =>
    simp only [List.mem_cons, List.not_mem_nil, or_false] at short
    rcases short with rfl | rfl | rfl | rfl | rfl <;>
      exact .inl ⟨_, rfl, ⟨_, _, rfl, by decide⟩, fun rest => by simp [readEscape]⟩
  case neg =>
    simp only [List.mem_cons, List.not_mem_nil, or_false, not_or] at short
    obtain ⟨hbackslash, hrest⟩ := short
    cases control : isControl c with
    | true =>
        exact .inl ⟨_, by simp [escapeChar, hbackslash, hrest, control], escapes_control control⟩
    | false => exact .inr ⟨by simp [escapeChar, hbackslash, hrest, control], hbackslash, rfl⟩

theorem escapes_quote : Escapes ['"'] '"' :=
  ⟨⟨'"', [], rfl, by decide⟩, fun rest => by simp [readEscape]⟩

theorem escapes_tab : Escapes ['t'] '\t' :=
  ⟨⟨'t', [], rfl, by decide⟩, fun rest => by simp [readEscape]⟩

/-! ## Strings on one line -/

/-- What follows a string does not begin with a quote. -/
abbrev StringEnds (rest : List Char) : Prop := EndsAt (fun c => c = '"' || c = '\'') rest

theorem StringEnds.noQuote {rest : List Char} (h : StringEnds rest) {quote : Char}
    (hquote : quote = '"' ∨ quote = '\'') : EndsAt (fun c => c = quote) rest :=
  h.mono fun c hc => by simpa [of_decide_eq_true hc] using hquote

variable {cs rest : List Char}

/-- Two quotes at the beginning are an empty string, as no third one follows. -/
theorem line_begins {quote : Char} {read : Reader} {spelling : Char → List Char}
    (hcs : ∀ c ∈ cs, Spells quote read (spelling c) c)
    (hrest : EndsAt (fun c => c = quote) rest) :
    ∀ tail, cs.flatMap spelling ++ quote :: rest ≠ quote :: quote :: tail := by
  intro tail heq
  cases cs with
  | nil =>
      rw [List.flatMap_nil, List.nil_append] at heq
      obtain ⟨-, rfl⟩ := List.cons.inj heq
      simp at hrest
  | cons c cs =>
      obtain ⟨d, more, hspelling, hd⟩ := (hcs c List.mem_cons_self).begins
      rw [List.flatMap_cons, hspelling] at heq
      exact hd (List.cons.inj heq).1

theorem readString_basic {spelling : Char → List Char}
    (hcs : ∀ c ∈ cs, Spells '"' readBasic (spelling c) c) (hrest : StringEnds rest) :
    readString ('"' :: (cs.flatMap spelling ++ '"' :: rest)) = some (String.ofList cs, rest) := by
  have hbegins := line_begins hcs (hrest.noQuote (.inl rfl))
  have hread : readBasic ((cs.flatMap spelling ++ '"' :: rest).length + 1)
      (cs.flatMap spelling ++ '"' :: rest) = some (cs, rest) :=
    read_line readBasic_close hcs (by rw [List.length_append]; omega)
  generalize cs.flatMap spelling ++ '"' :: rest = text at hbegins hread ⊢
  unfold readString
  split
  case h_1 heq => exact absurd (List.cons.inj heq).2 (hbegins _)
  case h_2 heq => simp at heq
  case h_3 heq =>
    obtain rfl := (List.cons.inj heq).2
    simp [hread]
  case h_4 heq => simp at heq
  case h_5 hbasic _ => exact absurd rfl (hbasic text)

theorem readString_literal (hcs : ∀ c ∈ cs, Spells '\'' (fun _ => readLiteral) [c] c)
    (hrest : StringEnds rest) :
    readString ('\'' :: (cs ++ '\'' :: rest)) = some (String.ofList cs, rest) := by
  have hbegins := line_begins hcs (hrest.noQuote (.inr rfl))
  rw [List.flatMap_singleton'] at hbegins
  have hread : readLiteral (cs ++ '\'' :: rest) = some (cs, rest) := by
    simpa using read_line (fun _ => readLiteral_close) hcs (Nat.lt_succ_self _)
  generalize cs ++ '\'' :: rest = text at hbegins hread ⊢
  unfold readString
  split
  case h_1 heq => simp at heq
  case h_2 heq => exact absurd (List.cons.inj heq).2 (hbegins _)
  case h_3 heq => simp at heq
  case h_4 heq =>
    obtain rfl := (List.cons.inj heq).2
    simp [hread]
  case h_5 hliteral => exact absurd rfl (hliteral text)

/-! ## Strings in three quotes -/

/-- The line end that was added before a text of several lines is dropped, and nothing else. -/
theorem dropNewline_inThree {text written more : List Char}
    (hwritten : '\n' ∉ text → EndsAt (fun c => c = '\n' || c = '\r') (written ++ more)) :
    dropNewline ((if text.contains '\n' then ['\n'] else []) ++ (written ++ more)) =
      written ++ more := by
  by_cases hmem : '\n' ∈ text
  · simp [hmem, dropNewline, newline?]
  · have hbegins := hwritten hmem
    cases hall : written ++ more with
    | nil => simp [hmem, dropNewline, newline?]
    | cons c tail =>
        rw [hall] at hbegins
        simp only [endsAt_cons, Bool.or_eq_false_iff, decide_eq_false_iff_not] at hbegins
        simp [hmem, dropNewline, newline?, hbegins.1, hbegins.2]

/-- A text of one line without control characters does not begin with the end of a line. -/
theorem begins_flatMap {spelling : Char → List Char} {quote : Char} {more : List Char}
    (hspelling : ∀ c, spelling c = [c] ∨ ∃ code, spelling c = '\\' :: code)
    (hcontrol : ∀ c ∈ cs, isControl c = false) (hnewline : '\n' ∉ cs)
    (hquote : quote ≠ '\n' ∧ quote ≠ '\r') :
    EndsAt (fun c => c = '\n' || c = '\r') (cs.flatMap spelling ++ quote :: more) := by
  cases cs with
  | nil => simpa using hquote
  | cons c cs =>
      have hc : c ≠ '\n' ∧ c ≠ '\r' := by
        refine ⟨fun h => hnewline (h ▸ List.mem_cons_self), ?_⟩
        rintro rfl
        exact absurd (hcontrol '\r' List.mem_cons_self) (by decide)
      rcases hspelling c with h | ⟨code, h⟩
      · simpa [h] using hc
      · simp [h]

/-- A text without long runs of quotes may keep them as they are. -/
theorem inQuotes_flatMap {quote : Char} {read : Reader} {spelling : Char → List Char}
    (hquote : spelling quote = [quote])
    (hcs : ∀ c ∈ cs, c ≠ quote → Spells quote read (spelling c) c) {run : Nat}
    (hrun : longestRun quote cs run ≤ 2) :
    InQuotes quote (Spells quote read) run (cs.flatMap spelling) cs := by
  induction cs generalizing run with
  | nil => exact .nil hrun
  | cons c cs ih =>
      have ih := @ih fun c h => hcs c (List.mem_cons_of_mem _ h)
      rw [longestRun] at hrun
      split at hrun
      case isTrue heq =>
        rw [heq, List.flatMap_cons, hquote]
        exact .quote (ih hrun)
      case isFalse hne =>
        rw [List.flatMap_cons]
        exact .spelled (by omega) (hcs c List.mem_cons_self hne) (ih (by omega))

theorem inQuotes_escapeLines (cs : List Char) {run : Nat} (hrun : run ≤ 2) :
    InQuotes '"' (Spells '"' readMultiBasic) run (escapeLines run cs) cs := by
  induction cs generalizing run with
  | nil => exact .nil hrun
  | cons c cs ih =>
      rw [escapeLines]
      split
      case isTrue hquote =>
        subst hquote
        split
        -- the third quote of a run is escaped, and the count begins anew
        case isTrue => exact .spelled hrun escapes_quote.readMultiBasic_spells (ih (by omega))
        case isFalse hne => exact .quote (ih (by omega))
      case isFalse hquote =>
        split
        case isTrue hnewline =>
          subst hnewline
          exact .spelled hrun (readMultiBasic_spells (.inr rfl) hquote (by decide)) (ih (by omega))
        case isFalse =>
          rcases escapeChar_cases c with ⟨code, h, hcode⟩ | ⟨h, hbackslash, hcontrol⟩
          · rw [h]
            exact .spelled hrun hcode.readMultiBasic_spells (ih (by omega))
          · rw [h]
            exact .spelled hrun
              (readMultiBasic_spells (isText_of_not_isControl hcontrol) hquote hbackslash)
              (ih (by omega))

/-- A reader that ends at three quotes reads what was put into them, once the line end that was
added is dropped. -/
theorem read_inThree {quote : Char} {read : Reader} (hread : EndsAtThree quote read)
    {written : List Char} (h : InQuotes quote (Spells quote read) 0 written cs)
    (hbegins : '\n' ∉ cs → EndsAt (fun c => c = '\n' || c = '\r')
      (written ++ quote :: quote :: quote :: rest))
    (hrest : EndsAt (fun c => c = quote) rest) :
    ∃ body, inThree quote cs written ++ rest = quote :: quote :: quote :: body ∧
      read (body.length + 1) (dropNewline body) = some (cs, rest) := by
  refine ⟨(if cs.contains '\n' then ['\n'] else []) ++
    (written ++ quote :: quote :: quote :: rest), by simp [inThree], ?_⟩
  rw [dropNewline_inThree hbegins]
  exact hread.read_inQuotes h hrest (by simp only [List.length_append, List.length_cons]; omega)

theorem readString_inThree_basic {written : List Char}
    (h : InQuotes '"' (Spells '"' readMultiBasic) 0 written cs)
    (hbegins : '\n' ∉ cs → EndsAt (fun c => c = '\n' || c = '\r')
      (written ++ '"' :: '"' :: '"' :: rest)) (hrest : StringEnds rest) :
    readString (inThree '"' cs written ++ rest) = some (String.ofList cs, rest) := by
  obtain ⟨body, heq, hread⟩ :=
    read_inThree readMultiBasic_endsAtThree h hbegins (hrest.noQuote (.inl rfl))
  rw [heq]
  simp [readString, hread]

theorem readString_inThree_literal {written : List Char}
    (h : InQuotes '\'' (Spells '\'' readMultiLiteral) 0 written cs)
    (hbegins : '\n' ∉ cs → EndsAt (fun c => c = '\n' || c = '\r')
      (written ++ '\'' :: '\'' :: '\'' :: rest)) (hrest : StringEnds rest) :
    readString (inThree '\'' cs written ++ rest) = some (String.ofList cs, rest) := by
  obtain ⟨body, heq, hread⟩ :=
    read_inThree readMultiLiteral_endsAtThree h hbegins (hrest.noQuote (.inr rfl))
  rw [heq]
  simp [readString, hread]

/-! ## The six notations -/

theorem not_isControl_of_isSafe {c : Char} (h : isSafe c = true) : isControl c = false := by
  have all : ∀ n : Fin 0x80, isControl (Char.ofNat n) = true → isSafe (Char.ofNat n) = false := by
    decide +kernel
  cases hcontrol : isControl c with
  | false => rfl
  | true =>
      have hfalse := all ⟨c.toNat, lt_of_isControl hcontrol⟩
      simp only [Char.ofNat_toNat] at hfalse
      rw [hfalse hcontrol] at h
      cases h

theorem isSafe_spells {c : Char} (h : isSafe c = true) : Spells '"' readBasic [c] c := by
  exact readBasic_spells
    (isPlain_of_not_isControl (not_isControl_of_isSafe h) (ne_of_kind h (by decide)))
    (ne_of_kind h (by decide)) (ne_of_kind h (by decide))

/-- A tab is escaped where other characters stand for themselves. -/
def tabSpelling (c : Char) : List Char := if c = '\t' then ['\\', 't'] else [c]

theorem tabSpelling_cases (c : Char) :
    (tabSpelling c = '\\' :: ['t'] ∧ Escapes ['t'] c) ∨ tabSpelling c = [c] := by
  by_cases h : c = '\t'
  · exact .inl ⟨by simp [tabSpelling, h], h ▸ escapes_tab⟩
  · exact .inr (by simp [tabSpelling, h])

theorem tabSpelling_begins (c : Char) :
    tabSpelling c = [c] ∨ ∃ code, tabSpelling c = '\\' :: code :=
  (tabSpelling_cases c).symm.imp_right fun h => ⟨_, h.1⟩

theorem tabEscaped_eq (cs : List Char) : tabEscaped cs = cs.flatMap tabSpelling := rfl

/-- A quote is escaped on one line. -/
def lineSpelling (c : Char) : List Char := if c = '"' then ['\\', '"'] else escapeChar c

theorem escapeLine_eq (cs : List Char) : escapeLine cs = cs.flatMap lineSpelling := rfl

theorem lineSpelling_spells {c : Char} (hnewline : c ≠ '\n') :
    Spells '"' readBasic (lineSpelling c) c := by
  unfold lineSpelling
  split
  case isTrue h =>
    subst h
    exact escapes_quote.readBasic_spells
  case isFalse hquote =>
    rcases escapeChar_cases c with ⟨code, h, hcode⟩ | ⟨h, hbackslash, hcontrol⟩
    · rw [h]
      exact hcode.readBasic_spells
    · rw [h]
      exact readBasic_spells (isPlain_of_not_isControl hcontrol hnewline) hquote hbackslash

/-- A string is read back from the notation that is chosen for it. -/
theorem readString_printString (s : String) (hrest : StringEnds rest) :
    readString (printString s ++ rest) = some (s, rest) := by
  obtain ⟨cs, rfl⟩ : ∃ cs, s = String.ofList cs := ⟨s.toList, String.ofList_toList.symm⟩
  simp only [printString, String.toList_ofList, Bool.and_eq_true, Bool.not_eq_true',
    List.any_eq_false, Bool.not_eq_true, List.contains_eq_mem, decide_eq_false_iff_not,
    decide_eq_true_eq, tabEscaped_eq, escapeLine_eq]
  have hne : ∀ {c d}, c ∈ cs → d ∉ cs → c ≠ d := fun hc hd h => hd (h ▸ hc)
  split
  case isTrue hsafe =>
    have hcs : ∀ c ∈ cs, Spells '"' readBasic [c] c := fun c hc =>
      isSafe_spells (List.all_eq_true.1 hsafe c hc)
    simpa using readString_basic hcs hrest
  split
  case isTrue h =>
    obtain ⟨⟨⟨hcontrol, hbackslash⟩, hquote⟩, hnewline⟩ := h
    have hcs : ∀ c ∈ cs, Spells '"' readBasic (tabSpelling c) c := by
      intro c hc
      rcases tabSpelling_cases c with ⟨h, htab⟩ | h
      · exact h ▸ htab.readBasic_spells
      · rw [h]
        exact readBasic_spells (isPlain_of_not_isControl (hcontrol c hc) (hne hc hnewline))
          (hne hc hquote) (hne hc hbackslash)
    simpa using readString_basic hcs hrest
  split
  case isTrue h =>
    obtain ⟨⟨hcontrol, hquote⟩, hnewline⟩ := h
    have hcs : ∀ c ∈ cs, Spells '\'' (fun _ => readLiteral) [c] c := fun c hc =>
      readLiteral_spells (isPlain_of_not_isControl (hcontrol c hc) (hne hc hnewline))
        (hne hc hquote)
    simpa using readString_literal hcs hrest
  split
  case isTrue h =>
    obtain ⟨⟨hcontrol, hbackslash⟩, hrun⟩ := h
    have hcs : ∀ c ∈ cs, c ≠ '"' → Spells '"' readMultiBasic (tabSpelling c) c := by
      intro c hc hquote
      rcases tabSpelling_cases c with ⟨h, htab⟩ | h
      · exact h ▸ htab.readMultiBasic_spells
      · rw [h]
        exact readMultiBasic_spells (isText_of_not_isControl (hcontrol c hc)) hquote
          (hne hc hbackslash)
    exact readString_inThree_basic (inQuotes_flatMap (by decide) hcs hrun)
      (fun hnewline => begins_flatMap tabSpelling_begins hcontrol hnewline (by decide)) hrest
  split
  case isTrue h =>
    obtain ⟨hcontrol, hrun⟩ := h
    have hcs : ∀ c ∈ cs, c ≠ '\'' → Spells '\'' readMultiLiteral [c] c := fun c hc hquote =>
      readMultiLiteral_spells (isText_of_not_isControl (hcontrol c hc)) hquote
    have hwritten : InQuotes '\'' (Spells '\'' readMultiLiteral) 0 (cs.flatMap fun c => [c]) cs :=
      inQuotes_flatMap rfl hcs hrun
    have hbegins : '\n' ∉ cs → EndsAt (fun c => c = '\n' || c = '\r')
        (cs.flatMap (fun c => [c]) ++ '\'' :: '\'' :: '\'' :: rest) := fun hnewline =>
      begins_flatMap (fun _ => .inl rfl) hcontrol hnewline (by decide)
    rw [List.flatMap_singleton'] at hwritten hbegins
    exact readString_inThree_literal hwritten hbegins hrest
  split
  case isTrue hnewline =>
    exact readString_inThree_basic (inQuotes_escapeLines cs (by omega))
      (fun h => absurd hnewline h) hrest
  case isFalse hnewline =>
    have hcs : ∀ c ∈ cs, Spells '"' readBasic (lineSpelling c) c := fun c hc =>
      lineSpelling_spells (hne hc hnewline)
    simpa using readString_basic hcs hrest

end Connectivity.Toml
