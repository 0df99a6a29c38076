import Connectivity.Proofs.Text.Digits
import Connectivity.Toml.Parser

/-!
# Strings between quotes

TOML has four readers of strings: two that end at one quote and two that end at three. Each reads a
text character by character, and the characters are spelled in ways that no quote can be taken for
the closing one. In three quotes up to two quotes may stand in a row as they are, even just before
the closing ones.
-/
namespace Connectivity.Toml

open Text

/-- A reader of the characters of a string, with fuel. -/
abbrev Reader := Nat → List Char → Option (List Char × List Char)

/-- The characters `spelling` stand for `c`, whatever follows them, and do not begin with the
quote. -/
structure Spells (quote : Char) (read : Reader) (spelling : List Char) (c : Char) : Prop where
  begins : ∃ d tail, spelling = d :: tail ∧ d ≠ quote
  reads : ∀ fuel rest, read (fuel + 1) (spelling ++ rest) =
    (read fuel rest).map fun (s, rest) => (c :: s, rest)

theorem Spells.length_pos {quote c : Char} {read : Reader} {spelling : List Char}
    (h : Spells quote read spelling c) : 0 < spelling.length := by
  obtain ⟨d, tail, rfl, -⟩ := h.begins
  simp

variable {quote : Char} {read : Reader} {rest : List Char}

/-- A reader that ends at one quote reads what is spelled before it. -/
theorem read_line (hclose : ∀ fuel rest, read (fuel + 1) (quote :: rest) = some ([], rest))
    {spelling : Char → List Char} {cs : List Char}
    (hcs : ∀ c ∈ cs, Spells quote read (spelling c) c) {fuel : Nat}
    (hfuel : (cs.flatMap spelling).length < fuel) :
    read fuel (cs.flatMap spelling ++ quote :: rest) = some (cs, rest) := by
  induction cs generalizing fuel with
  | nil =>
      obtain ⟨fuel, rfl⟩ : ∃ n, fuel = n + 1 := Nat.exists_eq_add_one.2 hfuel
      exact hclose fuel rest
  | cons c cs ih =>
      have hc := hcs c List.mem_cons_self
      have hpos := hc.length_pos
      rw [List.flatMap_cons, List.length_append] at hfuel
      obtain ⟨fuel, rfl⟩ : ∃ n, fuel = n + 1 := Nat.exists_eq_add_one.2 (by omega)
      rw [List.flatMap_cons, List.append_assoc, hc.reads,
        ih (fun c h => hcs c (List.mem_cons_of_mem _ h)) (by omega)]
      rfl

/-! ## Three quotes -/

/-- A text between three quotes, as it is written and what it stands for. `run` counts the quotes
just before; there are never more than two in a row. -/
inductive InQuotes (quote : Char) (spells : List Char → Char → Prop) :
    Nat → List Char → List Char → Prop
  | nil {run : Nat} (hrun : run ≤ 2) : InQuotes quote spells run [] []
  | quote {run : Nat} {written text : List Char} :
      InQuotes quote spells (run + 1) written text →
      InQuotes quote spells run (quote :: written) (quote :: text)
  | spelled {run : Nat} {spelling written text : List Char} {c : Char} (hrun : run ≤ 2) :
      spells spelling c → InQuotes quote spells 0 written text →
      InQuotes quote spells run (spelling ++ written) (c :: text)

/-- The quotes that such a text begins with are all of it, or something else follows them. -/
theorem InQuotes.leading {run : Nat} {written text : List Char}
    (h : InQuotes quote (Spells quote read) run written text) :
    ∃ k, run + k ≤ 2 ∧
      ((written = List.replicate k quote ∧ text = List.replicate k quote) ∨
        ∃ c tail, written = List.replicate k quote ++ c :: tail ∧ c ≠ quote) := by
  induction h with
  | nil hrun => exact ⟨0, hrun, .inl ⟨rfl, rfl⟩⟩
  | quote _ ih =>
      obtain ⟨k, hk, ⟨rfl, rfl⟩ | ⟨c, tail, rfl, hc⟩⟩ := ih
      · exact ⟨k + 1, by omega, .inl ⟨rfl, rfl⟩⟩
      · exact ⟨k + 1, by omega, .inr ⟨c, tail, rfl, hc⟩⟩
  | spelled hrun hspells _ _ =>
      obtain ⟨d, tail, rfl, hd⟩ := hspells.begins
      exact ⟨0, hrun, .inr ⟨d, _, rfl, hd⟩⟩

theorem closing?_replicate {k : Nat} (hk : k ≤ 2) (hrest : EndsAt (fun c => c = quote) rest) :
    closing? quote (List.replicate k quote ++ quote :: quote :: quote :: rest) =
      some (List.replicate k quote, rest) := by
  match k, hk with
  | 0, _ =>
      match rest with
      | [] => simp [closing?]
      | [d] => simp_all [closing?]
      | d :: e :: tail => simp_all [closing?]
  | 1, _ =>
      cases rest with
      | nil => simp [closing?, List.replicate]
      | cons d tail => simp_all [closing?, List.replicate]
  | 2, _ => simp [closing?, List.replicate]

theorem closing?_of_ne {k : Nat} (hk : k ≤ 2) {c : Char} (hc : c ≠ quote) (tail : List Char) :
    closing? quote (List.replicate k quote ++ c :: tail) = none := by
  match k, hk with
  | 0, _ =>
      match tail with
      | [] => rfl
      | [d] => rfl
      | d :: e :: tail => simp [closing?, hc]
  | 1, _ =>
      cases tail with
      | nil => rfl
      | cons d tail => simp [closing?, List.replicate, hc]
  | 2, _ => simp [closing?, List.replicate, hc]

/-- A reader that ends at three quotes. -/
structure EndsAtThree (quote : Char) (read : Reader) : Prop where
  closed : ∀ fuel {cs closed}, closing? quote cs = some closed → read (fuel + 1) cs = some closed
  quoted : ∀ fuel {rest}, closing? quote (quote :: rest) = none →
    read (fuel + 1) (quote :: rest) = (read fuel rest).map fun (s, rest) => (quote :: s, rest)

theorem EndsAtThree.read_inQuotes (hread : EndsAtThree quote read) {run : Nat}
    {written text : List Char} (h : InQuotes quote (Spells quote read) run written text)
    (hrest : EndsAt (fun c => c = quote) rest) {fuel : Nat} (hfuel : written.length < fuel) :
    read fuel (written ++ quote :: quote :: quote :: rest) = some (text, rest) := by
  induction h generalizing fuel with
  | nil hrun =>
      obtain ⟨fuel, rfl⟩ : ∃ n, fuel = n + 1 := Nat.exists_eq_add_one.2 hfuel
      exact hread.closed fuel (closing?_replicate (k := 0) (by omega) hrest)
  | @quote run written text h ih =>
      obtain ⟨fuel, rfl⟩ : ∃ n, fuel = n + 1 := Nat.exists_eq_add_one.2 (Nat.zero_lt_of_lt hfuel)
      obtain ⟨k, hk, ⟨rfl, rfl⟩ | ⟨c, tail, rfl, hc⟩⟩ := h.leading
      -- the quotes at the end of the text are taken together with the closing ones
      · exact hread.closed fuel (closing?_replicate (k := k + 1) (by omega) hrest)
      · have hopen := closing?_of_ne (k := k + 1) (by omega) hc
          (tail ++ quote :: quote :: quote :: rest)
        rw [List.replicate_succ, List.cons_append] at hopen
        rw [List.length_cons] at hfuel
        have htail := @ih fuel (by omega)
        simp only [List.append_assoc, List.cons_append] at htail ⊢
        rw [hread.quoted fuel hopen, htail]
        rfl
  | spelled hrun hspells _ ih =>
      have hpos := hspells.length_pos
      rw [List.length_append] at hfuel
      obtain ⟨fuel, rfl⟩ : ∃ n, fuel = n + 1 := Nat.exists_eq_add_one.2 (by omega)
      rw [List.append_assoc, hspells.reads, ih (by omega)]
      rfl

/-! ## The four readers -/

theorem readBasic_close (fuel : Nat) (rest : List Char) :
    readBasic (fuel + 1) ('"' :: rest) = some ([], rest) := by
  simp [readBasic]

theorem readLiteral_close (rest : List Char) : readLiteral ('\'' :: rest) = some ([], rest) := by
  simp [readLiteral]

theorem readMultiBasic_endsAtThree : EndsAtThree '"' readMultiBasic where
  closed fuel cs closed h := by
    cases cs with
    | nil => simp [closing?] at h
    | cons c rest => simp [readMultiBasic, h]
  quoted fuel rest h := by
    have : isPlainOrNewline '"' rest = true := by simp [isPlainOrNewline, isPlain]
    simp [readMultiBasic, h, this]

theorem readMultiLiteral_endsAtThree : EndsAtThree '\'' readMultiLiteral where
  closed fuel cs closed h := by
    cases cs with
    | nil => simp [closing?] at h
    | cons c rest => simp [readMultiLiteral, h]
  quoted fuel rest h := by
    have : isPlainOrNewline '\'' rest = true := by simp [isPlainOrNewline, isPlain]
    simp [readMultiLiteral, h, this]

/-- A character that stands for itself on one line. -/
theorem readBasic_spells {c : Char} (hplain : isPlain c = true) (hquote : c ≠ '"')
    (hbackslash : c ≠ '\\') : Spells '"' readBasic [c] c where
  begins := ⟨c, [], rfl, hquote⟩
  reads fuel rest := by
    cases h : readBasic fuel rest <;> simp [readBasic, hquote, hbackslash, hplain, h]

theorem readLiteral_spells {c : Char} (hplain : isPlain c = true) (hquote : c ≠ '\'') :
    Spells '\'' (fun _ => readLiteral) [c] c where
  begins := ⟨c, [], rfl, hquote⟩
  reads fuel rest := by
    cases h : readLiteral rest <;> simp [readLiteral, hquote, hplain, h]

/-- A character that stands for itself between three quotes. -/
def IsText (c : Char) : Prop := isPlain c = true ∨ c = '\n'

theorem IsText.plainOrNewline {c : Char} (h : IsText c) (rest : List Char) :
    isPlainOrNewline c rest = true := by
  rcases h with h | rfl
  · simp [isPlainOrNewline, h]
  · simp [isPlainOrNewline, newline?]

theorem readMultiBasic_spells {c : Char} (htext : IsText c) (hquote : c ≠ '"')
    (hbackslash : c ≠ '\\') : Spells '"' readMultiBasic [c] c where
  begins := ⟨c, [], rfl, hquote⟩
  reads fuel rest := by
    have hopen : closing? '"' (c :: rest) = none :=
      closing?_of_ne (k := 0) (by omega) hquote rest
    simp [readMultiBasic, hopen, hbackslash, htext.plainOrNewline rest]

theorem readMultiLiteral_spells {c : Char} (htext : IsText c) (hquote : c ≠ '\'') :
    Spells '\'' readMultiLiteral [c] c where
  begins := ⟨c, [], rfl, hquote⟩
  reads fuel rest := by
    have hopen : closing? '\'' (c :: rest) = none :=
      closing?_of_ne (k := 0) (by omega) hquote rest
    simp [readMultiLiteral, hopen, htext.plainOrNewline rest]

/-- The characters after a backslash stand for `c` and do not continue the line. -/
structure Escapes (code : List Char) (c : Char) : Prop where
  begins : ∃ d tail, code = d :: tail ∧ d ∉ [' ', '\t', '\n', '\r']
  reads : ∀ rest, readEscape (code ++ rest) = some (c, rest)

theorem skipSpace_cons {c : Char} (h : isSpace c = false) (cs : List Char) :
    skipSpace (c :: cs) = c :: cs :=
  dropWhile_of_endsAt (endsAt_cons.2 h)

theorem Escapes.not_continued {code : List Char} {c : Char} (h : Escapes code c)
    (rest : List Char) : continued? (code ++ rest) = none := by
  obtain ⟨d, tail, rfl, hd⟩ := h.begins
  simp only [List.mem_cons, List.not_mem_nil, or_false, not_or] at hd
  obtain ⟨hspace, htab, hnewline, hreturn⟩ := hd
  have hd : isSpace d = false := by simp [isSpace, hspace, htab]
  simp [continued?, skipSpace_cons hd, newline?, hnewline, hreturn]

theorem Escapes.readBasic_spells {code : List Char} {c : Char} (h : Escapes code c) :
    Spells '"' readBasic ('\\' :: code) c where
  begins := ⟨'\\', code, rfl, by decide⟩
  reads fuel rest := by
    cases hrest : readBasic fuel rest <;> simp [readBasic, h.reads, hrest]

theorem Escapes.readMultiBasic_spells {code : List Char} {c : Char} (h : Escapes code c) :
    Spells '"' readMultiBasic ('\\' :: code) c where
  begins := ⟨'\\', code, rfl, by decide⟩
  reads fuel rest := by
    have hopen : closing? '"' ('\\' :: (code ++ rest)) = none :=
      closing?_of_ne (k := 0) (by omega) (by decide) (code ++ rest)
    cases hrest : readMultiBasic fuel rest <;>
      simp [readMultiBasic, hopen, h.not_continued, h.reads, hrest]

end Connectivity.Toml
