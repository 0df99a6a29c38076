import Connectivity.Proofs.Json.Scalars

/-!
# Printed values

Every value that is printed is read back as itself. One level of fuel is spent on each value, item
and member, and each of them is printed with one character at least, so that the length of the text
is fuel enough.
-/
namespace Connectivity.Json

open Text

section

variable (j k : Json) (key : String) (m : String × Json)

theorem printChars_null : printChars .null = ['n', 'u', 'l', 'l'] := rfl

theorem printChars_true : printChars (.bool true) = ['t', 'r', 'u', 'e'] := rfl

theorem printChars_false : printChars (.bool false) = ['f', 'a', 'l', 's', 'e'] := rfl

theorem printChars_number (n : Number) : printChars (.number n) = n.print := rfl

theorem printChars_string (s : String) : printChars (.string s) = '"' :: stringBody s := rfl

theorem printChars_array (items : List Json) :
    printChars (.array items) = '[' :: printItems items := rfl

theorem printChars_object (members : List (String × Json)) :
    printChars (.object members) = '{' :: printMembers members := rfl

theorem printChars_unreadable :
    printChars .unreadable = ['"', '\\', 'u', 'd', '8', '0', '0', '"'] := rfl

theorem printItems_nil : printItems [] = [']'] := rfl

theorem printItems_singleton : printItems [j] = printChars j ++ [']'] := rfl

theorem printItems_cons_cons (items : List Json) :
    printItems (j :: k :: items) = printChars j ++ ',' :: printItems (k :: items) := rfl

theorem printMembers_nil : printMembers [] = ['}'] := rfl

theorem printMembers_singleton :
    printMembers [(key, j)] = '"' :: stringBody key ++ ':' :: printChars j ++ ['}'] := rfl

theorem printMembers_cons_cons (members : List (String × Json)) :
    printMembers ((key, j) :: m :: members) =
      '"' :: stringBody key ++ ':' :: printChars j ++ ',' :: printMembers (m :: members) := rfl

end

/-! ## How printed values begin -/

theorem skipBlanks_cons {c : Char} {cs : List Char} (h : isBlank c = false) :
    skipBlanks (c :: cs) = c :: cs :=
  dropWhile_of_endsAt (endsAt_cons.2 h)

/-- No blank is taken for one of the marks of a text. -/
theorem skipBlanks_mark {c : Char} (h : c ∈ ['"', '[', ']', '{', '}', ':', ','])
    (cs : List Char) : skipBlanks (c :: cs) = c :: cs := by
  refine skipBlanks_cons ?_
  simp only [List.mem_cons, List.not_mem_nil, or_false] at h
  rcases h with rfl | rfl | rfl | rfl | rfl | rfl | rfl <;> rfl

/-- A digit or a minus begins nothing but a number. -/
theorem ne_of_beginsNumber {c : Char} (h : c.isDigit = true ∨ c = '-') :
    isBlank c = false ∧ c ∉ [']', '"', '[', '{', 'n', 't', 'f'] := by
  rcases h with h | rfl
  · have all : ∀ d, isBlank (digitChar d) = false ∧
        digitChar d ∉ [']', '"', '[', '{', 'n', 't', 'f'] := by decide
    obtain ⟨d, rfl⟩ := exists_digitChar h
    exact all d
  · decide

theorem Number.print_begins (n : Number) :
    ∃ c cs, n.print = c :: cs ∧ (c.isDigit = true ∨ c = '-') := by
  obtain ⟨d, ds, hdigits, hd⟩ := exists_decimal_eq_cons n.whole
  cases h : n.negative with
  | true => exact ⟨'-', _, by simp [Number.print, h]; rfl, .inr rfl⟩
  | false => exact ⟨d, _, by simp [Number.print, h, hdigits]; rfl, .inl hd⟩

theorem printChars_begins (j : Json) :
    ∃ c cs, printChars j = c :: cs ∧ isBlank c = false ∧ c ≠ ']' := by
  match j with
  | .null => exact ⟨'n', _, printChars_null, by decide⟩
  | .bool true => exact ⟨'t', _, printChars_true, by decide⟩
  | .bool false => exact ⟨'f', _, printChars_false, by decide⟩
  | .number n =>
      obtain ⟨c, cs, hprint, hc⟩ := n.print_begins
      obtain ⟨hblank, hne⟩ := ne_of_beginsNumber hc
      refine ⟨c, cs, by rw [printChars_number, hprint], hblank, ?_⟩
      rintro rfl
      exact hne (by decide)
  | .string s => exact ⟨'"', _, printChars_string s, by decide⟩
  | .array items => exact ⟨'[', _, printChars_array items, by decide⟩
  | .object members => exact ⟨'{', _, printChars_object members, by decide⟩
  | .unreadable => exact ⟨'"', _, printChars_unreadable, by decide⟩

theorem printItems_begins (j : Json) (items : List Json) :
    ∃ c cs, printItems (j :: items) = c :: cs ∧ isBlank c = false ∧ c ≠ ']' := by
  obtain ⟨c, cs, h, hc⟩ := printChars_begins j
  cases items with
  | nil => exact ⟨c, cs ++ [']'], by rw [printItems_singleton, h]; rfl, hc⟩
  | cons k items => exact ⟨c, _, by rw [printItems_cons_cons, h]; rfl, hc⟩

theorem length_printChars_pos (j : Json) : 0 < (printChars j).length := by
  obtain ⟨c, cs, h, -⟩ := printChars_begins j
  simp [h]

/-! ## One step of reading -/

section

variable (fuel : Nat) {cs rest : List Char}

theorem head?_ne_of_forall {c : Char} (h : ∀ rest, cs = c :: rest → False) :
    cs.head? ≠ some c := by
  intro hhead
  obtain ⟨rest, hrest⟩ := List.head?_eq_some_iff.1 hhead
  exact h rest hrest

/-- One step of reading a value, by the character that it begins with. -/
theorem readValue_cons {c : Char} (hblank : isBlank c = false) (cs : List Char) :
    readValue (fuel + 1) (c :: cs) =
      if c = '"' then (readString cs).map fun p => (p.1.elim .unreadable .string, p.2)
      else if c = '[' then
        if (skipBlanks cs).head? = some ']' then some (.array [], (skipBlanks cs).tail)
        else (readItems fuel (skipBlanks cs)).map fun p => (.array p.1, p.2)
      else if c = '{' then
        if (skipBlanks cs).head? = some '}' then some (.object [], (skipBlanks cs).tail)
        else (readMembers fuel (skipBlanks cs)).map fun p => (ofMembers p.1, p.2)
      else (readWord (c :: cs)).or (readNumber (c :: cs)) := by
  rw [readValue, skipBlanks_cons hblank]
  split
  case h_1 heq =>
    cases heq
    rfl
  case h_2 heq =>
    cases heq
    rw [if_neg (by decide), if_pos rfl]
    split
    case h_1 hclosed => rw [hclosed]; rfl
    case h_2 hopen => rw [if_neg (head?_ne_of_forall hopen)]
  case h_3 heq =>
    cases heq
    rw [if_neg (by decide), if_neg (by decide), if_pos rfl]
    split
    case h_1 hclosed => rw [hclosed]; rfl
    case h_2 hopen => rw [if_neg (head?_ne_of_forall hopen)]
  case h_4 hquote hbracket hbrace =>
    have hne : ∀ mark, (∀ rest, c :: cs = mark :: rest → False) → c ≠ mark := by
      rintro mark hmark rfl
      exact hmark cs rfl
    rw [if_neg (hne _ hquote), if_neg (hne _ hbracket), if_neg (hne _ hbrace)]

theorem readValue_word {j : Json} {c : Char} (h : readWord (c :: cs) = some (j, rest))
    (hblank : isBlank c = false) (hc : c ∉ ['"', '[', '{']) :
    readValue (fuel + 1) (c :: cs) = some (j, rest) := by
  simp only [List.mem_cons, List.not_mem_nil, or_false, not_or] at hc
  simp [readValue_cons fuel hblank, h, hc]

theorem isPrefixOf?_cons_of_ne {c d : Char} (h : c ≠ d) (word cs : List Char) :
    (c :: word).isPrefixOf? (d :: cs) = none := by
  show (if c == d then word.isPrefixOf? cs else none) = none
  rw [beq_false_of_ne h]
  rfl

theorem readValue_number (n : Number) (hrest : NumberEnds rest) :
    readValue (fuel + 1) (n.print ++ rest) = some (.number n, rest) := by
  have hread := readNumber_print n hrest
  obtain ⟨c, cs, hprint, hc⟩ := n.print_begins
  obtain ⟨hblank, hne⟩ := ne_of_beginsNumber hc
  simp only [List.mem_cons, List.not_mem_nil, or_false, not_or] at hne
  obtain ⟨-, hquote, hbracket, hbrace, hn, ht, hf⟩ := hne
  have hword : readWord (c :: (cs ++ rest)) = none := by
    simp [readWord, isPrefixOf?_cons_of_ne (Ne.symm hn), isPrefixOf?_cons_of_ne (Ne.symm ht),
      isPrefixOf?_cons_of_ne (Ne.symm hf)]
  rw [hprint, List.cons_append] at hread ⊢
  simp [readValue_cons fuel hblank, hquote, hbracket, hbrace, hword, hread]

theorem readValue_string {s : Option String} (h : readString cs = some (s, rest)) :
    readValue (fuel + 1) ('"' :: cs) = some (s.elim .unreadable .string, rest) := by
  simp [readValue_cons fuel (c := '"') rfl, h]

theorem readValue_empty_array :
    readValue (fuel + 1) (printChars (.array []) ++ rest) = some (.array [], rest) := by
  rw [printChars_array, printItems_nil, List.cons_append, List.singleton_append]
  simp [readValue_cons fuel (c := '[') rfl, skipBlanks_mark]

theorem readValue_empty_object :
    readValue (fuel + 1) (printChars (.object []) ++ rest) = some (.object [], rest) := by
  rw [printChars_object, printMembers_nil, List.cons_append, List.singleton_append]
  simp [readValue_cons fuel (c := '{') rfl, skipBlanks_mark]

theorem readValue_array {j : Json} {items : List Json}
    (h : readItems fuel (printItems (j :: items) ++ rest) = some (j :: items, rest)) :
    readValue (fuel + 1) (printChars (.array (j :: items)) ++ rest) =
      some (.array (j :: items), rest) := by
  obtain ⟨c, cs, hprint, hblank, hbracket⟩ := printItems_begins j items
  rw [hprint, List.cons_append] at h
  rw [printChars_array, hprint, List.cons_append, List.cons_append]
  simp [readValue_cons fuel (c := '[') rfl, skipBlanks_cons hblank, hbracket, h]

/-- Members whose keys all denote strings are the members of an object. -/
theorem ofMembers_some (members : List (String × Json)) :
    ofMembers (members.map fun m => (some m.1, m.2)) = .object members := by
  have h : (members.map fun m => (some m.1, m.2)).mapM
      (fun (m : Option String × Json) => m.1.map fun key => (key, m.2)) = some members := by
    induction members with
    | nil => rfl
    | cons m members ih => simp [ih]
  simp only [ofMembers, h]

theorem readValue_object {m : String × Json} {members : List (String × Json)}
    (h : readMembers fuel (printMembers (m :: members) ++ rest) =
      some ((m :: members).map fun m => (some m.1, m.2), rest)) :
    readValue (fuel + 1) (printChars (.object (m :: members)) ++ rest) =
      some (.object (m :: members), rest) := by
  obtain ⟨cs, hprint⟩ : ∃ cs, printMembers (m :: members) = '"' :: cs := by
    cases members with
    | nil => exact ⟨_, printMembers_singleton m.2 m.1⟩
    | cons n members => exact ⟨_, printMembers_cons_cons m.2 m.1 n members⟩
  rw [hprint, List.cons_append] at h
  rw [printChars_object, hprint, List.cons_append, List.cons_append]
  simp [readValue_cons fuel (c := '{') rfl, skipBlanks_mark, h, ← ofMembers_some (m :: members)]

theorem readItems_last {j : Json} (h : readValue fuel cs = some (j, ']' :: rest)) :
    readItems (fuel + 1) cs = some ([j], rest) := by
  simp [readItems, h, skipBlanks_mark]

theorem readItems_next {j : Json} {items : List Json} {next : List Char}
    (h : readValue fuel cs = some (j, ',' :: next))
    (hnext : readItems fuel next = some (items, rest)) :
    readItems (fuel + 1) cs = some (j :: items, rest) := by
  simp [readItems, h, skipBlanks_mark, hnext]

theorem readMembers_last {key : String} {j : Json}
    (h : readValue fuel cs = some (j, '}' :: rest)) :
    readMembers (fuel + 1) ('"' :: (stringBody key ++ ':' :: cs)) =
      some ([(some key, j)], rest) := by
  simp [readMembers, skipBlanks_mark, readString_stringBody, h]

theorem readMembers_next {key : String} {j : Json} {members : List (Option String × Json)}
    {next : List Char} (h : readValue fuel cs = some (j, ',' :: next))
    (hnext : readMembers fuel next = some (members, rest)) :
    readMembers (fuel + 1) ('"' :: (stringBody key ++ ':' :: cs)) =
      some ((some key, j) :: members, rest) := by
  simp [readMembers, skipBlanks_mark, readString_stringBody, h, hnext]

end

/-! ## Reading a whole value -/

theorem numberEnds_mark {c : Char} {rest : List Char} (h : c ∈ [',', ']', '}']) :
    NumberEnds (c :: rest) := by
  simp only [List.mem_cons, List.not_mem_nil, or_false] at h
  rcases h with rfl | rfl | rfl <;> simp [continuesNumber]

mutual

theorem readValue_printChars (j : Json) (fuel : Nat) (rest : List Char)
    (hfuel : (printChars j).length ≤ fuel) (hrest : NumberEnds rest) :
    readValue fuel (printChars j ++ rest) = some (j, rest) := by
  obtain ⟨fuel, rfl⟩ : ∃ n, fuel = n + 1 :=
    Nat.exists_eq_add_one.2 (Nat.lt_of_lt_of_le (length_printChars_pos j) hfuel)
  match j with
  | .null =>
      rw [printChars_null]
      exact readValue_word fuel rfl (by decide) (by decide)
  | .bool true =>
      rw [printChars_true]
      exact readValue_word fuel rfl (by decide) (by decide)
  | .bool false =>
      rw [printChars_false]
      exact readValue_word fuel rfl (by decide) (by decide)
  | .number n =>
      rw [printChars_number]
      exact readValue_number fuel n hrest
  | .string s => exact readValue_string fuel (readString_stringBody s rest)
  | .unreadable => exact readValue_string fuel (s := none) (by rfl)
  | .array [] => exact readValue_empty_array fuel
  | .array (item :: items) =>
      exact readValue_array fuel (readItems_printItems item items fuel rest
        (by simpa [printChars_array] using hfuel))
  | .object [] => exact readValue_empty_object fuel
  | .object (m :: members) =>
      exact readValue_object fuel (readMembers_printMembers m members fuel rest
        (by simpa [printChars_object] using hfuel))

theorem readItems_printItems (j : Json) (items : List Json) (fuel : Nat) (rest : List Char)
    (hfuel : (printItems (j :: items)).length ≤ fuel) :
    readItems fuel (printItems (j :: items) ++ rest) = some (j :: items, rest) := by
  have hpos := length_printChars_pos j
  match items with
  | [] =>
      rw [printItems_singleton] at hfuel ⊢
      simp only [List.length_append, List.length_singleton] at hfuel
      obtain ⟨fuel, rfl⟩ : ∃ n, fuel = n + 1 := Nat.exists_eq_add_one.2 (by omega)
      rw [List.append_assoc, List.singleton_append]
      exact readItems_last fuel
        (readValue_printChars j fuel _ (by omega) (numberEnds_mark (by decide)))
  | k :: items =>
      rw [printItems_cons_cons] at hfuel ⊢
      simp only [List.length_append, List.length_cons] at hfuel
      obtain ⟨fuel, rfl⟩ : ∃ n, fuel = n + 1 := Nat.exists_eq_add_one.2 (by omega)
      rw [List.append_assoc, List.cons_append]
      exact readItems_next fuel
        (readValue_printChars j fuel _ (by omega) (numberEnds_mark (by decide)))
        (readItems_printItems k items fuel rest (by omega))

theorem readMembers_printMembers (m : String × Json) (members : List (String × Json)) (fuel : Nat)
    (rest : List Char) (hfuel : (printMembers (m :: members)).length ≤ fuel) :
    readMembers fuel (printMembers (m :: members) ++ rest) =
      some ((m :: members).map fun m => (some m.1, m.2), rest) := by
  obtain ⟨key, j⟩ := m
  have hpos := length_printChars_pos j
  match members with
  | [] =>
      rw [printMembers_singleton] at hfuel ⊢
      simp only [List.length_append, List.length_cons, List.length_nil] at hfuel
      obtain ⟨fuel, rfl⟩ : ∃ n, fuel = n + 1 := Nat.exists_eq_add_one.2 (by omega)
      simp only [List.append_assoc, List.cons_append, List.nil_append]
      exact readMembers_last fuel
        (readValue_printChars j fuel _ (by omega) (numberEnds_mark (by decide)))
  | n :: members =>
      rw [printMembers_cons_cons] at hfuel ⊢
      simp only [List.length_append, List.length_cons] at hfuel
      obtain ⟨fuel, rfl⟩ : ∃ n, fuel = n + 1 := Nat.exists_eq_add_one.2 (by omega)
      simp only [List.append_assoc, List.cons_append]
      exact readMembers_next fuel
        (readValue_printChars j fuel _ (by omega) (numberEnds_mark (by decide)))
        (readMembers_printMembers n members fuel rest (by omega))

end

/-- The text that is printed for a value denotes that value and no other. -/
theorem parse?_print (j : Json) : parse? (print j) = some j := by
  have hread := readValue_printChars j ((printChars j).length + 1) [] (by omega) (endsAt_nil _)
  rw [List.append_nil] at hread
  simp [parse?, print, hread, skipBlanks]

end Connectivity.Json
