import BucketClock.Json.Printer
import BucketClock.Json.Reader

/-!
Reading what was written. Values made of texts, numbers without a sign, flags and
nulls, of lists and of records are read back from their text, whatever characters
stand in their texts and keys (`parse?_compact`).
-/

namespace BucketClock.Json

/-! ## Strings -/

/-- Characters that are written with a backslash and a letter. -/
def shortened : List Char := ['"', '\\', '\x08', '\t', '\n', '\x0c', '\r']

/-- A character is written with a backslash and a letter, with its number, or as it stands. -/
theorem writeChar_cases (c : Char) :
    (∃ e, writeChar c = ['\\', e] ∧ e ≠ 'u' ∧ escaped? e = some c) ∨
      (writeChar c = '\\' :: 'u' :: hex4 c.toNat ∧ c.toNat < 0x20) ∨
      (writeChar c = [c] ∧ c ≠ '"' ∧ c ≠ '\\' ∧ ¬ c.toNat < 0x20) := by
  by_cases hshort : c ∈ shortened
  · simp only [shortened, List.mem_cons, List.not_mem_nil, or_false] at hshort
    rcases hshort with rfl | rfl | rfl | rfl | rfl | rfl | rfl <;>
      exact .inl ⟨_, rfl, by decide, rfl⟩
  · simp only [shortened, List.mem_cons, List.not_mem_nil, or_false, not_or] at hshort
    obtain ⟨hquote, hslash, hback, htab, hline, hform, hreturn⟩ := hshort
    by_cases hseen : c.toNat < 0x20
    · exact .inr (.inl ⟨by simp [writeChar, *], hseen⟩)
    · exact .inr (.inr ⟨by simp [writeChar, *], hquote, hslash, hseen⟩)

theorem pieces_escaped {c e : Char} (hu : e ≠ 'u') (h : escaped? e = some c)
    (found : List Piece) (rest : List Char) :
    pieces found ('\\' :: e :: rest) = pieces (.char c :: found) rest := by
  rw [pieces.eq_def]
  split
  · next heq => cases heq
  · next heq => cases (List.cons.inj heq).1
  · next heq => exact absurd (List.cons.inj (List.cons.inj heq).2).1 hu
  · next heq =>
    obtain ⟨rfl, rfl⟩ := List.cons.inj (List.cons.inj heq).2
    rw [h]
  · next hother heq =>
    obtain ⟨hhead, htail⟩ := List.cons.inj heq
    exact (hother e rest hhead.symm htail.symm).elim

theorem pieces_plain {c : Char} (hquote : c ≠ '"') (hslash : c ≠ '\\') (hseen : ¬ c.toNat < 0x20)
    (found : List Piece) (rest : List Char) :
    pieces found (c :: rest) = pieces (.char c :: found) rest := by
  rw [pieces.eq_def]
  split
  · next heq => cases heq
  · next heq => exact absurd (List.cons.inj heq).1 hquote
  · next heq => exact absurd (List.cons.inj heq).1 hslash
  · next heq => exact absurd (List.cons.inj heq).1 hslash
  · next heq =>
    obtain ⟨rfl, rfl⟩ := List.cons.inj heq
    exact if_neg hseen

theorem hexDigit?_digitChar : ∀ n < 16, hexDigit? n.digitChar = some n := by decide

theorem hex4_control : ∀ n < 32, hex4 n = ['0', '0', (n / 16).digitChar, (n % 16).digitChar] := by
  decide

/-- A control character is read as the number it is written with. -/
theorem pieces_control {n : Nat} (h : n < 32) (found : List Piece) (rest : List Char) :
    pieces found ('\\' :: 'u' :: hex4 n ++ rest) = pieces (.unit n :: found) rest := by
  have hhigh := hexDigit?_digitChar (n / 16) (by omega)
  have hlow := hexDigit?_digitChar (n % 16) (by omega)
  have hzero : hexDigit? '0' = some 0 := rfl
  have hvalue : 4096 * 0 + 256 * 0 + 16 * (n / 16) + n % 16 = n := by omega
  rw [hex4_control n h]
  simp only [List.cons_append, List.nil_append, pieces, hzero, hhigh, hlow, hvalue]

theorem textOf_control {n : Nat} (h : n < 32) (found : List Char) (rest : List Piece) :
    textOf found (.unit n :: rest) = textOf (Char.ofNat n :: found) rest := by
  have hhigh : ¬ (0xD800 ≤ n ∧ n < 0xDC00) := by omega
  have hlow : ¬ (0xDC00 ≤ n ∧ n < 0xE000) := by omega
  rw [textOf.eq_def]
  simp only [if_neg hhigh, if_neg hlow]

/-- A written character is read as one piece, and the piece stands for the character. -/
theorem exists_piece (c : Char) :
    ∃ p, (∀ found rest, pieces found (writeChar c ++ rest) = pieces (p :: found) rest) ∧
      ∀ found rest, textOf found (p :: rest) = textOf (c :: found) rest := by
  rcases writeChar_cases c with ⟨e, hwrite, hu, he⟩ | ⟨hwrite, hcontrol⟩ |
    ⟨hwrite, hquote, hslash, hseen⟩
  · exact ⟨.char c, fun found rest => hwrite ▸ pieces_escaped hu he found rest, fun _ _ => rfl⟩
  · refine ⟨.unit c.toNat, fun found rest => hwrite ▸ pieces_control hcontrol found rest, ?_⟩
    intro found rest
    rw [textOf_control hcontrol, Char.ofNat_toNat]
  · exact ⟨.char c, fun found rest => hwrite ▸ pieces_plain hquote hslash hseen found rest,
      fun _ _ => rfl⟩

/-- A written text is read up to its closing quote. -/
theorem exists_pieces (cs : List Char) :
    ∃ ps, (∀ found rest, pieces found (cs.flatMap writeChar ++ '"' :: rest) =
        some (found.reverse ++ ps, rest)) ∧
      ∀ found, textOf found ps = some (found.reverse ++ cs) := by
  induction cs with
  | nil => exact ⟨[], fun found rest => by simp [pieces], fun found => by simp [textOf]⟩
  | cons c cs ih =>
    obtain ⟨ps, hpieces, htext⟩ := ih
    obtain ⟨p, hpiece, hstands⟩ := exists_piece c
    refine ⟨p :: ps, fun found rest => ?_, fun found => ?_⟩
    · rw [List.flatMap_cons, List.append_assoc, hpiece, hpieces, List.reverse_cons,
        List.append_assoc, List.singleton_append]
    · rw [hstands, htext, List.reverse_cons, List.append_assoc, List.singleton_append]

theorem writeString_append (s : String) (rest : List Char) :
    writeString s ++ rest = '"' :: (s.toList.flatMap writeChar ++ '"' :: rest) := by
  simp [writeString]

theorem readString_write (s : String) (rest : List Char) :
    readString (s.toList.flatMap writeChar ++ '"' :: rest) = some (some s, rest) := by
  obtain ⟨ps, hpieces, htext⟩ := exists_pieces s.toList
  rw [readString, hpieces]
  simp [htext]

/-! ## Numbers -/

/-- What may stand after a value: nothing, or a sign that goes on or closes. -/
def Ends (rest : List Char) : Prop := ∀ c ∈ rest.head?, c = ',' ∨ c = ']' ∨ c = '\x7d'

theorem head_toDigits {n : Nat} (h : n ≠ 0) : (Nat.toDigits 10 n).head? ≠ some '0' := by
  induction n using Nat.strongRecOn with
  | _ n ih =>
    by_cases hsmall : n < 10
    · rw [Nat.toDigits_of_lt_base hsmall]
      simpa [Nat.digitChar_eq_zero] using h
    · rw [Nat.toDigits_of_base_le (by decide) (Nat.le_of_not_lt hsmall), List.head?_append]
      have hfront := ih (n / 10) (by omega) (by omega)
      cases hhead : (Nat.toDigits 10 (n / 10)).head? with
      | none => exact absurd (List.head?_eq_none_iff.mp hhead) Nat.toDigits_ne_nil
      | some c => simpa [hhead] using hfront

theorem Ends.no_digit {rest : List Char} (h : Ends rest) : rest.takeWhile Char.isDigit = [] := by
  cases rest with
  | nil => rfl
  | cons c rest => rcases h c rfl with rfl | rfl | rfl <;> rfl

theorem isDigit_of_mem_toDigits {n : Nat} : ∀ c ∈ Nat.toDigits 10 n, c.isDigit = true :=
  fun _ hc => Nat.isDigit_of_mem_toDigits (by decide) (by decide) hc

theorem readDigits_append {digits rest : List Char} (hne : digits ≠ [])
    (hdigits : ∀ c ∈ digits, c.isDigit = true) (h : Ends rest) :
    readDigits (digits ++ rest) = some (digits, rest) := by
  have hnone := h.no_digit
  have hrest : rest.dropWhile Char.isDigit = rest := by
    have hsplit : rest.takeWhile Char.isDigit ++ rest.dropWhile Char.isDigit = rest :=
      List.takeWhile_append_dropWhile
    rwa [hnone] at hsplit
  simp [readDigits, List.takeWhile_append_of_pos hdigits, List.dropWhile_append_of_pos hdigits,
    hnone, hrest, hne]

/-- A number is written with a digit in front, which is no zero unless it is the only one. -/
theorem exists_digit (n : Nat) :
    ∃ d ds, Nat.toDigits 10 n = d :: ds ∧ d.isDigit = true ∧ (n ≠ 0 → d ≠ '0') := by
  obtain ⟨d, ds, hd⟩ := List.exists_cons_of_ne_nil (Nat.toDigits_ne_nil : Nat.toDigits 10 n ≠ [])
  refine ⟨d, ds, hd, isDigit_of_mem_toDigits d (hd ▸ List.mem_cons_self), fun hne hzero => ?_⟩
  apply head_toDigits hne
  rw [hd, hzero, List.head?_cons]

theorem readWhole_toDigits (n : Nat) {rest : List Char} (h : Ends rest) :
    readWhole (Nat.toDigits 10 n ++ rest) = some (Nat.toDigits 10 n, rest) := by
  by_cases hzero : n = 0
  · rw [hzero, Nat.toDigits_zero]
    rfl
  · have hread : readDigits (Nat.toDigits 10 n ++ rest) = some (Nat.toDigits 10 n, rest) :=
      readDigits_append Nat.toDigits_ne_nil isDigit_of_mem_toDigits h
    obtain ⟨d, ds, hd, _, hlead⟩ := exists_digit n
    rw [hd, List.cons_append] at hread ⊢
    unfold readWhole
    split
    · next heq => exact absurd (List.cons.inj heq).1 (hlead hzero)
    · exact hread

theorem readFraction_ends {rest : List Char} (h : Ends rest) :
    readFraction rest = some ([], rest) := by
  cases rest with
  | nil => rfl
  | cons c rest => rcases h c rfl with rfl | rfl | rfl <;> rfl

theorem readExponent_ends {rest : List Char} (h : Ends rest) :
    readExponent rest = some ([], rest) := by
  cases rest with
  | nil => rfl
  | cons c rest => rcases h c rfl with rfl | rfl | rfl <;> rfl

theorem readNumber_toDigits (n : Nat) {rest : List Char} (h : Ends rest) :
    readNumber (Nat.toDigits 10 n ++ rest) = some (Text.describeNat n, rest) := by
  have hwhole := readWhole_toDigits n h
  obtain ⟨d, ds, hd, hdigit, _⟩ := exists_digit n
  have hsign : d ≠ '-' := by
    rintro rfl
    cases hdigit
  rw [hd, List.cons_append] at hwhole ⊢
  rw [readNumber]
  · simp [hwhole, readFraction_ends h, readExponent_ends h, Text.describeNat, hd]
  · intro tail heq
    exact hsign (List.cons.inj heq).1

/-! ## How values start -/

/-- A value made of texts, numbers without a sign, flags and nulls, of lists and of records. -/
inductive Plain : Json → Prop
  | null : Plain .null
  | bool (b : Bool) : Plain (.bool b)
  | nat (n : Nat) : Plain (ofNat n)
  | text (s : String) : Plain (ofString s)
  | list {items : List Json} (h : ∀ j ∈ items, Plain j) : Plain (.arr items)
  | record {members : List (String × Json)} (h : ∀ m ∈ members, Plain m.2) :
      Plain (record members)

def named (members : List (String × Json)) : List (Option String × Json) :=
  members.map fun m => (some m.1, m.2)

theorem record_eq (members : List (String × Json)) : record members = .obj (named members) := rfl

theorem skipBlanks_cons {c : Char} (h : isJsonBlank c = false) (cs : List Char) :
    skipBlanks (c :: cs) = c :: cs := by
  simp [skipBlanks, h]

theorem isJsonBlank_of_isDigit {c : Char} (h : c.isDigit = true) : isJsonBlank c = false := by
  cases hblank : isJsonBlank c with
  | false => rfl
  | true =>
    simp only [isJsonBlank, Bool.or_eq_true, decide_eq_true_eq] at hblank
    rcases hblank with ((rfl | rfl) | rfl) | rfl <;> cases h

/-- The sign a value starts with is neither a blank nor a closing one. -/
theorem Plain.head {j : Json} (h : Plain j) :
    ∃ c cs, j.write = c :: cs ∧ isJsonBlank c = false ∧ c ≠ ']' := by
  cases h with
  | null => exact ⟨'n', _, rfl, by decide, by decide⟩
  | bool b => cases b <;> exact ⟨_, _, rfl, by decide, by decide⟩
  | nat n =>
    obtain ⟨d, ds, hd, hdigit, _⟩ := exists_digit n
    refine ⟨d, ds, by simp [ofNat, write, Text.describeNat, hd], isJsonBlank_of_isDigit hdigit, ?_⟩
    rintro rfl
    cases hdigit
  | text s => exact ⟨'"', _, rfl, by decide, by decide⟩
  | list => exact ⟨'[', _, by rw [write], by decide, by decide⟩
  | record => exact ⟨'\x7b', _, by rw [record_eq, write], by decide, by decide⟩

theorem skipBlanks_quote (cs : List Char) : skipBlanks ('"' :: cs) = '"' :: cs := rfl

theorem skipBlanks_colon (cs : List Char) : skipBlanks (':' :: cs) = ':' :: cs := rfl

theorem skipBlanks_comma (cs : List Char) : skipBlanks (',' :: cs) = ',' :: cs := rfl

theorem skipBlanks_close (cs : List Char) : skipBlanks ('\x7d' :: cs) = '\x7d' :: cs := rfl

theorem writeItems_head {items : List Json} (h : ∀ j ∈ items, Plain j) (hne : items ≠ []) :
    ∃ c cs, writeItems items = c :: cs ∧ isJsonBlank c = false ∧ c ≠ ']' := by
  cases items with
  | nil => exact absurd rfl hne
  | cons j items =>
    obtain ⟨c, cs, hwrite, hblank, hclose⟩ := (h j List.mem_cons_self).head
    cases items with
    | nil => exact ⟨c, cs, hwrite, hblank, hclose⟩
    | cons k items =>
      exact ⟨c, cs ++ ',' :: writeItems (k :: items), by simp [writeItems, hwrite], hblank, hclose⟩

theorem writeMembers_head {members : List (String × Json)} (hne : members ≠ []) :
    ∃ cs, writeMembers (named members) = '"' :: cs := by
  cases members with
  | nil => exact absurd rfl hne
  | cons m members => cases members <;> exact ⟨_, rfl⟩

/-! ## Values -/

/-- The value is read back from its text, whatever ends it. Two units of fuel for every character
are enough, as a list spends one on itself and one on each of its items. -/
def ReadBack (j : Json) : Prop :=
  ∀ fuel rest, 2 * j.write.length ≤ fuel → Ends rest →
    readValue (fuel + 1) (j.write ++ rest) = some (j, rest)

theorem ends_cons {c : Char} (h : c = ',' ∨ c = ']' ∨ c = '\x7d') (cs : List Char) :
    Ends (c :: cs) := by
  rintro _ ⟨⟩
  exact h

theorem readItems_write {items : List Json} (h : ∀ j ∈ items, ReadBack j) (hne : items ≠ [])
    {fuel : Nat} (hfuel : 2 * (writeItems items).length ≤ fuel) (found : List Json)
    (rest : List Char) :
    readItems (fuel + 2) found (writeItems items ++ ']' :: rest) =
      some (.arr (found.reverse ++ items), rest) := by
  induction items generalizing fuel found with
  | nil => exact absurd rfl hne
  | cons j items ih =>
    have hj : ReadBack j := h j List.mem_cons_self
    cases items with
    | nil =>
      rw [writeItems] at hfuel ⊢
      rw [readItems, hj fuel _ hfuel (ends_cons (by decide) _)]
      simp [skipBlanks_cons, isJsonBlank]
    | cons k items =>
      have htext : writeItems (j :: k :: items) ++ ']' :: rest =
          j.write ++ ',' :: (writeItems (k :: items) ++ ']' :: rest) := by
        simp [writeItems]
      have hlength : (writeItems (j :: k :: items)).length =
          j.write.length + ((writeItems (k :: items)).length + 1) := by
        simp [writeItems]
      obtain ⟨fuel, rfl⟩ : ∃ f, fuel = f + 1 := ⟨fuel - 1, by omega⟩
      have hlater : ∀ found, readItems (fuel + 2) found (writeItems (k :: items) ++ ']' :: rest) =
          some (.arr (found.reverse ++ k :: items), rest) :=
        ih (fun i hi => h i (List.mem_cons_of_mem j hi)) (List.cons_ne_nil k items) (by omega)
      rw [htext, readItems, hj (fuel + 1) _ (by omega) (ends_cons (by decide) _)]
      simp only [skipBlanks_comma, hlater, List.reverse_cons, List.append_assoc,
        List.singleton_append]

theorem readMembers_next {j : Json} (hj : ReadBack j) {fuel : Nat}
    (hfuel : 2 * j.write.length ≤ fuel) (key : String) (found : List (Option String × Json))
    (rest : List Char) :
    readMembers (fuel + 2) found (writeString key ++ ':' :: (j.write ++ ',' :: rest)) =
      readMembers (fuel + 1) ((some key, j) :: found) rest := by
  have hvalue := hj fuel (',' :: rest) hfuel (ends_cons (by decide) rest)
  rw [writeString_append, readMembers]
  simp only [skipBlanks_quote, readString_write, skipBlanks_colon, hvalue, skipBlanks_comma]

theorem readMembers_last {j : Json} (hj : ReadBack j) {fuel : Nat}
    (hfuel : 2 * j.write.length ≤ fuel) (key : String) (found : List (Option String × Json))
    (rest : List Char) :
    readMembers (fuel + 2) found (writeString key ++ ':' :: (j.write ++ '\x7d' :: rest)) =
      some (.obj (found.reverse ++ [(some key, j)]), rest) := by
  have hvalue := hj fuel ('\x7d' :: rest) hfuel (ends_cons (by decide) rest)
  rw [writeString_append, readMembers]
  simp only [skipBlanks_quote, readString_write, skipBlanks_colon, hvalue, skipBlanks_close,
    List.reverse_cons]

theorem readMembers_write {members : List (String × Json)} (h : ∀ m ∈ members, ReadBack m.2)
    (hne : members ≠ []) {fuel : Nat} (hfuel : 2 * (writeMembers (named members)).length ≤ fuel)
    (found : List (Option String × Json)) (rest : List Char) :
    readMembers (fuel + 2) found (writeMembers (named members) ++ '\x7d' :: rest) =
      some (.obj (found.reverse ++ named members), rest) := by
  induction members generalizing fuel found with
  | nil => exact absurd rfl hne
  | cons m members ih =>
    obtain ⟨key, j⟩ := m
    have hj : ReadBack j := h (key, j) List.mem_cons_self
    cases members with
    | nil =>
      have htext : writeMembers (named [(key, j)]) ++ '\x7d' :: rest =
          writeString key ++ ':' :: (j.write ++ '\x7d' :: rest) := by
        simp [named, writeMembers]
      have hlength : (writeMembers (named [(key, j)])).length =
          (writeString key).length + (j.write.length + 1) := by
        simp [named, writeMembers]
      rw [htext, readMembers_last hj (by omega)]
      rfl
    | cons m members =>
      have htext : writeMembers (named ((key, j) :: m :: members)) ++ '\x7d' :: rest =
          writeString key ++ ':' :: (j.write ++
            ',' :: (writeMembers (named (m :: members)) ++ '\x7d' :: rest)) := by
        simp [named, writeMembers]
      have hlength : (writeMembers (named ((key, j) :: m :: members))).length =
          (writeString key).length + (j.write.length + 1 +
            ((writeMembers (named (m :: members))).length + 1)) := by
        simp [named, writeMembers]
        omega
      obtain ⟨fuel, rfl⟩ : ∃ f, fuel = f + 1 := ⟨fuel - 1, by omega⟩
      have hlater : ∀ found,
          readMembers (fuel + 2) found (writeMembers (named (m :: members)) ++ '\x7d' :: rest) =
            some (.obj (found.reverse ++ named (m :: members)), rest) :=
        ih (fun n hn => h n (List.mem_cons_of_mem (key, j) hn)) (List.cons_ne_nil m members)
          (by omega)
      rw [htext, readMembers_next hj (by omega), hlater, List.reverse_cons, List.append_assoc,
        List.singleton_append]
      rfl

theorem readValue_digit {d : Char} (h : d.isDigit = true) (fuel : Nat) (cs : List Char) :
    readValue (fuel + 1) (d :: cs) = (readNumber (d :: cs)).map fun r => (.num r.1, r.2) := by
  rw [readValue, skipBlanks_cons (isJsonBlank_of_isDigit h)]
  split
  case h_7 => rfl
  -- The other signs a value can start with are no digits.
  all_goals
    next heq =>
      cases heq
      cases h

theorem Plain.readBack {j : Json} (h : Plain j) : ReadBack j := by
  induction h with
  | null => exact fun _ _ _ _ => rfl
  | bool b => cases b <;> exact fun _ _ _ _ => rfl
  | nat n =>
    intro fuel rest _ hrest
    have hread := readNumber_toDigits n hrest
    obtain ⟨d, ds, hd, hdigit, _⟩ := exists_digit n
    have htext : (ofNat n).write ++ rest = d :: (ds ++ rest) := by
      simp [ofNat, write, Text.describeNat, hd]
    rw [hd, List.cons_append] at hread
    rw [htext, readValue_digit hdigit, hread]
    rfl
  | text s =>
    intro fuel rest _ _
    have htext : (ofString s).write ++ rest =
        '"' :: (s.toList.flatMap writeChar ++ '"' :: rest) := by
      rw [ofString, write, Option.getD_some, writeString_append]
    rw [htext, readValue, skipBlanks_cons (by decide)]
    simp [readString_write, ofString]
  | @list items h ih =>
    intro fuel rest hfuel _
    have htext : (Json.arr items).write ++ rest = '[' :: (writeItems items ++ ']' :: rest) := by
      simp [write]
    rw [htext, readValue, skipBlanks_cons (by decide)]
    by_cases hempty : items = []
    · subst hempty
      rfl
    · obtain ⟨c, cs, hhead, hblank, hclose⟩ := writeItems_head h hempty
      have hlength : (Json.arr items).write.length = (writeItems items).length + 2 := by
        simp [write]
      obtain ⟨fuel, rfl⟩ : ∃ f, fuel = f + 2 := ⟨fuel - 2, by omega⟩
      have hread : readItems (fuel + 2) [] (writeItems items ++ ']' :: rest) =
          some (.arr items, rest) := readItems_write ih hempty (by omega) [] rest
      rw [hhead, List.cons_append] at hread ⊢
      simp only [skipBlanks_cons hblank]
      split
      · next heq => exact absurd (List.cons.inj heq).1 hclose
      · exact hread
  | @record members h ih =>
    intro fuel rest hfuel _
    have htext : (Json.record members).write ++ rest =
        '\x7b' :: (writeMembers (named members) ++ '\x7d' :: rest) := by
      simp [record_eq, write]
    rw [htext, readValue, skipBlanks_cons (by decide)]
    by_cases hempty : members = []
    · subst hempty
      rfl
    · obtain ⟨cs, hhead⟩ := writeMembers_head hempty
      have hlength : (Json.record members).write.length =
          (writeMembers (named members)).length + 2 := by
        simp [record_eq, write]
      obtain ⟨fuel, rfl⟩ : ∃ f, fuel = f + 2 := ⟨fuel - 2, by omega⟩
      have hread : readMembers (fuel + 2) [] (writeMembers (named members) ++ '\x7d' :: rest) =
          some (Json.record members, rest) := readMembers_write ih hempty (by omega) [] rest
      rw [hhead, List.cons_append] at hread ⊢
      exact hread

/-- A plain value is read back from the text it is written as. -/
theorem parse?_compact {j : Json} (h : Plain j) : parse? j.compact = some j := by
  have hread := h.readBack (2 * j.write.length + 1) [] (by omega) (by simp [Ends])
  rw [List.append_nil] at hread
  simp only [parse?, compact, String.toList_ofList, hread]
  rfl

end BucketClock.Json
