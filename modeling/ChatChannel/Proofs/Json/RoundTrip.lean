import ChatChannel.Json.Printer
import ChatChannel.Proofs.Json.Tokens

/-!
# ChatChannel.Proofs.Json.RoundTrip

Reading what was printed. The reader undoes the escapes of the printer one character after the
other, and what follows a value is left to be read, if it can follow a value at all. Of numbers only
the natural ones are taken in: a real that is read from a text is rounded, and need not be the one
that was printed.

* `readPiece_escapeChar`: every character is read back from its escape.
* `readString_text`: a string is read back up to its closing quote.
* `readNumeral_toDigits`: a natural number is read back from its digits.
* `readValue_chars`: a value without other numbers is read back, if it is nested no deeper than
  readers go.
* `parse_text`: so its text is parsed as the value itself, in canonical form.
-/

namespace ChatChannel.Json

open Text

/-! ## Strings -/

theorem hexValue_hexDigit : ∀ n < 16, hexValue (hexDigit n) = some n := by
  decide

theorem hexWord_hexDigitsOf {n : Nat} (hn : n < 0x10000) :
    ∃ a b c d, hexDigitsOf 4 n = [a, b, c, d] ∧ hexWord a b c d = some n := by
  refine ⟨_, _, _, _, rfl, ?_⟩
  simp only [hexWord, hexValue_hexDigit _ (Nat.mod_lt _ (by decide : 0 < 16))]
  show some _ = some n
  congr 1
  omega

theorem readPiece_word {a b c d : Char} {n : Nat} (h : hexWord a b c d = some n)
    (hn : n < 0xD800) (rest : List Char) :
    readPiece ('\\' :: 'u' :: a :: b :: c :: d :: rest) = some (.char (Char.ofNat n) rest) := by
  have hhigh : ¬0xD800 ≤ n := Nat.not_le.2 hn
  have hlow : ¬0xDC00 ≤ n := by omega
  simp [readPiece, h, hhigh, hlow]

theorem readPiece_plain {c : Char} (hquote : c ≠ '"') (hslash : c ≠ '\\') (hc : ¬c.toNat < 0x20)
    (rest : List Char) : readPiece (c :: rest) = some (.char c rest) := by
  unfold readPiece
  split
  · contradiction
  · rename_i heq
    exact absurd (List.cons.inj heq).1 hquote
  · rename_i heq
    exact absurd (List.cons.inj heq).1 hslash
  · rename_i heq
    exact absurd (List.cons.inj heq).1 hslash
  · rename_i heq
    obtain ⟨rfl, rfl⟩ := List.cons.inj heq
    exact if_neg hc

theorem readPiece_escapeChar (c : Char) (rest : List Char) :
    readPiece (escapeChar c ++ rest) = some (.char c rest) := by
  by_cases hquote : c = '"'
  · subst hquote; rfl
  by_cases hslash : c = '\\'
  · subst hslash; rfl
  by_cases hback : c = '\x08'
  · subst hback; rfl
  by_cases htab : c = '\t'
  · subst htab; rfl
  by_cases hline : c = '\n'
  · subst hline; rfl
  by_cases hpage : c = '\x0C'
  · subst hpage; rfl
  by_cases hreturn : c = '\r'
  · subst hreturn; rfl
  rw [escapeChar, if_neg hquote, if_neg hslash, if_neg hback, if_neg htab, if_neg hline,
    if_neg hpage, if_neg hreturn]
  split
  · rename_i hcontrol
    obtain ⟨_, _, _, _, hdigits, hword⟩ := hexWord_hexDigitsOf (n := c.toNat) (by omega)
    rw [hdigits]
    refine (readPiece_word hword (by omega) rest).trans ?_
    rw [Char.ofNat_toNat]
  · rename_i hplain
    exact readPiece_plain hquote hslash hplain rest

theorem readChars_escaped (cs rest : List Char) :
    ∀ fuel, cs.length ≤ fuel →
      readChars (fuel + 1) (cs.flatMap escapeChar ++ '"' :: rest) = some (cs, rest) := by
  induction cs with
  | nil =>
    intro fuel _
    rfl
  | cons c cs ih =>
    intro fuel hfuel
    cases fuel with
    | zero => cases hfuel
    | succ fuel =>
      have hrest := ih fuel (Nat.le_of_succ_le_succ hfuel)
      rw [readChars, List.flatMap_cons, List.append_assoc, readPiece_escapeChar]
      simp only [hrest, Option.map_some]

theorem length_le_escaped (cs : List Char) : cs.length ≤ (cs.flatMap escapeChar).length := by
  have hone : ∀ c, 1 ≤ (escapeChar c).length := by
    intro c
    unfold escapeChar
    repeat' split
    all_goals simp
  induction cs with
  | nil => exact Nat.le_refl 0
  | cons c cs ih =>
    have hc := hone c
    simp only [List.flatMap_cons, List.length_append, List.length_cons]
    omega

theorem readString_text (s : String) (rest : List Char) :
    readString (s.toList.flatMap escapeChar ++ '"' :: rest) = some (s, rest) := by
  have hfuel : s.toList.length ≤ (s.toList.flatMap escapeChar ++ '"' :: rest).length := by
    rw [List.length_append]
    exact Nat.le_add_right_of_le (length_le_escaped s.toList)
  rw [readString, readChars_escaped s.toList rest _ hfuel, Option.map_some]
  simp only [String.ofList_toList]

/-! ## Natural numbers -/

/-- What can follow a value in a text: nothing, a comma, or the end of an array or object. -/
def CanFollow (rest : List Char) : Prop :=
  ∀ c, rest.head? = some c → c = ',' ∨ c = ']' ∨ c = '}'

theorem canFollow_nil : CanFollow [] :=
  nofun

theorem canFollow_cons {c : Char} (h : c = ',' ∨ c = ']' ∨ c = '}') (rest : List Char) :
    CanFollow (c :: rest) := by
  intro d hd
  cases hd
  exact h

section

variable {rest : List Char}

theorem CanFollow.endsNumeral (h : CanFollow rest) : EndsNumeral rest := fun c hc => by
  rcases h c hc with rfl | rfl | rfl <;> decide

/-- Only zero has a zero for its first digit. -/
theorem eq_nil_of_toDigits {n : Nat} {tail : List Char} (h : Nat.toDigits 10 n = '0' :: tail) :
    tail = [] := by
  induction n using Nat.strongRecOn generalizing tail with
  | _ n ih =>
    by_cases hn : n < 10
    · rw [Nat.toDigits_of_lt_base hn] at h
      exact (List.cons.inj h).2.symm
    · rw [Nat.toDigits_of_base_le (by decide) (Nat.le_of_not_lt hn)] at h
      cases hfront : Nat.toDigits 10 (n / 10) with
      | nil => exact absurd hfront Nat.toDigits_ne_nil
      | cons c front =>
        rw [hfront, List.cons_append, List.cons.injEq] at h
        obtain ⟨rfl, -⟩ := h
        obtain rfl := ih (n / 10) (by omega) hfront
        have hzero := Nat.ofDigitChars_ten_toDigits (n := n / 10)
        rw [hfront] at hzero
        have hnone : Nat.ofDigitChars 10 ['0'] 0 = 0 := rfl
        omega

theorem spells_toDigits (n : Nat) :
    Numeral.Spells ⟨false, Nat.toDigits 10 n, none, none⟩ (Nat.toDigits 10 n) := by
  have hwhole : IsWhole (Nat.toDigits 10 n) :=
    ⟨⟨Nat.toDigits_ne_nil, fun _ => Nat.isDigit_of_mem_toDigits (by decide) (by decide)⟩,
      fun _ => eq_nil_of_toDigits⟩
  simpa only [List.append_nil] using Numeral.Spells.positive hwhole .absent .absent

theorem readNumeral_toDigits (n : Nat) (hrest : CanFollow rest) :
    readNumeral (Nat.toDigits 10 n ++ rest) =
      some (⟨false, Nat.toDigits 10 n, none, none⟩, rest) :=
  readNumeral_append (spells_toDigits n) hrest.endsNumeral

theorem value_toDigits {n : Nat} (hn : n < wordBound) :
    Numeral.value ⟨false, Nat.toDigits 10 n, none, none⟩ = .natural n := by
  have hvalue : digitsValue (Nat.toDigits 10 n) = n := Nat.ofDigitChars_ten_toDigits
  simp [Numeral.value, hvalue, hn]

end

/-! ## Values -/

/-- A value without numbers other than natural ones, with at most this many levels of arrays and
objects. -/
inductive Readable : Nat → Json → Prop where
  | null {depth : Nat} : Readable depth .null
  | bool {depth : Nat} (b : Bool) : Readable depth (.bool b)
  | natural {depth n : Nat} (h : n < wordBound) : Readable depth (.num (.natural n))
  | str {depth : Nat} (s : String) : Readable depth (.str s)
  | arr {depth : Nat} {items : List Json} (h : ∀ v ∈ items, Readable depth v) :
      Readable (depth + 1) (.arr items)
  | obj {depth : Nat} {members : List (String × Json)} (h : ∀ m ∈ members, Readable depth m.2) :
      Readable (depth + 1) (.obj members)

section

variable {item : List Char → Option (Json × List Char)} {v : Json} {items : List Json}
  {members : List (String × Json)} {depth : Nat}

/-- The reader of items reads this value from its text, whatever follows that can follow. -/
def ReadsBack (item : List Char → Option (Json × List Char)) (v : Json) : Prop :=
  ∀ rest, CanFollow rest → item (chars v ++ rest) = some (v, rest)

/-- What stands after an item can follow a value: the comma before the next one, or the end. -/
theorem canFollow_more {α : Type} (f : α → List Char) (xs : List α) {close : Char}
    (h : close = ']' ∨ close = '}') (rest : List Char) :
    CanFollow (xs.flatMap (fun x => ',' :: f x) ++ close :: rest) := by
  cases xs with
  | nil => exact canFollow_cons (.inr h) rest
  | cons x xs => exact canFollow_cons (.inl rfl) _

theorem readItems_chars (h : ∀ v ∈ items, ReadsBack item v) (rest : List Char) :
    ∀ fuel, items.length ≤ fuel →
      readItems item (fuel + 1) (items.flatMap (fun v => ',' :: chars v) ++ ']' :: rest) =
        some (items, rest) := by
  induction items with
  | nil =>
    intro fuel _
    rfl
  | cons v items ih =>
    intro fuel hfuel
    cases fuel with
    | zero => cases hfuel
    | succ fuel =>
      have hv := h v List.mem_cons_self _ (canFollow_more chars items (.inl rfl) rest)
      have hrest := ih (fun w hw => h w (List.mem_cons_of_mem _ hw)) fuel
        (Nat.le_of_succ_le_succ hfuel)
      rw [readItems, List.flatMap_cons, List.append_assoc, List.cons_append,
        skipSpace_cons rfl]
      simp only [hv, hrest, Option.bind_eq_bind, Option.bind_some]

theorem itemChars_cons (v : Json) (items : List Json) :
    itemChars (v :: items) = chars v ++ items.flatMap fun w => ',' :: chars w := by
  induction items generalizing v with
  | nil => simp [itemChars]
  | cons w items ih => simp [itemChars, ih w]

/-- The fuel that readers of items and of members start with is enough. -/
theorem length_le_fuel {α : Type} (f : α → List Char) (xs : List α) (rest : List Char) :
    xs.length ≤ (xs.flatMap (fun x => ',' :: f x) ++ rest).length := by
  induction xs with
  | nil => exact Nat.zero_le _
  | cons x xs ih =>
    simp only [List.flatMap_cons, List.length_append, List.length_cons] at ih ⊢
    omega

theorem chars_natural_eq (n : Nat) : chars (.num (.natural n)) = Nat.toDigits 10 n := by
  rw [chars, numberChars, Nat.toString_eq_repr, Nat.toList_repr]

theorem chars_natural (n : Nat) :
    ∃ c cs, chars (.num (.natural n)) = c :: cs ∧ c.isDigit = true := by
  rw [chars_natural_eq]
  cases hdigits : Nat.toDigits 10 n with
  | nil => exact absurd hdigits Nat.toDigits_ne_nil
  | cons c cs =>
    have hmem : c ∈ Nat.toDigits 10 n := hdigits ▸ List.mem_cons_self
    exact ⟨c, cs, rfl, Nat.isDigit_of_mem_toDigits (by decide) (by decide) hmem⟩

/-- The text of a value begins with neither a blank nor the end of an array. -/
theorem Readable.chars_eq_cons (h : Readable depth v) :
    ∃ c cs, chars v = c :: cs ∧ isSpace c = false ∧ c ≠ ']' := by
  cases h with
  | null => exact ⟨_, _, rfl, rfl, by decide⟩
  | bool b => cases b <;> exact ⟨_, _, rfl, rfl, by decide⟩
  | @natural _ n _ =>
    obtain ⟨c, cs, hchars, hdigit⟩ := chars_natural n
    refine ⟨c, cs, hchars, ?_, ?_⟩
    · exact isSpace_of_isDigit hdigit
    · rintro rfl
      exact absurd hdigit (by decide)
  | str s => exact ⟨_, _, rfl, rfl, by decide⟩
  | arr _ => exact ⟨_, _, rfl, rfl, by decide⟩
  | obj _ => exact ⟨_, _, rfl, rfl, by decide⟩

theorem readArray_chars (h : ∀ v ∈ items, Readable depth v) (hback : ∀ v ∈ items, ReadsBack item v)
    (rest : List Char) :
    readArray item (itemChars items ++ ']' :: rest) = some (.arr items, rest) := by
  cases items with
  | nil => rfl
  | cons v items =>
    obtain ⟨c, cs, hchars, hspace, hend⟩ := (h v List.mem_cons_self).chars_eq_cons
    have hv := hback v List.mem_cons_self _ (canFollow_more chars items (.inl rfl) rest)
    have hrest := readItems_chars (fun w hw => hback w (List.mem_cons_of_mem _ hw)) rest _
      (length_le_fuel chars items (']' :: rest))
    rw [itemChars_cons, List.append_assoc, readArray]
    split
    · rename_i heq
      rw [hchars, List.cons_append, skipSpace_cons hspace] at heq
      exact absurd (List.cons.inj heq).1 hend
    · simp only [hv, hrest, Option.bind_eq_bind, Option.bind_some]

/-- A member after the comma before it. -/
def memberPiece (m : String × Json) : List Char :=
  stringChars m.1 ++ ':' :: chars m.2

theorem memberChars_cons (m : String × Json) (members : List (String × Json)) :
    memberChars (m :: members) =
      memberPiece m ++ members.flatMap fun n => ',' :: memberPiece n := by
  induction members generalizing m with
  | nil => simp [memberChars, memberPiece]
  | cons n members ih => simp [memberChars, memberPiece, ih n]

theorem readMember_chars {m : String × Json} (h : ReadsBack item m.2) {rest : List Char}
    (hrest : CanFollow rest) : readMember item (memberPiece m ++ rest) = some (m, rest) := by
  have hkey := readString_text m.1 (':' :: (chars m.2 ++ rest))
  simp only [readMember, memberPiece, stringChars, List.cons_append, List.append_assoc,
    List.nil_append, skipSpace_cons (show isSpace '"' = false from rfl),
    skipSpace_cons (show isSpace ':' = false from rfl), hkey, h _ hrest,
    Option.bind_eq_bind, Option.bind_some]

theorem readMembers_chars (h : ∀ m ∈ members, ReadsBack item m.2) (rest : List Char) :
    ∀ fuel, members.length ≤ fuel →
      readMembers item (fuel + 1) (members.flatMap (fun m => ',' :: memberPiece m) ++ '}' :: rest) =
        some (members, rest) := by
  induction members with
  | nil =>
    intro fuel _
    rfl
  | cons m members ih =>
    intro fuel hfuel
    cases fuel with
    | zero => cases hfuel
    | succ fuel =>
      have hm := readMember_chars (h m List.mem_cons_self)
        (canFollow_more memberPiece members (.inr rfl) rest)
      have hrest := ih (fun n hn => h n (List.mem_cons_of_mem _ hn)) fuel
        (Nat.le_of_succ_le_succ hfuel)
      rw [readMembers, List.flatMap_cons, List.append_assoc, List.cons_append,
        skipSpace_cons rfl]
      simp only [hm, hrest, Option.bind_eq_bind, Option.bind_some]

theorem readObject_chars (h : ∀ m ∈ members, ReadsBack item m.2) (rest : List Char) :
    readObject item (memberChars members ++ '}' :: rest) = some (.obj members, rest) := by
  cases members with
  | nil => rfl
  | cons m members =>
    have hm := readMember_chars (h m List.mem_cons_self)
      (canFollow_more memberPiece members (.inr rfl) rest)
    have hrest := readMembers_chars (fun n hn => h n (List.mem_cons_of_mem _ hn)) rest _
      (length_le_fuel memberPiece members ('}' :: rest))
    rw [memberChars_cons, List.append_assoc, readObject]
    split
    · rename_i heq
      have hquote : ('"' : Char) = '}' := (List.cons.inj heq).1
      exact absurd hquote (by decide)
    · simp only [hm, hrest, Option.bind_eq_bind, Option.bind_some]

theorem readValue_natural {n : Nat} (hn : n < wordBound) :
    ReadsBack (readValue depth) (.num (.natural n)) := by
  intro rest hrest
  have hnumber : (readNumeral (chars (.num (.natural n)) ++ rest)).map
      (fun p => (Json.num p.1.value, p.2)) = some (.num (.natural n), rest) := by
    rw [chars_natural_eq, readNumeral_toDigits n hrest, Option.map_some, value_toDigits hn]
  obtain ⟨c, cs, hchars, hdigit⟩ := chars_natural n
  rw [hchars, List.cons_append] at hnumber
  unfold readValue
  rw [hchars, List.cons_append, skipSpace_cons (isSpace_of_isDigit hdigit)]
  -- A digit begins none of the other values.
  split
  case h_7 => exact hnumber
  all_goals
    rename_i heq
    rw [(List.cons.inj heq).1] at hdigit
    exact absurd hdigit (by decide)

/-- A value without other numbers is read back from its text, and what follows is left. -/
theorem readValue_chars (h : Readable depth v) : ReadsBack (readValue depth) v := by
  induction h with
  | null => intro rest _; unfold readValue; rfl
  | bool b => intro rest _; unfold readValue; cases b <;> rfl
  | natural hn => exact readValue_natural hn
  | str s =>
    intro rest _
    have hs := readString_text s rest
    unfold readValue
    simp only [chars, stringChars, List.cons_append, List.append_assoc, List.nil_append,
      skipSpace_cons (show isSpace '"' = false from rfl), hs, Option.map_some]
  | arr h ih =>
    intro rest _
    unfold readValue
    simp only [chars, List.cons_append, List.append_assoc, List.nil_append,
      skipSpace_cons (show isSpace '[' = false from rfl), readArray_chars h ih rest]
  | obj h ih =>
    intro rest _
    unfold readValue
    simp only [chars, List.cons_append, List.append_assoc, List.nil_append,
      skipSpace_cons (show isSpace '{' = false from rfl), readObject_chars ih rest]

end

/-! ## Texts -/

theorem read_text {v : Json} (h : Readable maxDepth v) : read (text v) = some v := by
  have hback := readValue_chars h [] canFollow_nil
  rw [List.append_nil] at hback
  simp only [read, text, String.toList_ofList, hback]
  rfl

theorem inRange_of_readable {depth : Nat} {v : Json} (h : Readable depth v) :
    v.inRange = true := by
  induction h with
  | null => rfl
  | bool b => rfl
  | natural _ => rfl
  | str s => rfl
  | @arr _ items h ih =>
    rw [inRange]
    clear h
    induction items with
    | nil => rfl
    | cons v items ihItems =>
      rw [inRangeItems, ih v List.mem_cons_self,
        ihItems fun w hw => ih w (List.mem_cons_of_mem _ hw)]
      rfl
  | @obj _ members h ih =>
    rw [inRange]
    clear h
    induction members with
    | nil => rfl
    | cons m members ihMembers =>
      rw [inRangeMembers, ih m List.mem_cons_self,
        ihMembers fun n hn => ih n (List.mem_cons_of_mem _ hn)]
      rfl

/-- The text of a value without other numbers is parsed as the value, in canonical form. -/
theorem parse_text {v : Json} (h : Readable maxDepth v) : parse (text v) = some v.canonical := by
  rw [parse, read_text h]
  exact if_pos (inRange_of_readable h)

end ChatChannel.Json
