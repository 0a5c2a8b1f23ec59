import ChatChannel.Text.Lowercase
import Mathlib.Data.List.Basic

/-!
# ChatChannel.Proofs.Text.Lowercase

Lower case of a text that is put together from parts. A text is not lower-cased character by
character, since the form of a capital sigma depends on the letters around it; but a sign, a
character before the capital letters in ASCII, has no case, and what is behind it can be lower-cased
alone.

* `lowerAfter_append`: a part that does not go on with a word leaves the part before it as it is.
* `mem_lowerAfter_iff`: signs are neither lost nor made, since the forms of all others are letters
  (`form_of_mem_lowerRuns`).
-/

namespace ChatChannel.Text

/-- Digits and punctuation: the characters before the capital letters in ASCII. -/
def IsSign (c : Char) : Prop :=
  c.toNat < 'A'.toNat

instance instDecidableIsSign (c : Char) : Decidable (IsSign c) :=
  inferInstanceAs (Decidable (c.toNat < 'A'.toNat))

section

variable {c m : Char} {cs rest suffix before other : List Char}

theorem isSign_of_isDigit (h : c.isDigit = true) : IsSign c := by
  have hc : c.toNat ≤ '9'.toNat := (Char.isDigit_iff_toNat.1 h).2
  have h9 : '9'.toNat < 'A'.toNat := by decide
  exact Nat.lt_of_le_of_lt hc h9

/-! ## Signs -/

theorem le_of_mem_casedRanges : ∀ r ∈ casedRanges, 'A'.toNat ≤ r.1 := by
  decide +kernel

theorem isCased_of_isSign (h : IsSign c) : isCased c = false := by
  have hc : c.toNat < 'A'.toNat := h
  rw [isCased, inRanges, List.any_eq_false]
  intro r hr
  have hfirst := le_of_mem_casedRanges r hr
  have hle : ¬ r.1 ≤ c.toNat := by omega
  simp [hle]

theorem toNat_toLower (c : Char) :
    c.toLower.toNat =
      if 'A'.toNat ≤ c.toNat ∧ c.toNat ≤ 'Z'.toNat then c.toNat + 32 else c.toNat := by
  unfold Char.toLower
  split
  · rename_i hupper
    have hrange : 'A'.toNat ≤ c.toNat ∧ c.toNat ≤ 'Z'.toNat := hupper
    have hZ : 'Z'.toNat = 90 := by decide
    rw [if_pos hrange]
    change (c.val + ('a'.val - 'A'.val)).toNat = _
    have hdist : ('a'.val - 'A'.val).toNat = 32 := by decide
    have hc : c.val.toNat = c.toNat := rfl
    rw [UInt32.toNat_add, hdist, hc, Nat.mod_eq_of_lt (by omega)]
  · rename_i hupper
    exact (if_neg hupper).symm

theorem toLower_of_isSign (h : IsSign c) : c.toLower = c := by
  have hc : c.toNat < 'A'.toNat := h
  apply Char.toNat_inj.1
  rw [toNat_toLower, if_neg (by omega)]

theorem not_isSign_toLower (h : ¬ IsSign c) : ¬ IsSign c.toLower := by
  have hc : 'A'.toNat ≤ c.toNat := Nat.le_of_not_lt h
  unfold IsSign
  rw [toNat_toLower]
  split
  · omega
  · omega

theorem lowerChar_of_isSign (h : IsSign c) : lowerChar c = [c] := by
  have hc : c.toNat < 0x80 := Nat.lt_trans h (by decide)
  rw [lowerChar, if_pos hc, toLower_of_isSign h]

/-- The lower-case form that a run gives to one of its characters is a character, and it is not a
sign. -/
theorem form_of_mem_lowerRuns {r : CaseRun} {n : Nat} (hr : r ∈ lowerRuns) (hfirst : r.first ≤ n)
    (hlast : n ≤ r.last) :
    'A'.toNat ≤ (n + r.shift).toNat ∧ Nat.isValidChar (n + r.shift).toNat := by
  have htable : ∀ r ∈ lowerRuns, (65 : Int) ≤ r.first + r.shift ∧
      (r.last + r.shift < 0xD800 ∨
        0xDFFF < r.first + r.shift ∧ r.last + r.shift < (0x110000 : Int)) := by
    decide +kernel
  obtain ⟨hletter, hvalid⟩ := htable r hr
  have hA : 'A'.toNat = 65 := by decide
  refine ⟨by omega, ?_⟩
  unfold Nat.isValidChar
  omega

theorem not_isSign_lowerFromRuns (h : 0x80 ≤ c.toNat) :
    ¬ IsSign (Char.ofNat (lowerFromRuns c.toNat)) := by
  have hA : 'A'.toNat = 65 := by decide
  unfold IsSign lowerFromRuns
  split
  · rename_i r hfind
    have hmem := List.mem_of_find?_eq_some hfind
    have hrange := List.find?_some hfind
    simp only [Bool.and_eq_true, decide_eq_true_eq] at hrange
    obtain ⟨hletter, hvalid⟩ := form_of_mem_lowerRuns hmem hrange.1.1 hrange.1.2
    have hvalue : (Char.ofNat (c.toNat + r.shift).toNat).toNat = (c.toNat + r.shift).toNat := by
      rw [Char.ofNat, dif_pos hvalid]
      rfl
    omega
  · rw [Char.ofNat_toNat]
    omega

theorem mem_lowerChar_iff (hm : IsSign m) : m ∈ lowerChar c ↔ m = c := by
  by_cases hc : IsSign c
  · rw [lowerChar_of_isSign hc, List.mem_singleton]
  have hne : m ≠ c := by
    rintro rfl
    exact hc hm
  refine iff_of_false ?_ hne
  rw [lowerChar]
  split
  · intro hmem
    have hform : m = c.toLower := List.mem_singleton.1 hmem
    exact not_isSign_toLower hc (hform ▸ hm)
  · rename_i hascii
    split
    · intro hmem
      rcases List.mem_pair.1 hmem with rfl | rfl
      · exact absurd hm (by decide)
      · exact absurd hm (by decide)
    · intro hmem
      have hform : m = Char.ofNat (lowerFromRuns c.toNat) := List.mem_singleton.1 hmem
      exact not_isSign_lowerFromRuns (by omega) (hform ▸ hm)

theorem lowerChar_ne_nil (c : Char) : lowerChar c ≠ [] := by
  rw [lowerChar]
  split
  · simp
  · split <;> simp

/-! ## Words -/

theorem meetsCased_cons :
    meetsCased (c :: cs) = if isCaseIgnorable c then meetsCased cs else isCased c := by
  unfold meetsCased
  by_cases hc : isCaseIgnorable c = true
  · rw [List.dropWhile_cons_of_pos hc, if_pos hc]
  · rw [List.dropWhile_cons_of_neg hc, if_neg hc]

theorem meetsCased_append (h : meetsCased suffix = false) :
    meetsCased (cs ++ suffix) = meetsCased cs := by
  induction cs with
  | nil => exact h
  | cons c cs ih => rw [List.cons_append, meetsCased_cons, meetsCased_cons, ih]

/-- Signs up to one that is not ignorable do not go on with a word. -/
theorem meetsCased_of_signs (hcs : ∀ c ∈ cs, IsSign c) (hm : IsSign m)
    (hstop : isCaseIgnorable m = false) : meetsCased (cs ++ m :: rest) = false := by
  induction cs with
  | nil =>
    rw [List.nil_append, meetsCased_cons, hstop, isCased_of_isSign hm]
    rfl
  | cons c cs ih =>
    rw [List.cons_append, meetsCased_cons, ih fun x hx => hcs x (List.mem_cons_of_mem _ hx),
      isCased_of_isSign (hcs c List.mem_cons_self), ite_self]

/-! ## Texts -/

/-- Of the text before, only the nearest letter counts. -/
theorem lowerAfter_congr (h : meetsCased before = meetsCased other) :
    lowerAfter before cs = lowerAfter other cs := by
  induction cs generalizing before other with
  | nil => rfl
  | cons c cs ih =>
    have hnext : meetsCased (c :: before) = meetsCased (c :: other) := by
      rw [meetsCased_cons, meetsCased_cons, h]
    rw [lowerAfter, lowerAfter, ih hnext, h]

theorem lowerAfter_append (h : meetsCased suffix = false) :
    lowerAfter before (cs ++ suffix) =
      lowerAfter before cs ++ lowerAfter (cs.reverse ++ before) suffix := by
  induction cs generalizing before with
  | nil => rfl
  | cons c cs ih =>
    rw [List.cons_append, lowerAfter, lowerAfter, meetsCased_append h, ih, List.append_assoc,
      List.reverse_cons, List.append_assoc, List.singleton_append]

theorem lowerAfter_cons_of_isSign (h : IsSign c) :
    lowerAfter before (c :: cs) = c :: lowerAfter (c :: before) cs := by
  have hsigma : c ≠ 'Σ' := by
    rintro rfl
    exact absurd h (by decide)
  rw [lowerAfter, if_neg hsigma, lowerChar_of_isSign h, List.singleton_append]

theorem lowerAfter_signs_append (h : ∀ c ∈ cs, IsSign c) :
    lowerAfter before (cs ++ rest) = cs ++ lowerAfter (cs.reverse ++ before) rest := by
  induction cs generalizing before with
  | nil => rfl
  | cons c cs ih =>
    rw [List.cons_append, lowerAfter_cons_of_isSign (h c List.mem_cons_self),
      ih fun x hx => h x (List.mem_cons_of_mem _ hx), List.reverse_cons, List.append_assoc,
      List.singleton_append, List.cons_append]

theorem lowerChars_of_signs (h : ∀ c ∈ cs, IsSign c) : lowerChars cs = cs := by
  have hcut : lowerAfter [] (cs ++ []) = cs ++ lowerAfter (cs.reverse ++ []) [] :=
    lowerAfter_signs_append h
  rwa [List.append_nil, lowerAfter, List.append_nil] at hcut

/-- Each character has a form of its own in the lower-case text, with no sign in it but itself. -/
theorem exists_form (before : List Char) (c : Char) (rest : List Char) :
    ∃ form, lowerAfter before (c :: rest) = form ++ lowerAfter (c :: before) rest ∧ form ≠ [] ∧
      ∀ m, IsSign m → (m ∈ form ↔ m = c) := by
  rw [lowerAfter]
  refine ⟨_, rfl, ?_⟩
  split
  · -- Neither form of the sigma is a sign, and the sigma is none.
    rename_i hsigma
    have sigma {d : Char} (hd : ¬ IsSign d) : [d] ≠ [] ∧ ∀ m, IsSign m → (m ∈ [d] ↔ m = c) := by
      refine ⟨List.cons_ne_nil _ _, fun m hm => iff_of_false ?_ ?_⟩
      · intro hmem
        exact hd (List.mem_singleton.1 hmem ▸ hm)
      · rintro rfl
        exact absurd hm (hsigma ▸ by decide)
    split
    · exact sigma (by decide)
    · exact sigma (by decide)
  · exact ⟨lowerChar_ne_nil c, fun m hm => mem_lowerChar_iff hm⟩

/-- A sign is in the lower-case form exactly if it is in the text. -/
theorem mem_lowerAfter_iff (hm : IsSign m) : m ∈ lowerAfter before cs ↔ m ∈ cs := by
  induction cs generalizing before with
  | nil => rfl
  | cons c cs ih =>
    obtain ⟨form, hform, -, hsign⟩ := exists_form before c cs
    rw [hform, List.mem_append, List.mem_cons, ih, hsign m hm]

theorem head?_lowerAfter_iff (hm : IsSign m) :
    (lowerAfter before cs).head? = some m ↔ cs.head? = some m := by
  cases cs with
  | nil => rfl
  | cons c cs =>
    constructor
    · intro h
      obtain ⟨form, hform, hne, hsign⟩ := exists_form before c cs
      obtain ⟨d, others, rfl⟩ := List.exists_cons_of_ne_nil hne
      rw [hform, List.cons_append, List.head?_cons, Option.some.injEq] at h
      have hc : d = c := (hsign d (h ▸ hm)).1 List.mem_cons_self
      rw [List.head?_cons, ← hc, h]
    · intro h
      obtain rfl : c = m := Option.some.inj h
      rw [lowerAfter_cons_of_isSign hm]
      rfl

theorem lowerChars_eq_nil_iff : lowerChars cs = [] ↔ cs = [] := by
  constructor
  · intro h
    cases cs with
    | nil => rfl
    | cons c cs =>
      obtain ⟨form, hform, hne, -⟩ := exists_form [] c cs
      rw [lowerChars, hform] at h
      exact absurd (List.append_eq_nil_iff.1 h).1 hne
  · rintro rfl
    rfl

end

end ChatChannel.Text
