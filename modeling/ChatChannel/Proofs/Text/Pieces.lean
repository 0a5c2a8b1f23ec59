import ChatChannel.Text.Blank
import Mathlib.Data.List.DropRight

/-!
# ChatChannel.Proofs.Text.Pieces

Texts that are trimmed and cut at separators, said by how they are put together: a text is cut at
the separator that has none before it (or behind it), and trimming takes away the blanks around a
text that neither begins nor ends with one.
-/

namespace ChatChannel.Text

section

variable {sep : Char} {cs rest before after first second : List Char}

/-! ## Pieces -/

theorem exists_pieces (sep : Char) (cs : List Char) :
    ∃ first parts, pieces sep cs = first :: parts := by
  cases cs with
  | nil => exact ⟨[], [], rfl⟩
  | cons c rest =>
    rw [pieces]
    split
    · exact ⟨_, _, rfl⟩
    · split <;> exact ⟨_, _, rfl⟩

theorem pieces_of_not_mem (h : sep ∉ cs) : pieces sep cs = [cs] := by
  induction cs with
  | nil => rfl
  | cons c cs ih =>
    obtain ⟨hc, hcs⟩ : sep ≠ c ∧ sep ∉ cs := by simpa using h
    rw [pieces, if_neg hc.symm, ih hcs]

/-- A separator ends one piece and begins another. -/
theorem pieces_append_sep (sep : Char) (cs rest : List Char) :
    pieces sep (cs ++ sep :: rest) = pieces sep cs ++ pieces sep rest := by
  induction cs with
  | nil => simp [pieces]
  | cons c cs ih =>
    obtain ⟨first, parts, hpieces⟩ := exists_pieces sep cs
    rw [List.cons_append, pieces, pieces, ih, hpieces]
    by_cases hc : c = sep
    · rw [if_pos hc, if_pos hc]
      rfl
    · rw [if_neg hc, if_neg hc]
      rfl

theorem pieces_append (h : sep ∉ cs) : pieces sep (cs ++ sep :: rest) = cs :: pieces sep rest := by
  rw [pieces_append_sep, pieces_of_not_mem h, List.singleton_append]

/-- The last piece is what stands behind the last separator. -/
theorem pieces_append_last {last : List Char} (h : sep ∉ last) :
    pieces sep (cs ++ sep :: last) = pieces sep cs ++ [last] := by
  rw [pieces_append_sep, pieces_of_not_mem h]

/-- Two pieces are what stands before and behind the only separator. -/
theorem pieces_eq_pair_iff :
    pieces sep cs = [first, second] ↔
      cs = first ++ sep :: second ∧ sep ∉ first ∧ sep ∉ second := by
  constructor
  · intro h
    by_cases hcs : sep ∈ cs
    · obtain ⟨front, back, rfl, hfront⟩ := List.eq_append_cons_of_mem hcs
      rw [pieces_append hfront, List.cons.injEq] at h
      obtain ⟨rfl, hback⟩ := h
      by_cases hmem : sep ∈ back
      · obtain ⟨middle, last, rfl, hmiddle⟩ := List.eq_append_cons_of_mem hmem
        obtain ⟨piece, others, hlast⟩ := exists_pieces sep last
        rw [pieces_append hmiddle, hlast] at hback
        cases hback
      · rw [pieces_of_not_mem hmem, List.cons.injEq] at hback
        exact hback.1 ▸ ⟨rfl, hfront, hmem⟩
    · rw [pieces_of_not_mem hcs] at h
      cases h
  · rintro ⟨rfl, hfirst, hsecond⟩
    rw [pieces_append hfirst, pieces_of_not_mem hsecond]

/-- There is one piece more than there are separators. -/
theorem length_pieces (sep : Char) (cs : List Char) :
    (pieces sep cs).length = cs.count sep + 1 := by
  induction cs with
  | nil => rfl
  | cons c cs ih =>
    by_cases hc : c = sep
    · rw [pieces, if_pos hc, List.length_cons, ih, hc, List.count_cons_self]
    · obtain ⟨first, parts, hpieces⟩ := exists_pieces sep cs
      rw [pieces, if_neg hc, List.count_cons_of_ne hc, ← ih, hpieces]
      rfl

/-! ## Cuts -/

theorem cutFirst_of_not_mem (h : sep ∉ cs) : cutFirst sep cs = none := by
  induction cs with
  | nil => rfl
  | cons c cs ih =>
    obtain ⟨hc, hcs⟩ : sep ≠ c ∧ sep ∉ cs := by simpa using h
    rw [cutFirst, if_neg hc.symm, ih hcs]
    rfl

theorem cutFirst_append (h : sep ∉ cs) : cutFirst sep (cs ++ sep :: rest) = some (cs, rest) := by
  induction cs with
  | nil => rw [List.nil_append, cutFirst, if_pos rfl]
  | cons c cs ih =>
    obtain ⟨hc, hcs⟩ : sep ≠ c ∧ sep ∉ cs := by simpa using h
    rw [List.cons_append, cutFirst, if_neg hc.symm, ih hcs]
    rfl

theorem cutFirst_eq_some_iff :
    cutFirst sep cs = some (before, after) ↔ cs = before ++ sep :: after ∧ sep ∉ before := by
  constructor
  · intro h
    by_cases hcs : sep ∈ cs
    · obtain ⟨front, back, rfl, hfront⟩ := List.eq_append_cons_of_mem hcs
      rw [cutFirst_append hfront, Option.some.injEq, Prod.mk.injEq] at h
      obtain ⟨rfl, rfl⟩ := h
      exact ⟨rfl, hfront⟩
    · rw [cutFirst_of_not_mem hcs] at h
      cases h
  · rintro ⟨rfl, hbefore⟩
    exact cutFirst_append hbefore

theorem cutFirst_eq_none_iff : cutFirst sep cs = none ↔ sep ∉ cs := by
  refine ⟨fun h hmem => ?_, cutFirst_of_not_mem⟩
  obtain ⟨front, back, rfl, hfront⟩ := List.eq_append_cons_of_mem hmem
  rw [cutFirst_append hfront] at h
  cases h

theorem cutLast_eq_none_iff : cutLast sep cs = none ↔ sep ∉ cs := by
  rw [cutLast, Option.map_eq_none_iff, cutFirst_eq_none_iff, List.mem_reverse]

theorem cutLast_eq_some_iff :
    cutLast sep cs = some (before, after) ↔ cs = before ++ sep :: after ∧ sep ∉ after := by
  rw [cutLast, Option.map_eq_some_iff]
  constructor
  · rintro ⟨⟨back, front⟩, hcut, hpair⟩
    obtain ⟨hcs, hback⟩ := cutFirst_eq_some_iff.1 hcut
    cases hpair
    refine ⟨?_, by simpa using hback⟩
    rw [← List.reverse_reverse cs, hcs]
    simp
  · rintro ⟨rfl, hafter⟩
    refine ⟨(after.reverse, before.reverse), ?_, by simp⟩
    exact cutFirst_eq_some_iff.2 ⟨by simp, by simpa using hafter⟩

/-! ## Trimming -/

/-- No blank at either end. -/
structure IsTrimmed (cs : List Char) : Prop where
  head : ∀ c, cs.head? = some c → isBlank c = false
  last : ∀ c, cs.getLast? = some c → isBlank c = false

theorem isTrimmed_trimChars (cs : List Char) : IsTrimmed (trimChars cs) := by
  constructor
  · intro c hc
    obtain ⟨rest, hrest⟩ : trimChars cs <+: trimStart cs :=
      List.rdropWhile_prefix isBlank (trimStart cs)
    have hhead : (trimStart cs).head? = some c := by
      rw [← hrest, List.head?_append, hc]
      rfl
    have hstart := List.head?_dropWhile_not isBlank cs
    rw [show cs.dropWhile isBlank = trimStart cs from rfl, hhead] at hstart
    exact hstart
  · intro c hc
    have hend := List.head?_dropWhile_not isBlank (trimStart cs).reverse
    have hlast : ((trimStart cs).reverse.dropWhile isBlank).head? = some c := by
      rw [← List.getLast?_reverse]
      exact hc
    rw [hlast] at hend
    exact hend

theorem mem_of_mem_trimChars {c : Char} (h : c ∈ trimChars cs) : c ∈ cs := by
  have hstart : trimChars cs <+: trimStart cs := List.rdropWhile_prefix isBlank (trimStart cs)
  have hsuffix : trimStart cs <:+ cs := List.dropWhile_suffix isBlank
  exact hsuffix.subset (hstart.subset h)

theorem isTrimmed_of_forall (h : ∀ c ∈ cs, isBlank c = false) : IsTrimmed cs where
  head c hc := h c (List.mem_of_head? hc)
  last c hc := h c (List.mem_of_getLast? hc)

theorem isBlank_of_isDigit {c : Char} (h : c.isDigit = true) : isBlank c = false := by
  have htable : ∀ r ∈ blankRanges, r.2 < '0'.toNat ∨ '9'.toNat < r.1 := by decide +kernel
  obtain ⟨h0, h9⟩ := Char.isDigit_iff_toNat.1 h
  rw [isBlank, inRanges, List.any_eq_false]
  intro r hr
  rw [Bool.and_eq_true, decide_eq_true_iff, decide_eq_true_iff]
  have hrange := htable r hr
  omega

theorem dropWhile_append_exact {p : Char → Bool} (hbefore : ∀ c ∈ before, p c = true)
    (hhead : ∀ c, cs.head? = some c → p c = false) : (before ++ cs).dropWhile p = cs := by
  rw [List.dropWhile_append_of_pos hbefore]
  cases cs with
  | nil => rfl
  | cons c cs =>
    have hc := hhead c rfl
    exact List.dropWhile_cons_of_neg (by simp [hc])

/-- Trimming finds the text between the blanks. -/
theorem trimChars_append (hbefore : ∀ c ∈ before, isBlank c = true)
    (hafter : ∀ c ∈ after, isBlank c = true) (hcs : IsTrimmed cs) :
    trimChars (before ++ (cs ++ after)) = cs := by
  cases cs with
  | nil =>
    have hall : ∀ c ∈ before ++ after, isBlank c = true := by
      intro c hc
      exact (List.mem_append.1 hc).elim (hbefore c) (hafter c)
    rw [List.nil_append, trimChars, trimStart, List.dropWhile_eq_nil_iff.2 hall]
    rfl
  | cons c rest =>
    have hstart : trimStart (before ++ (c :: rest ++ after)) = c :: rest ++ after := by
      apply dropWhile_append_exact hbefore
      intro d hd
      exact hcs.head d hd
    have hend : ((c :: rest ++ after).reverse).dropWhile isBlank = (c :: rest).reverse := by
      rw [List.reverse_append]
      apply dropWhile_append_exact
      · intro d hd
        exact hafter d (List.mem_reverse.1 hd)
      · intro d hd
        exact hcs.last d (List.head?_reverse ▸ hd)
    rw [trimChars, hstart, trimEnd, hend, List.reverse_reverse]

theorem exists_trimChars (cs : List Char) :
    ∃ before after, (∀ c ∈ before, isBlank c = true) ∧ (∀ c ∈ after, isBlank c = true) ∧
      cs = before ++ (trimChars cs ++ after) := by
  refine ⟨cs.takeWhile isBlank, (trimStart cs).rtakeWhile isBlank, fun c => List.mem_takeWhile_imp,
    fun c => List.mem_rtakeWhile_imp, ?_⟩
  have hend : trimChars cs ++ (trimStart cs).rtakeWhile isBlank = trimStart cs := by
    rw [List.rtakeWhile, ← List.reverse_inj, List.reverse_append, List.reverse_reverse, trimChars,
      trimEnd, List.reverse_reverse, List.takeWhile_append_dropWhile]
  rw [hend, trimStart, List.takeWhile_append_dropWhile]

/-- Blanks around a text are not there for one who trims it. -/
theorem trimChars_between_blanks (hbefore : ∀ c ∈ before, isBlank c = true)
    (hafter : ∀ c ∈ after, isBlank c = true) :
    trimChars (before ++ (cs ++ after)) = trimChars cs := by
  obtain ⟨front, back, hfront, hback, hcs⟩ := exists_trimChars cs
  have houter :
      before ++ (cs ++ after) = (before ++ front) ++ (trimChars cs ++ (back ++ after)) := by
    conv_lhs => rw [hcs]
    simp only [List.append_assoc]
  rw [houter]
  refine trimChars_append (fun c hc => ?_) (fun c hc => ?_) (isTrimmed_trimChars cs)
  · exact (List.mem_append.1 hc).elim (hbefore c) (hfront c)
  · exact (List.mem_append.1 hc).elim (hback c) (hafter c)

theorem trimChars_of_isTrimmed (hcs : IsTrimmed cs) : trimChars cs = cs := by
  have h : trimChars ([] ++ (cs ++ [])) = cs := trimChars_append nofun nofun hcs
  rwa [List.nil_append, List.append_nil] at h

theorem isTrimmed_iff : IsTrimmed cs ↔ trimChars cs = cs := by
  constructor
  · exact trimChars_of_isTrimmed
  · intro h
    rw [← h]
    exact isTrimmed_trimChars cs

end

end ChatChannel.Text
