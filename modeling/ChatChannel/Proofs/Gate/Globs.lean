import ChatChannel.Proofs.Gate

/-!
# ChatChannel.Proofs.Gate.Globs

What the search for the parts of a pattern misses of the texts that the pattern describes. The
search takes each part at its first place, and so it leaves at least as much of the text as any
other way to spread the parts does (`afterParts_of_spread`). It stops behind the shortest beginning
of the text that is described.

* `prefixGlob_matches_iff`: if the pattern ends in a star, what is left does not count, and the
  matches are just the texts that are described.
* `anchoredGlob_matches_iff`: if it does not, they are the texts of which no shorter beginning is
  described.
-/

namespace ChatChannel.Gate

open Text

/-- The pattern has a star and goes on behind the last one with the text `last`. -/
structure IsAnchored (pattern last : List Char) : Prop where
  split : ∃ front, pattern = front ++ '*' :: last
  noStar : '*' ∉ last
  nonempty : last ≠ []

section

variable {pattern text part rest front last : List Char} {parts : List (List Char)}

/-! ## The search -/

/-- The first place of a part leaves what any other place leaves, and more. -/
theorem afterFirst_of_suffix (h : part ++ rest <:+ text) :
    ∃ tail, afterFirst part text = some tail ∧ rest <:+ tail := by
  induction text with
  | nil =>
    obtain ⟨rfl, rfl⟩ := List.append_eq_nil_iff.1 (List.suffix_nil.1 h)
    exact ⟨[], rfl, List.suffix_rfl⟩
  | cons c text ih =>
    rw [afterFirst]
    cases hstart : afterStart part (c :: text) with
    | some tail =>
      have htext : c :: text = part ++ tail := afterStart_eq_some hstart
      refine ⟨tail, rfl, ?_⟩
      rw [htext] at h
      have hlength : rest.length ≤ tail.length := by
        have hle := h.length_le
        rw [List.length_append, List.length_append] at hle
        omega
      have hrest : rest <:+ part ++ tail := (List.suffix_append part rest).trans h
      exact List.suffix_of_suffix_length_le hrest (List.suffix_append part tail) hlength
    | none =>
      rcases List.suffix_cons_iff.1 h with heq | hlater
      · rw [← heq, afterStart_self_append] at hstart
        cases hstart
      · exact ih hlater

/-- The search leaves what any way to spread the parts over the text leaves, and more. -/
theorem afterParts_of_spread (hspread : Spread parts front) (h : front ++ rest <:+ text) :
    ∃ left, afterParts parts text = some left ∧ rest <:+ left := by
  induction parts generalizing front text with
  | nil =>
    obtain rfl : front = [] := hspread
    exact ⟨text, rfl, h⟩
  | cons part parts ih =>
    obtain ⟨filling, tail, rfl, htail⟩ := hspread
    have hpart : part ++ (tail ++ rest) <:+ text := by
      refine List.IsSuffix.trans ?_ h
      simp
    obtain ⟨next, hfirst, hnext⟩ := afterFirst_of_suffix hpart
    rw [afterParts, hfirst]
    exact ih htail hnext

theorem exists_afterParts (hspread : Spread parts text) :
    ∃ left, afterParts parts text = some left := by
  have hwhole : text ++ [] <:+ text := by simp
  obtain ⟨left, hsearch, -⟩ := afterParts_of_spread hspread hwhole
  exact ⟨left, hsearch⟩

theorem exists_pieces_of_star (front : List Char) (hlast : '*' ∉ last) :
    ∃ first parts, pieces '*' (front ++ '*' :: last) = first :: parts ∧
      parts.getLast? = some last := by
  obtain ⟨first, others, hfront⟩ := exists_pieces '*' front
  refine ⟨first, others ++ [last], ?_, List.getLast?_concat ..⟩
  rw [pieces_append_last hlast, hfront, List.cons_append]

/-! ## Anchored patterns -/

theorem globMatches_iff_shortest (h : IsAnchored pattern last) :
    globMatches pattern text = true ↔
      Describes pattern text ∧
        ∀ other, other <+: text → Describes pattern other → other = text := by
  obtain ⟨⟨front, rfl⟩, hstar, hne⟩ := h
  obtain ⟨first, parts, hpieces, hlast⟩ := exists_pieces_of_star front hstar
  constructor
  · intro hmatch
    refine ⟨describes_of_globMatches hmatch, fun other hother hdescribes => ?_⟩
    obtain ⟨tail, left, rfl, hsearch, hleft⟩ := (globMatches_iff_of_pieces hpieces hlast).1 hmatch
    obtain rfl : left = [] := hleft.resolve_left hne
    obtain ⟨begun, rfl, hspread⟩ := (describes_iff_spread hpieces).1 hdescribes
    obtain ⟨rest, rfl⟩ : begun <+: tail := by simpa using hother
    -- What is behind the beginning would be left by the search, and nothing is.
    obtain ⟨left, hagain, hrest⟩ := afterParts_of_spread hspread List.suffix_rfl
    rw [hsearch] at hagain
    cases hagain
    rw [List.suffix_nil.1 hrest, List.append_nil]
  · rintro ⟨hdescribes, hshortest⟩
    obtain ⟨tail, rfl, hspread⟩ := (describes_iff_spread hpieces).1 hdescribes
    obtain ⟨left, hsearch⟩ := exists_afterParts hspread
    obtain ⟨begun, rfl, hbegun⟩ := spread_of_afterParts hsearch
    have hsame : first ++ begun = first ++ (begun ++ left) :=
      hshortest (first ++ begun) (by simp) ((describes_iff_spread hpieces).2 ⟨begun, rfl, hbegun⟩)
    have hleft : left = [] := by simpa using hsame
    exact (globMatches_iff_of_pieces hpieces hlast).2 ⟨_, left, rfl, hsearch, .inr hleft⟩

/-- What is described is described with its ending written twice. -/
theorem describes_append_last (h : IsAnchored pattern last) (hdescribes : Describes pattern text) :
    Describes pattern (text ++ last) := by
  obtain ⟨⟨front, rfl⟩, hstar, -⟩ := h
  obtain ⟨first, parts, hpieces, hlast⟩ := exists_pieces_of_star front hstar
  obtain ⟨tail, rfl, hspread⟩ := (describes_iff_spread hpieces).1 hdescribes
  refine (describes_iff_spread hpieces).2 ⟨tail ++ last, List.append_assoc .., ?_⟩
  exact hspread.append hlast []

end

/-! ## Globs -/

/-- A pattern that ends in a star matches exactly the texts that it describes. -/
theorem prefixGlob_matches_iff (front text : List Char) :
    globMatches (front ++ ['*']) text = true ↔ Describes (front ++ ['*']) text := by
  constructor
  · exact describes_of_globMatches
  · intro hdescribes
    obtain ⟨first, parts, hpieces, hlast⟩ :=
      exists_pieces_of_star front (List.not_mem_nil : '*' ∉ [])
    obtain ⟨tail, rfl, hspread⟩ := (describes_iff_spread hpieces).1 hdescribes
    obtain ⟨left, hsearch⟩ := exists_afterParts hspread
    exact (globMatches_iff_of_pieces hpieces hlast).2 ⟨tail, left, rfl, hsearch, .inl rfl⟩

/-- A pattern that goes on behind its last star matches the texts that it describes, but only those
of which no shorter beginning is described too. So it misses every text that it describes as soon as
the ending is written behind it once more. -/
theorem anchoredGlob_matches_iff {pattern last : List Char} (h : IsAnchored pattern last) :
    (∀ text, globMatches pattern text = true ↔
      Describes pattern text ∧
        ∀ other, other <+: text → Describes pattern other → other = text) ∧
    ∀ text, Describes pattern text →
      Describes pattern (text ++ last) ∧ globMatches pattern (text ++ last) = false := by
  refine ⟨fun text => globMatches_iff_shortest h, fun text hdescribes => ?_⟩
  refine ⟨describes_append_last h hdescribes, ?_⟩
  rw [Bool.eq_false_iff, Ne, globMatches_iff_shortest h]
  rintro ⟨-, hshortest⟩
  have hsame := hshortest text (List.prefix_append text last) hdescribes
  exact h.nonempty (List.append_cancel_left ((List.append_nil text).trans hsame)).symm

/-- Two stars and an ending: it is matched where it is first come upon, and not where it is written
twice. -/
theorem twoStars_matched_once :
    IsAnchored "15*2*55".toList "55".toList ∧
      (Describes "15*2*55".toList "1552b55".toList ∧
        globMatches "15*2*55".toList "1552b55".toList = true) ∧
      Describes "15*2*55".toList "1552b5555".toList ∧
        globMatches "15*2*55".toList "1552b5555".toList = false := by
  have h : IsAnchored "15*2*55".toList "55".toList :=
    ⟨⟨"15*2".toList, by decide⟩, by decide, by decide⟩
  have hmatch : globMatches "15*2*55".toList "1552b55".toList = true := by decide +kernel
  have hdescribes := (((anchoredGlob_matches_iff h).1 "1552b55".toList).1 hmatch).1
  exact ⟨h, ⟨hdescribes, hmatch⟩, (anchoredGlob_matches_iff h).2 _ hdescribes⟩

/-- A number that ends in the digits that an entry asks for is kept out if it has them before. -/
theorem endingDigits_missed :
    IsAnchored "*55".toList "55".toList ∧ Describes "*55".toList "15550005555".toList ∧
      globMatches "*55".toList "15550005555".toList = false ∧
      userPart "15550005555@s.whatsapp.net".toList = "15550005555".toList ∧
      admits ["*55"] "15550005555@s.whatsapp.net" = false := by
  have h : IsAnchored "*55".toList "55".toList := ⟨⟨[], by decide⟩, by decide, by decide⟩
  have hdescribes : Describes "*55".toList "15550005555".toList :=
    .star "155500055".toList (describes_self "55".toList)
  exact ⟨h, hdescribes, by decide +kernel, by decide +kernel, by decide +kernel⟩

end ChatChannel.Gate
