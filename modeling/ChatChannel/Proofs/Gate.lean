import Mathlib.Data.List.TakeWhile
import ChatChannel.Gate
import ChatChannel.Proofs.Text.Pieces

/-!
# ChatChannel.Proofs.Gate

Whom the allow-list lets in. What an entry stands for is said without the search that the gate makes
for it: `Describes` fills each star of a pattern with a text of its own, and the user part of an
address is the longest beginning of it that holds no separator.

* `describes_iff_spread`: filling the stars is spreading the pieces between them over the text.
* `describes_of_globMatches`: the search finds such a filling.
* `admitted_is_described`: whoever passes is described by an entry, if there are any.
-/

namespace ChatChannel.Gate

open Text

/-- The text is the pattern with each of its stars replaced by some text. -/
inductive Describes : List Char → List Char → Prop where
  | done : Describes [] []
  | star {pattern text : List Char} (filling : List Char) (h : Describes pattern text) :
      Describes ('*' :: pattern) (filling ++ text)
  | same {c : Char} {pattern text : List Char} (hc : c ≠ '*') (h : Describes pattern text) :
      Describes (c :: pattern) (c :: text)

/-- The text consists of the parts in their order, with some text before each of them. -/
def Spread : List (List Char) → List Char → Prop
  | [], text => text = []
  | part :: parts, text => ∃ filling rest, text = filling ++ (part ++ rest) ∧ Spread parts rest

/-- None of the characters that end the user part of an address. -/
def IsBare (cs : List Char) : Prop :=
  ∀ c ∈ cs, c ≠ '@' ∧ c ≠ ':' ∧ c ≠ '.'

/-- The longest beginning of an address that is bare. -/
structure IsUserPart (address user : List Char) : Prop where
  begins : user <+: address
  bare : IsBare user
  longest : ∀ other, other <+: address → IsBare other → other <+: user

section

variable {pattern text part rest tail left : List Char} {parts : List (List Char)} {c : Char}

/-! ## Patterns -/

theorem describes_star_iff :
    Describes ('*' :: pattern) text ↔
      ∃ filling rest, text = filling ++ rest ∧ Describes pattern rest := by
  constructor
  · intro h
    cases h with
    | star filling h => exact ⟨filling, _, rfl, h⟩
    | same hc _ => exact absurd rfl hc
  · rintro ⟨filling, rest, rfl, h⟩
    exact .star filling h

theorem describes_cons_iff (hc : c ≠ '*') :
    Describes (c :: pattern) text ↔ ∃ rest, text = c :: rest ∧ Describes pattern rest := by
  constructor
  · intro h
    cases h with
    | star filling h => exact absurd rfl hc
    | same _ h => exact ⟨_, rfl, h⟩
  · rintro ⟨rest, rfl, h⟩
    exact .same hc h

/-- A pattern without a star stands for itself alone. -/
theorem describes_iff_eq (hstar : '*' ∉ pattern) : Describes pattern text ↔ pattern = text := by
  induction pattern generalizing text with
  | nil =>
    constructor
    · rintro ⟨⟩
      rfl
    · rintro rfl
      exact .done
  | cons c pattern ih =>
    obtain ⟨hc, hrest⟩ : '*' ≠ c ∧ '*' ∉ pattern := by simpa using hstar
    rw [describes_cons_iff hc.symm]
    constructor
    · rintro ⟨rest, rfl, h⟩
      rw [(ih hrest).1 h]
    · rintro rfl
      exact ⟨pattern, rfl, (ih hrest).2 rfl⟩

/-- A pattern describes what begins with its first piece and has the others spread over the rest. -/
theorem describes_iff_spread {first : List Char} (hpieces : pieces '*' pattern = first :: parts) :
    Describes pattern text ↔ ∃ tail, text = first ++ tail ∧ Spread parts tail := by
  induction pattern generalizing first parts text with
  | nil =>
    cases hpieces
    constructor
    · rintro ⟨⟩
      exact ⟨[], rfl, rfl⟩
    · rintro ⟨_, rfl, rfl⟩
      exact .done
  | cons c pattern ih =>
    obtain ⟨next, others, hrest⟩ := exists_pieces '*' pattern
    rw [pieces, hrest] at hpieces
    by_cases hc : c = '*'
    · -- The star begins a new piece, which is looked for behind the filling.
      subst hc
      rw [if_pos rfl] at hpieces
      cases hpieces
      rw [describes_star_iff]
      constructor
      · rintro ⟨filling, _, rfl, h⟩
        obtain ⟨tail, rfl, hspread⟩ := (ih hrest).1 h
        exact ⟨_, rfl, filling, tail, rfl, hspread⟩
      · rintro ⟨_, rfl, filling, tail, rfl, hspread⟩
        exact ⟨filling, _, rfl, (ih hrest).2 ⟨tail, rfl, hspread⟩⟩
    · rw [if_neg hc] at hpieces
      cases hpieces
      rw [describes_cons_iff hc]
      constructor
      · rintro ⟨_, rfl, h⟩
        obtain ⟨tail, rfl, hspread⟩ := (ih hrest).1 h
        exact ⟨tail, rfl, hspread⟩
      · rintro ⟨tail, rfl, hspread⟩
        exact ⟨_, rfl, (ih hrest).2 ⟨tail, rfl, hspread⟩⟩

/-! ## The search -/

theorem afterStart_eq_some (h : afterStart part text = some tail) : text = part ++ tail := by
  induction part generalizing text with
  | nil => exact Option.some.inj h
  | cons p part ih =>
    cases text with
    | nil => cases h
    | cons c rest =>
      rw [afterStart] at h
      split at h
      · rename_i hpc
        rw [hpc, List.cons_append, ← ih h]
      · cases h

theorem afterStart_self_append (part tail : List Char) :
    afterStart part (part ++ tail) = some tail := by
  induction part with
  | nil => rfl
  | cons p part ih => rw [List.cons_append, afterStart, if_pos rfl, ih]

theorem afterFirst_eq_some (h : afterFirst part text = some tail) :
    ∃ filling, text = filling ++ (part ++ tail) := by
  induction text with
  | nil =>
    rw [afterFirst] at h
    split at h
    · rename_i hpart
      cases h
      exact ⟨[], by rw [hpart]; rfl⟩
    · cases h
  | cons c rest ih =>
    rw [afterFirst] at h
    split at h
    · rename_i hstart
      cases h
      have htext : c :: rest = part ++ tail := afterStart_eq_some hstart
      exact ⟨[], htext⟩
    · obtain ⟨filling, rfl⟩ := ih h
      exact ⟨c :: filling, rfl⟩

/-- The parts that were found one after the other are spread over the text up to what is left. -/
theorem spread_of_afterParts (h : afterParts parts text = some left) :
    ∃ front, text = front ++ left ∧ Spread parts front := by
  induction parts generalizing text with
  | nil =>
    cases h
    exact ⟨[], rfl, rfl⟩
  | cons part parts ih =>
    rw [afterParts] at h
    split at h
    · cases h
    · rename_i tail hfound
      obtain ⟨filling, rfl⟩ := afterFirst_eq_some hfound
      obtain ⟨front, rfl, hspread⟩ := ih h
      exact ⟨filling ++ (part ++ front), by simp, filling, front, rfl, hspread⟩

/-- The text before the last part can be made longer, by that part and by anything else. -/
theorem Spread.append {last : List Char} (h : Spread parts text)
    (hlast : parts.getLast? = some last) (rest : List Char) :
    Spread parts (text ++ (rest ++ last)) := by
  induction parts generalizing text with
  | nil => cases hlast
  | cons part parts ih =>
    obtain ⟨filling, tail, rfl, htail⟩ := h
    cases parts with
    | nil =>
      obtain rfl : part = last := by simpa using hlast
      obtain rfl : tail = [] := htail
      exact ⟨filling ++ (part ++ rest), [], by simp, rfl⟩
    | cons next parts =>
      exact ⟨filling, tail ++ (rest ++ last), by simp, ih htail (by simpa using hlast)⟩

theorem describes_self (pattern : List Char) : Describes pattern pattern := by
  induction pattern with
  | nil => exact .done
  | cons c pattern ih =>
    by_cases hc : c = '*'
    · exact hc ▸ .star ['*'] ih
    · exact .same hc ih

/-- A pattern with a star matches if its first piece is the beginning of the text, the others are
found behind it, and nothing is left unless the last of them is empty. -/
theorem globMatches_iff_of_pieces {first last : List Char}
    (hpieces : pieces '*' pattern = first :: parts) (hlast : parts.getLast? = some last) :
    globMatches pattern text = true ↔
      ∃ tail left, text = first ++ tail ∧ afterParts parts tail = some left ∧
        (last = [] ∨ left = []) := by
  have hne : parts ≠ [] := by
    rintro rfl
    cases hlast
  obtain ⟨part, others, rfl⟩ := List.exists_cons_of_ne_nil hne
  rw [globMatches, hpieces]
  dsimp only
  constructor
  · intro h
    split at h
    · cases h
    · rename_i tail hfirst
      split at h
      · cases h
      · rename_i left hparts
        exact ⟨tail, left, afterStart_eq_some hfirst, hparts, by simpa [hlast] using h⟩
  · rintro ⟨tail, left, rfl, hparts, hend⟩
    rw [afterStart_self_append]
    simpa [hparts, hlast] using hend

theorem describes_of_globMatches (h : globMatches pattern text = true) :
    Describes pattern text := by
  obtain ⟨first, parts, hpieces⟩ := exists_pieces '*' pattern
  cases hlast : parts.getLast? with
  | none =>
    rw [globMatches, hpieces, List.getLast?_eq_none_iff.1 hlast] at h
    obtain rfl : pattern = text := by simpa using h
    exact describes_self pattern
  | some last =>
    obtain ⟨tail, left, rfl, hparts, hend⟩ := (globMatches_iff_of_pieces hpieces hlast).1 h
    obtain ⟨front, rfl, hspread⟩ := spread_of_afterParts hparts
    refine (describes_iff_spread hpieces).2 ⟨_, rfl, ?_⟩
    rcases hend with rfl | rfl
    · simpa using hspread.append hlast left
    · simpa using hspread

/-! ## Addresses -/

theorem userPart_eq_takeWhile (address : List Char) :
    userPart address = address.takeWhile fun c => c ≠ '.' ∧ c ≠ ':' ∧ c ≠ '@' := by
  simp [userPart, before, List.takeWhile_takeWhile]

theorem isUserPart_userPart (address : List Char) : IsUserPart address (userPart address) := by
  rw [userPart_eq_takeWhile]
  refine ⟨List.takeWhile_prefix _, fun c hc => ?_, ?_⟩
  · have hbare := List.mem_takeWhile_imp hc
    simp only [decide_eq_true_eq] at hbare
    exact ⟨hbare.2.2, hbare.2.1, hbare.1⟩
  · rintro other ⟨rest, rfl⟩ hbare
    rw [List.takeWhile_append_of_pos]
    · exact List.prefix_append _ _
    · intro c hc
      obtain ⟨hat, hcolon, hdot⟩ := hbare c hc
      simp [hat, hcolon, hdot]

/-- There is only one user part. -/
theorem isUserPart_iff {address user : List Char} :
    IsUserPart address user ↔ user = userPart address := by
  constructor
  · intro h
    have hpart := isUserPart_userPart address
    have hle := (hpart.longest user h.begins h.bare).length_le
    exact (h.longest _ hpart.begins hpart.bare).eq_of_length_le hle |>.symm
  · rintro rfl
    exact isUserPart_userPart address

theorem described_of_patternAdmits {address : List Char}
    (h : patternAdmits pattern address = true) :
    pattern ≠ [] ∧ (Describes pattern address ∨ Describes pattern (userPart address)) := by
  unfold patternAdmits at h
  split at h
  · cases h
  · rename_i hpattern
    refine ⟨hpattern, ?_⟩
    split at h
    · exact (Bool.or_eq_true_iff.1 h).imp describes_of_globMatches describes_of_globMatches
    · rename_i hstar
      have hstar : '*' ∉ pattern := by simpa using hstar
      rw [describes_iff_eq hstar, describes_iff_eq hstar]
      simpa using h

end

/-! ## Admission -/

/-- Whoever passes the gate does so because the list is empty, or because an entry of it, trimmed,
without leading plus signs and in lower case, is a pattern that is not empty and describes the
sender in lower case, or the user part of it. -/
theorem admitted_is_described {allow : List String} {sender : String}
    (h : admits allow sender = true) :
    allow = [] ∨ ∃ entry ∈ allow, ∃ pattern user : List Char,
      pattern = lowerChars ((trimChars entry.toList).dropWhile (· = '+')) ∧ pattern ≠ [] ∧
      IsUserPart (lowerChars sender.toList) user ∧
      (Describes pattern (lowerChars sender.toList) ∨ Describes pattern user) := by
  unfold admits at h
  split at h
  · rename_i hempty
    exact .inl hempty
  · obtain ⟨entry, hmem, hentry⟩ := List.any_eq_true.1 h
    obtain ⟨hpattern, hdescribes⟩ := described_of_patternAdmits hentry
    exact .inr ⟨entry, hmem, _, _, rfl, hpattern, isUserPart_userPart _, hdescribes⟩

/-- A sender with a device and a server passes by its user part, whatever case it is written in. -/
theorem globbed_user_is_described :
    admits ["bob", " ++1*A*9 "] "15a29:3@S.Net" = true ∧
      ∃ entry ∈ ["bob", " ++1*A*9 "], ∃ pattern user : List Char,
        pattern = lowerChars ((trimChars entry.toList).dropWhile (· = '+')) ∧ pattern ≠ [] ∧
        IsUserPart (lowerChars "15a29:3@S.Net".toList) user ∧
        (Describes pattern (lowerChars "15a29:3@S.Net".toList) ∨ Describes pattern user) := by
  have hadmits : admits ["bob", " ++1*A*9 "] "15a29:3@S.Net" = true := by decide +kernel
  exact ⟨hadmits, (admitted_is_described hadmits).resolve_left (by simp)⟩

end ChatChannel.Gate
