import ChatChannel.Proofs.Gate.Accounts

/-!
# ChatChannel.Proofs.Gate.Devices

What the verdict of the gate owes to the device that a sender writes from. Two addresses of one
account are printed alike but for their marks, and they have the same user part; so only an entry
that is compared with the whole address can tell them apart.

* `alike_afterParts`: the search for the parts of a pattern goes on alike in two such addresses, if
  none of the parts can begin or end within a mark.
* `verdicts_agree_iff`: when two addresses of one account get the same verdict.
-/

namespace ChatChannel.Gate

open Text

/-- The entry is the text, or stands for it by its stars. -/
def Covers (entry : String) (text : List Char) : Prop :=
  entryPattern entry ≠ [] ∧ globMatches (entryPattern entry) text = true

/-- A part of a pattern that is never found to begin or end within the mark of an address. -/
def IsAloof (part : List Char) : Prop :=
  part.head? = some '@' ∨ IsBare part ∧ ∀ c ∈ part, c.isDigit = false

/-- The pieces of a pattern take no notice of marks: a single one without at-sign, or one that lies
within the user and others that keep aloof. -/
def IgnoreMarks : List (List Char) → Prop
  | [] => True
  | [piece] => '@' ∉ piece
  | first :: second :: parts => IsBare first ∧ ∀ part ∈ second :: parts, IsAloof part

instance instDecidableIsBare (cs : List Char) : Decidable (IsBare cs) :=
  List.decidableBAll _ cs

instance instDecidableIsAloof (part : List Char) : Decidable (IsAloof part) :=
  have : Decidable (∀ c ∈ part, c.isDigit = false) := List.decidableBAll _ part
  inferInstanceAs (Decidable (_ ∨ _ ∧ ∀ c ∈ part, c.isDigit = false))

instance instDecidableIgnoreMarks : (parts : List (List Char)) → Decidable (IgnoreMarks parts)
  | [] => isTrue trivial
  | [piece] => inferInstanceAs (Decidable ('@' ∉ piece))
  | _ :: second :: parts => inferInstanceAs (Decidable (_ ∧ ∀ part ∈ second :: parts, IsAloof part))

/-- What is left of two addresses of an account when as much of both has been searched: the same, or
an end of the user and then the marks. -/
inductive Alike (a b : Address) (back : List Char) : List Char → List Char → Prop where
  | same (text : List Char) : Alike a b back text text
  | marked (front : List Char) (hfront : '@' ∉ front) :
      Alike a b back (front ++ (a.mark ++ '@' :: back)) (front ++ (b.mark ++ '@' :: back))

section

variable {a b : Address} {c : Char} {part front tail back text other : List Char}
  {parts : List (List Char)} {pattern : List Char} {entry : String} {allow : List String}

/-! ## The search -/

/-- A part that cannot go on into the tail is found in what stands before it, or nowhere. -/
theorem afterStart_append (htail : ∃ c rest, tail = c :: rest ∧ c ∉ part) :
    afterStart part (front ++ tail) = (afterStart part front).map (· ++ tail) := by
  obtain ⟨c, rest, rfl, hc⟩ := htail
  induction part generalizing front with
  | nil => rfl
  | cons p part ih =>
    obtain ⟨hp, hpart⟩ : c ≠ p ∧ c ∉ part := by simpa using hc
    cases front with
    | nil =>
      rw [List.nil_append, afterStart, afterStart, if_neg hp.symm]
      rfl
    | cons d front =>
      rw [List.cons_append, afterStart, afterStart]
      split
      · exact ih hpart
      · rfl

/-- Characters that a part does not begin with are passed over. -/
theorem afterFirst_append (hpart : part ≠ []) (hfront : ∀ c ∈ front, part.head? ≠ some c) :
    afterFirst part (front ++ tail) = afterFirst part tail := by
  induction front with
  | nil => rfl
  | cons c front ih =>
    cases part with
    | nil => exact absurd rfl hpart
    | cons p part =>
      have hp : p ≠ c := fun h => hfront c List.mem_cons_self (congrArg some h)
      rw [List.cons_append, afterFirst, afterStart, if_neg hp]
      exact ih fun d hd => hfront d (List.mem_cons_of_mem _ hd)

theorem afterFirst_nil (text : List Char) : afterFirst [] text = some text := by
  cases text with
  | nil => rfl
  | cons c text => rfl

theorem Alike.refl_found (found : Option (List Char)) :
    Option.Rel (Alike a b back) found found := by
  cases found with
  | none => exact .none
  | some text => exact .some (.same text)

/-- What follows a user begins with a separator, which no bare part holds. -/
theorem exists_separator (a : Address) (back : List Char) (hpart : IsBare part) :
    ∃ c rest, a.mark ++ '@' :: back = c :: rest ∧ c ∉ part := by
  cases hshape : a.mark ++ '@' :: back with
  | nil => simp at hshape
  | cons c rest =>
    refine ⟨c, rest, rfl, fun hc => ?_⟩
    have hhead : (a.mark ++ '@' :: back).head? = some c := by rw [hshape, List.head?_cons]
    have hsep := head?_after_user hhead
    obtain ⟨hat, hcolon, hdot⟩ := hpart c hc
    rcases hsep with rfl | rfl | rfl
    · exact hdot rfl
    · exact hcolon rfl
    · exact hat rfl

theorem head?_ne_of_mem_mark (hpart : IsAloof part) (hc : c ∈ a.mark) : part.head? ≠ some c := by
  intro hhead
  rcases hpart with hat | ⟨hbare, hdigit⟩
  · rw [hat, Option.some.injEq] at hhead
    exact Address.at_not_mem_mark a (hhead ▸ hc)
  · have hmem := List.mem_of_head? hhead
    obtain ⟨-, hcolon, hdot⟩ := hbare c hmem
    rcases Address.mem_mark hc with h | h | h
    · exact hdot h
    · exact hcolon h
    · exact absurd h (by simp [hdigit c hmem])

theorem alike_afterFirst_marked (hpart : IsAloof part) (hfront : '@' ∉ front) :
    Option.Rel (Alike a b back) (afterFirst part (front ++ (a.mark ++ '@' :: back)))
      (afterFirst part (front ++ (b.mark ++ '@' :: back))) := by
  by_cases hempty : part = []
  · rw [hempty, afterFirst_nil, afterFirst_nil]
    exact .some (.marked front hfront)
  -- Behind the marks both searches go on in the same text.
  have behind : Option.Rel (Alike a b back) (afterFirst part (a.mark ++ '@' :: back))
      (afterFirst part (b.mark ++ '@' :: back)) := by
    rw [afterFirst_append hempty fun c => head?_ne_of_mem_mark hpart,
      afterFirst_append hempty fun c => head?_ne_of_mem_mark hpart]
    exact Alike.refl_found _
  rcases hpart with hat | ⟨hbare, -⟩
  · have hskip : ∀ c ∈ front, part.head? ≠ some c := by
      intro c hc hhead
      rw [hat, Option.some.injEq] at hhead
      exact hfront (hhead ▸ hc)
    rw [afterFirst_append hempty hskip, afterFirst_append hempty hskip]
    exact behind
  · induction front with
    | nil => exact behind
    | cons c front ih =>
      obtain ⟨hc, hrest⟩ : '@' ≠ c ∧ '@' ∉ front := by simpa using hfront
      rw [List.cons_append, List.cons_append, afterFirst, afterFirst, ← List.cons_append,
        ← List.cons_append, afterStart_append (exists_separator a back hbare),
        afterStart_append (exists_separator b back hbare)]
      cases hfound : afterStart part (c :: front) with
      | none => exact ih hrest
      | some left =>
        refine .some (.marked left fun hmem => hfront ?_)
        rw [afterStart_eq_some hfound]
        exact List.mem_append_right _ hmem

theorem alike_afterFirst (hpart : IsAloof part) (h : Alike a b back text other) :
    Option.Rel (Alike a b back) (afterFirst part text) (afterFirst part other) := by
  cases h with
  | same => exact Alike.refl_found _
  | marked front hfront => exact alike_afterFirst_marked hpart hfront

theorem alike_afterParts (hparts : ∀ part ∈ parts, IsAloof part)
    (h : Alike a b back text other) :
    Option.Rel (Alike a b back) (afterParts parts text) (afterParts parts other) := by
  induction parts generalizing text other with
  | nil => exact .some h
  | cons part parts ih =>
    have hnext := alike_afterFirst (hparts part List.mem_cons_self) h
    rw [afterParts, afterParts]
    generalize afterFirst part text = found, afterFirst part other = found' at hnext ⊢
    cases hnext with
    | none => exact .none
    | some hleft => exact ih (fun p hp => hparts p (List.mem_cons_of_mem _ hp)) hleft

theorem Alike.eq_nil_iff (h : Alike a b back text other) : text = [] ↔ other = [] := by
  cases h with
  | same => rfl
  | marked front hfront => simp

theorem globMatches_of_ignoreMarks (hab : a.account = b.account) (huser : '@' ∉ a.user.toList)
    (hignore : IgnoreMarks (pieces '*' pattern)) :
    globMatches pattern (lowerChars a.text.toList) =
      globMatches pattern (lowerChars b.text.toList) := by
  by_cases hstar : '*' ∈ pattern
  · obtain ⟨first, rest, rfl, hfirst⟩ := List.eq_append_cons_of_mem hstar
    obtain ⟨second, parts, hrest⟩ := exists_pieces '*' rest
    have hpieces : pieces '*' (first ++ '*' :: rest) = first :: second :: parts := by
      rw [pieces_append hfirst, hrest]
    rw [hpieces] at hignore
    obtain ⟨hbare, hparts⟩ := hignore
    obtain ⟨hsameUser, hsameServer⟩ := Address.account_eq_iff.1 hab
    have hfront : '@' ∉ lowerChars a.user.toList := fun hmem =>
      huser ((mem_lowerAfter_iff (by decide)).1 hmem)
    rw [globMatches, globMatches, hpieces, lowerChars_text, lowerChars_text, ← hsameUser,
      ← hsameServer]
    generalize lowerAfter ['@'] a.server.toList = back
    dsimp only
    rw [afterStart_append (exists_separator a _ hbare),
      afterStart_append (exists_separator b _ hbare)]
    cases hbegin : afterStart first (lowerChars a.user.toList) with
    | none => rfl
    | some left =>
      have hleft : '@' ∉ left := by
        rw [afterStart_eq_some hbegin] at hfront
        exact fun hmem => hfront (List.mem_append_right _ hmem)
      have hsearch := alike_afterParts hparts (.marked left hleft : Alike a b back _ _)
      simp only [Option.map_some]
      generalize afterParts (second :: parts) (left ++ (a.mark ++ '@' :: back)) = found,
        afterParts (second :: parts) (left ++ (b.mark ++ '@' :: back)) = found' at hsearch ⊢
      cases hsearch with
      | none => rfl
      | some h => simp only [h.eq_nil_iff]
  · rw [pieces_of_not_mem hstar] at hignore
    have never (c : Address) : globMatches pattern (lowerChars c.text.toList) = false := by
      rw [Bool.eq_false_iff, Ne, globMatches_of_not_mem hstar]
      rintro rfl
      exact hignore (at_mem_lower_text c)
    rw [never a, never b]

/-! ## The verdict -/

theorem admits_text_iff :
    admits allow a.text = true ↔
      allow = [] ∨
        (∃ entry ∈ allow, ∃ part,
          IsUserPart (lowerChars a.user.toList) part ∧ Covers entry part) ∨
        ∃ entry ∈ allow, Covers entry (lowerChars a.text.toList) := by
  simp only [admits_iff, patternAdmits_iff, userPart_text, Covers, isUserPart_iff, exists_eq_left,
    and_or_left, exists_or]
  exact or_congr_right or_comm

theorem verdict_eq_iff (hab : a.account = b.account) :
    admits allow a.text = admits allow b.text ↔
      allow = [] ∨
        (∃ entry ∈ allow, ∃ part,
          IsUserPart (lowerChars a.user.toList) part ∧ Covers entry part) ∨
        ((∃ entry ∈ allow, Covers entry (lowerChars a.text.toList)) ↔
          ∃ entry ∈ allow, Covers entry (lowerChars b.text.toList)) := by
  have hsameUser : a.user = b.user := (Address.account_eq_iff.1 hab).1
  rw [Bool.eq_iff_iff, admits_text_iff, admits_text_iff, ← hsameUser, ← or_assoc, ← or_assoc,
    ← or_assoc]
  by_cases hshared : allow = [] ∨
      ∃ entry ∈ allow, ∃ part, IsUserPart (lowerChars a.user.toList) part ∧ Covers entry part
  · exact iff_of_true (iff_of_true (.inl hshared) (.inl hshared)) (.inl hshared)
  · rw [or_iff_right hshared, or_iff_right hshared, or_iff_right hshared]

theorem verdict_eq_of_ignoreMarks (hab : a.account = b.account) (huser : '@' ∉ a.user.toList)
    (hallow : ∀ entry ∈ allow, IgnoreMarks (pieces '*' (entryPattern entry))) :
    admits allow a.text = admits allow b.text := by
  refine (verdict_eq_iff hab).2 (.inr (.inr (exists_congr fun entry => ?_)))
  refine and_congr_right fun hentry => ?_
  rw [Covers, Covers, globMatches_of_ignoreMarks hab huser (hallow entry hentry)]

/-- An entry that is a whole address lets in this address, and no other one of the account. -/
theorem whole_address_admits_iff (hab : a.account = b.account) (hstar : '*' ∉ a.text.toList)
    (hentry : entryPattern entry = lowerChars a.text.toList) :
    admits [entry] b.text = true ↔ b = a := by
  obtain ⟨hsameUser, hsameServer⟩ := Address.account_eq_iff.1 hab
  have hlower : '*' ∉ lowerChars a.text.toList := fun hmem =>
    hstar ((mem_lowerAfter_iff (by decide)).1 hmem)
  have hne : lowerChars a.text.toList ≠ [] := List.ne_nil_of_mem (at_mem_lower_text a)
  rw [admits_singleton_iff, hentry, patternAdmits_iff, globMatches_of_not_mem hlower,
    globMatches_of_not_mem hlower, userPart_text, or_iff_left (lower_text_ne_userPart a _),
    and_iff_right hne]
  constructor
  · intro h
    rw [lowerChars_text, lowerChars_text, hsameUser, hsameServer, List.append_cancel_left_eq,
      List.append_cancel_right_eq] at h
    obtain ⟨hagent, hdevice⟩ := Address.mark_inj.1 h
    cases a
    cases b
    cases hsameUser
    cases hsameServer
    cases hagent
    cases hdevice
    rfl
  · rintro rfl
    rfl

end

/-- When two addresses of one account get the same verdict: if everybody passes, or an entry covers
the user part, which they share, or the whole addresses are both covered or both not. This holds of
all lists whose entries take no notice of marks. But an entry that is a whole address tells it from
all others of the account. -/
theorem verdicts_agree_iff {allow : List String} {a b : Address} (hab : a.account = b.account) :
    (admits allow a.text = admits allow b.text ↔
      allow = [] ∨
        (∃ entry ∈ allow, ∃ part,
          IsUserPart (lowerChars a.user.toList) part ∧ Covers entry part) ∨
        ((∃ entry ∈ allow, Covers entry (lowerChars a.text.toList)) ↔
          ∃ entry ∈ allow, Covers entry (lowerChars b.text.toList))) ∧
    ('@' ∉ a.user.toList → (∀ entry ∈ allow, IgnoreMarks (pieces '*' (entryPattern entry))) →
      admits allow a.text = admits allow b.text) ∧
    ∀ entry, '*' ∉ a.text.toList → entryPattern entry = lowerChars a.text.toList →
      (admits [entry] b.text = true ↔ b = a) := by
  refine ⟨verdict_eq_iff hab, ?_, ?_⟩
  · intro huser hallow
    exact verdict_eq_of_ignoreMarks hab huser hallow
  · intro entry hstar hentry
    exact whole_address_admits_iff hab hstar hentry

/-- A beginning of the number and a server take no notice of the device; a whole address does. -/
theorem globs_admit_alike :
    Address.account ⟨"15551234567", 0, 0, "s.whatsapp.net"⟩ =
        Address.account ⟨"15551234567", 1, 3, "s.whatsapp.net"⟩ ∧
      admits ["+1555*", "*@g.us", "Bob"]
          (Address.text ⟨"15551234567", 0, 0, "s.whatsapp.net"⟩) =
        admits ["+1555*", "*@g.us", "Bob"]
          (Address.text ⟨"15551234567", 1, 3, "s.whatsapp.net"⟩) ∧
      admits ["15551234567@S.WhatsApp.net"]
          (Address.text ⟨"15551234567", 1, 3, "s.whatsapp.net"⟩) ≠ true := by
  have hab : Address.account ⟨"15551234567", 0, 0, "s.whatsapp.net"⟩ =
      Address.account ⟨"15551234567", 1, 3, "s.whatsapp.net"⟩ := rfl
  obtain ⟨-, hglobs, hwhole⟩ := @verdicts_agree_iff ["+1555*", "*@g.us", "Bob"] _ _ hab
  refine ⟨hab, hglobs (by decide) (by decide +kernel), fun hadmits => ?_⟩
  have hsame := (hwhole _ (by decide +kernel) (by decide +kernel)).1 hadmits
  exact absurd hsame (by decide)

/-- Listing the full address of an account keeps out its devices. -/
theorem listedAccount_refuses_device :
    Address.account ⟨"15551234567", 0, 0, "s.whatsapp.net"⟩ =
        Address.account ⟨"15551234567", 0, 3, "s.whatsapp.net"⟩ ∧
      admits ["15551234567@s.whatsapp.net"]
          (Address.text ⟨"15551234567", 0, 0, "s.whatsapp.net"⟩) = true ∧
      admits ["15551234567@s.whatsapp.net"]
          (Address.text ⟨"15551234567", 0, 3, "s.whatsapp.net"⟩) = false := by
  decide +kernel

end ChatChannel.Gate
