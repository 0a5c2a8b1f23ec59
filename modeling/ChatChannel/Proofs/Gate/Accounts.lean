import ChatChannel.Proofs.Address
import ChatChannel.Proofs.Gate
import ChatChannel.Proofs.Text.Lowercase

/-!
# ChatChannel.Proofs.Gate.Accounts

Which accounts the allow-list lets in, when entries name users or senders. The gate sees printed
addresses in lower case; behind the user they go on with a separator, and what follows has no say in
how the user is lower-cased (`lowerChars_text`). So the user part that entries are compared with is
that of the user alone (`userPart_text`).

* `numbers_select_users`: lists of phone numbers let in exactly the users that they list.
* `user_entry_iff`: an entry that is a user lets in its addresses exactly if there is no separator
  in the user, or else neither the user nor the part of it before the separator is meant.
* `listed_sender_admitted_iff`: a sender that is itself an entry passes, whatever text it is, unless
  it begins with a plus sign.
-/

namespace ChatChannel.Gate

open Text

/-- A text of digits, one at least. -/
def IsNumber (cs : List Char) : Prop :=
  cs ≠ [] ∧ ∀ c ∈ cs, c.isDigit = true

/-- The entry is the number, with plus signs before it and blanks around both. -/
def ListsNumber (entry : String) (number : List Char) : Prop :=
  IsNumber number ∧ ∃ before plus after, entry.toList = before ++ (plus ++ number ++ after) ∧
    (∀ c ∈ before, isBlank c = true) ∧ (∀ c ∈ plus, c = '+') ∧ ∀ c ∈ after, isBlank c = true

/-- An entry that is compared as it is written, letter case apart. -/
structure IsPlainEntry (entry : String) : Prop where
  nonempty : entry.toList ≠ []
  trimmed : trimChars entry.toList = entry.toList
  noPlus : entry.toList.head? ≠ some '+'
  noStar : '*' ∉ entry.toList

/-- The same text, letter case apart. -/
def SameText (first second : String) : Prop :=
  lowerChars first.toList = lowerChars second.toList

section

variable {a : Address} {c : Char} {cs rest pattern sender number : List Char} {entry : String}
  {allow : List String}

/-! ## Printed addresses -/

theorem isSign_of_mem_mark (h : c ∈ a.mark) : IsSign c := by
  rcases Address.mem_mark h with rfl | rfl | hdigit
  · decide
  · decide
  · exact isSign_of_isDigit hdigit

/-- User and server are lower-cased each by itself. -/
theorem lowerChars_text (a : Address) :
    lowerChars a.text.toList =
      lowerChars a.user.toList ++ (a.mark ++ '@' :: lowerAfter ['@'] a.server.toList) := by
  have hat : IsSign '@' := by decide
  have hstop : isCaseIgnorable '@' = false := by decide +kernel
  have hserver (before : List Char) :
      lowerAfter ('@' :: before) a.server.toList = lowerAfter ['@'] a.server.toList := by
    apply lowerAfter_congr
    rw [meetsCased_cons, meetsCased_cons, hstop]
    rfl
  rw [Address.toList_text, lowerChars,
    lowerAfter_append (meetsCased_of_signs (fun c => isSign_of_mem_mark) hat hstop),
    lowerAfter_signs_append fun c => isSign_of_mem_mark, lowerAfter_cons_of_isSign hat, hserver]
  rfl

theorem at_mem_lower_text (a : Address) : '@' ∈ lowerChars a.text.toList := by
  rw [lowerChars_text]
  simp

/-- What follows the user of a printed address begins with a separator. -/
theorem head?_after_user (h : (a.mark ++ '@' :: rest).head? = some c) :
    c = '.' ∨ c = ':' ∨ c = '@' := by
  rw [List.head?_append] at h
  cases hmark : a.mark.head? with
  | none =>
    rw [hmark] at h
    exact .inr (.inr (Option.some.inj h).symm)
  | some d =>
    rw [hmark] at h
    obtain rfl : d = c := Option.some.inj h
    exact (Address.head?_mark hmark).imp_right .inl

theorem userPart_append (hrest : ∀ c, rest.head? = some c → c = '.' ∨ c = ':' ∨ c = '@') :
    userPart (cs ++ rest) = userPart cs := by
  have hstop : rest.takeWhile (fun c => c ≠ '.' ∧ c ≠ ':' ∧ c ≠ '@') = [] := by
    cases rest with
    | nil => rfl
    | cons c rest =>
      apply List.takeWhile_cons_of_neg
      rcases hrest c rfl with rfl | rfl | rfl
      · decide
      · decide
      · decide
  rw [userPart_eq_takeWhile, userPart_eq_takeWhile, List.takeWhile_append, hstop, List.append_nil]
  split
  · rename_i hlength
    exact ((List.takeWhile_prefix _).eq_of_length hlength).symm
  · rfl

theorem userPart_text (a : Address) :
    userPart (lowerChars a.text.toList) = userPart (lowerChars a.user.toList) := by
  rw [lowerChars_text]
  exact userPart_append fun c => head?_after_user

theorem userPart_eq_self_iff : userPart cs = cs ↔ IsBare cs := by
  rw [eq_comm, ← isUserPart_iff]
  exact ⟨IsUserPart.bare, fun h => ⟨List.prefix_rfl, h, fun _ hother _ => hother⟩⟩

theorem lower_text_ne_userPart (a : Address) (cs : List Char) :
    lowerChars a.text.toList ≠ userPart cs := by
  intro h
  exact ((isUserPart_userPart cs).bare _ (h ▸ at_mem_lower_text a)).1 rfl

theorem isBare_iff : IsBare cs ↔ '@' ∉ cs ∧ ':' ∉ cs ∧ '.' ∉ cs := by
  constructor
  · intro h
    exact ⟨fun hm => (h _ hm).1 rfl, fun hm => (h _ hm).2.1 rfl, fun hm => (h _ hm).2.2 rfl⟩
  · rintro ⟨hat, hcolon, hdot⟩ c hc
    exact ⟨fun h => hat (h ▸ hc), fun h => hcolon (h ▸ hc), fun h => hdot (h ▸ hc)⟩

theorem isBare_lowerChars_iff : IsBare (lowerChars cs) ↔ IsBare cs := by
  have sign {m : Char} (hm : IsSign m) : m ∈ lowerChars cs ↔ m ∈ cs := mem_lowerAfter_iff hm
  rw [isBare_iff, isBare_iff, sign (by decide), sign (by decide), sign (by decide)]

theorem isBare_of_isNumber (h : IsNumber cs) : IsBare cs := by
  intro c hc
  have hdigit := h.2 c hc
  refine ⟨?_, ?_, ?_⟩
  · rintro rfl
    exact absurd hdigit (by decide)
  · rintro rfl
    exact absurd hdigit (by decide)
  · rintro rfl
    exact absurd hdigit (by decide)

/-! ## Entries -/

theorem globMatches_of_not_mem (h : '*' ∉ pattern) :
    globMatches pattern sender = true ↔ pattern = sender := by
  rw [globMatches, pieces_of_not_mem h]
  exact decide_eq_true_iff

theorem patternAdmits_iff :
    patternAdmits pattern sender = true ↔
      pattern ≠ [] ∧
        (globMatches pattern sender = true ∨ globMatches pattern (userPart sender) = true) := by
  unfold patternAdmits
  by_cases hempty : pattern = []
  · simp [hempty]
  rw [if_neg hempty]
  by_cases hstar : '*' ∈ pattern
  · have hcontains : pattern.contains '*' = true := by simpa using hstar
    rw [if_pos hcontains, Bool.or_eq_true]
    exact (and_iff_right hempty).symm
  · have hcontains : ¬ pattern.contains '*' = true := by simpa using hstar
    rw [if_neg hcontains, globMatches_of_not_mem hstar, globMatches_of_not_mem hstar,
      Bool.or_eq_true, decide_eq_true_iff, decide_eq_true_iff]
    exact (and_iff_right hempty).symm

theorem admits_iff {sender : String} :
    admits allow sender = true ↔
      allow = [] ∨ ∃ entry ∈ allow,
        patternAdmits (entryPattern entry) (lowerChars sender.toList) = true := by
  unfold admits
  split
  · rename_i hempty
    simp [hempty]
  · rename_i hempty
    rw [List.any_eq_true]
    exact (or_iff_right hempty).symm

theorem admits_singleton_iff {sender : String} :
    admits [entry] sender = true ↔
      patternAdmits (entryPattern entry) (lowerChars sender.toList) = true := by
  rw [admits_iff, or_iff_right (List.cons_ne_nil _ _)]
  simp only [List.mem_singleton, exists_eq_left]

/-- A text without at-sign that is looked for can only be the user part of an address. -/
theorem patternAdmits_text_iff (hstar : '*' ∉ pattern) (hat : '@' ∉ pattern) :
    patternAdmits pattern (lowerChars a.text.toList) = true ↔
      pattern ≠ [] ∧ pattern = userPart (lowerChars a.user.toList) := by
  rw [patternAdmits_iff, globMatches_of_not_mem hstar, globMatches_of_not_mem hstar, userPart_text]
  refine and_congr_right fun _ => or_iff_right ?_
  rintro rfl
  exact hat (at_mem_lower_text a)

theorem entryPattern_of_listsNumber (h : ListsNumber entry number) :
    entryPattern entry = number := by
  obtain ⟨⟨hne, hdigit⟩, before, plus, after, htext, hbefore, hplus, hafter⟩ := h
  have htrimmed : IsTrimmed (plus ++ number) := by
    apply isTrimmed_of_forall
    intro c hc
    rcases List.mem_append.1 hc with hc | hc
    · obtain rfl := hplus c hc
      decide
    · exact isBlank_of_isDigit (hdigit c hc)
  rw [entryPattern, htext, trimChars_append hbefore hafter htrimmed, dropWhile_append_exact]
  · exact lowerChars_of_signs fun c hc => isSign_of_isDigit (hdigit c hc)
  · intro c hc
    exact decide_eq_true (hplus c hc)
  · intro c hc
    have hc := hdigit c (List.mem_of_head? hc)
    apply decide_eq_false
    rintro rfl
    exact absurd hc (by decide)

theorem entryPattern_of_isPlainEntry (h : IsPlainEntry entry) :
    entryPattern entry = lowerChars entry.toList := by
  rw [entryPattern, h.trimmed]
  cases hentry : entry.toList with
  | nil => rfl
  | cons c cs =>
    have hc : c ≠ '+' := by
      rintro rfl
      exact h.noPlus (by rw [hentry]; rfl)
    rw [List.dropWhile_cons_of_neg (by simpa using hc)]

theorem star_mem_of_entryPattern (h : '*' ∈ entryPattern entry) : '*' ∈ entry.toList := by
  have hstripped := (mem_lowerAfter_iff (by decide)).1 h
  exact mem_of_mem_trimChars ((List.dropWhile_sublist _).subset hstripped)

theorem head?_entryPattern (entry : String) : (entryPattern entry).head? ≠ some '+' := by
  intro h
  have hhead := (head?_lowerAfter_iff (by decide)).1 h
  have hnot := List.head?_dropWhile_not (· = '+') (trimChars entry.toList)
  rw [hhead] at hnot
  simp at hnot

/-- A sender that begins with a plus sign is only let in by an entry with a star. -/
theorem star_mem_of_admits_plus {sender : String} (hplus : sender.toList.head? = some '+')
    (h : admits [entry] sender = true) : '*' ∈ entry.toList := by
  by_contra hmem
  have hstar : '*' ∉ entryPattern entry := fun hpattern => hmem (star_mem_of_entryPattern hpattern)
  have hlower : (lowerChars sender.toList).head? = some '+' :=
    (head?_lowerAfter_iff (by decide)).2 hplus
  rw [admits_singleton_iff, patternAdmits_iff, globMatches_of_not_mem hstar,
    globMatches_of_not_mem hstar] at h
  rcases h.2 with hsame | hpart
  · exact head?_entryPattern entry (hsame ▸ hlower)
  · apply head?_entryPattern entry
    obtain ⟨rest, hrest⟩ := List.head?_eq_some_iff.1 hlower
    rw [hpart, hrest, userPart_eq_takeWhile, List.takeWhile_cons_of_pos (by decide)]
    rfl

/-- A plain entry lets in what it is, and what it is the user part of. -/
theorem plain_admits_iff {sender : String} (h : IsPlainEntry entry) :
    admits [entry] sender = true ↔
      SameText entry sender ∨
        IsUserPart (lowerChars sender.toList) (lowerChars entry.toList) := by
  have hstar : '*' ∉ lowerChars entry.toList := fun hmem =>
    h.noStar ((mem_lowerAfter_iff (by decide)).1 hmem)
  have hne : lowerChars entry.toList ≠ [] := fun hnil => h.nonempty (lowerChars_eq_nil_iff.1 hnil)
  rw [admits_singleton_iff, entryPattern_of_isPlainEntry h, patternAdmits_iff,
    globMatches_of_not_mem hstar, globMatches_of_not_mem hstar, isUserPart_iff]
  exact and_iff_right hne

theorem plainEntry_admits_iff (h : IsPlainEntry entry) :
    admits [entry] a.text = true ↔
      SameText entry a.text ∨
        IsUserPart (lowerChars a.user.toList) (lowerChars entry.toList) := by
  rw [plain_admits_iff h, isUserPart_iff, isUserPart_iff, userPart_text]

end

/-! ## Phone numbers -/

/-- A list of phone numbers lets in exactly the addresses whose users it lists, whatever their
agent, device and server. -/
theorem numbers_select_users {allow : List String} {a : Address}
    (huser : IsNumber a.user.toList)
    (hallow : ∀ entry ∈ allow, ∃ number, ListsNumber entry number) :
    admits allow a.text = true ↔
      allow = [] ∨ ∃ entry ∈ allow, ListsNumber entry a.user.toList := by
  have hpart : userPart (lowerChars a.user.toList) = a.user.toList := by
    rw [lowerChars_of_signs fun c hc => isSign_of_isDigit (huser.2 c hc),
      userPart_eq_self_iff.2 (isBare_of_isNumber huser)]
  rw [admits_iff]
  refine or_congr_right (exists_congr fun entry => and_congr_right fun hentry => ?_)
  obtain ⟨number, hnumber⟩ := hallow entry hentry
  have hdigit := hnumber.1.2
  have hstar : '*' ∉ number := fun h => absurd (hdigit _ h) (by decide)
  have hat : '@' ∉ number := fun h => absurd (hdigit _ h) (by decide)
  rw [entryPattern_of_listsNumber hnumber, patternAdmits_text_iff hstar hat, hpart]
  constructor
  · rintro ⟨-, rfl⟩
    exact hnumber
  · intro hlisted
    rw [← entryPattern_of_listsNumber hnumber, entryPattern_of_listsNumber hlisted]
    exact ⟨huser.1, rfl⟩

/-- A number with plus signs before it and blanks around it lets in a device of its user. -/
theorem plusNumber_selects_device :
    IsNumber "15551234567".toList ∧
      (∀ entry ∈ ["49301234", "\u00a0++15551234567 "], ∃ number, ListsNumber entry number) ∧
      admits ["49301234", "\u00a0++15551234567 "]
        (Address.text { user := "15551234567", agent := 1, device := 3, server := "S.net" }) =
          true := by
  have huser : IsNumber "15551234567".toList := ⟨by decide, List.all_eq_true.1 (by decide)⟩
  have hfirst : ListsNumber "49301234" "49301234".toList :=
    ⟨⟨by decide, List.all_eq_true.1 (by decide)⟩, [], [], [], by decide, by simp, by simp, by simp⟩
  have hsecond : ListsNumber "\u00a0++15551234567 " "15551234567".toList :=
    ⟨huser, ['\u00a0'], ['+', '+'], [' '], by decide, List.all_eq_true.1 (by decide), by simp,
      List.all_eq_true.1 (by decide)⟩
  have hallow : ∀ entry ∈ ["49301234", "\u00a0++15551234567 "],
      ∃ number, ListsNumber entry number := by
    intro entry hentry
    rcases List.mem_pair.1 hentry with rfl | rfl
    · exact ⟨_, hfirst⟩
    · exact ⟨_, hsecond⟩
  refine ⟨huser, hallow, (numbers_select_users huser hallow).2 (.inr ⟨_, ?_, hsecond⟩)⟩
  simp

/-! ## Users -/

/-- An entry lets in the addresses that it is, and those whose user begins with it up to the first
separator. So it stands for the user of an address that was read exactly if this user holds neither
dot nor colon, or else the entry is neither the user nor the beginning of it. -/
theorem user_entry_iff {s entry : String} {a : Address} (hparse : Address.parse s = .ok a)
    (hentry : IsPlainEntry entry) :
    (admits [entry] a.text = true ↔
      SameText entry a.text ∨
        IsUserPart (lowerChars a.user.toList) (lowerChars entry.toList)) ∧
    ((admits [entry] a.text = true ↔ SameText entry a.user ∨ SameText entry a.text) ↔
      ('.' ∉ a.user.toList ∧ ':' ∉ a.user.toList) ∨
        ¬ SameText entry a.user ∧
          ¬ IsUserPart (lowerChars a.user.toList) (lowerChars entry.toList)) := by
  have hadmits : admits [entry] a.text = true ↔ _ := plainEntry_admits_iff hentry
  refine ⟨hadmits, ?_⟩
  have hbare : ('.' ∉ a.user.toList ∧ ':' ∉ a.user.toList) ↔
      lowerChars a.user.toList = userPart (lowerChars a.user.toList) := by
    rw [eq_comm, userPart_eq_self_iff, isBare_lowerChars_iff, isBare_iff, and_comm]
    exact (and_iff_right (Address.at_not_mem_user_of_parse hparse)).symm
  have hlonger : lowerChars a.text.toList ≠ lowerChars a.user.toList := by
    rw [lowerChars_text]
    simp
  rw [hadmits, hbare, isUserPart_iff]
  unfold SameText
  constructor
  · intro h
    by_cases hwhole : lowerChars entry.toList = lowerChars a.user.toList
    · left
      rcases h.2 (.inl hwhole) with hsame | hpart
      · exact absurd (hsame.symm.trans hwhole) hlonger
      · exact hwhole.symm.trans hpart
    · refine .inr ⟨hwhole, fun hpart => ?_⟩
      rcases h.1 (.inr hpart) with hsame | hsame
      · exact hwhole hsame
      · exact lower_text_ne_userPart a _ (hsame.symm.trans hpart)
  · rintro (hpart | ⟨hwhole, hpart⟩)
    · rw [← hpart]
      exact or_comm
    · rw [or_iff_left hpart, or_iff_right hwhole]

/-- A user without separators is meant in either case, with a device or without. -/
theorem bareUser_admits_device :
    Address.parse "Ann:7@S.net" =
        .ok { user := "Ann", agent := 0, device := 7, server := "S.net" } ∧
      IsPlainEntry "aNN" ∧
      (admits ["aNN"] (Address.text { user := "Ann", agent := 0, device := 7, server := "S.net" }) =
          true ↔
        SameText "aNN" "Ann" ∨
          SameText "aNN"
            (Address.text { user := "Ann", agent := 0, device := 7, server := "S.net" })) := by
  have hparse : Address.parse "Ann:7@S.net" =
      .ok { user := "Ann", agent := 0, device := 7, server := "S.net" } := by
    decide +kernel
  have hentry : IsPlainEntry "aNN" := ⟨by decide, by decide +kernel, by decide, by decide⟩
  exact ⟨hparse, hentry, (user_entry_iff hparse hentry).2.2 (.inl (by decide))⟩

/-- A dot in a user without agent and device is taken for the beginning of an agent: the user is
locked out by its own entry, and let in by that of another. -/
theorem dottedUser_mistaken :
    ∃ a : Address, Address.parse "first.last@s.whatsapp.net" = .ok a ∧
      (IsPlainEntry "first.last" ∧ SameText "first.last" a.user ∧
        admits ["first.last"] a.text = false) ∧
      IsPlainEntry "first" ∧ ¬ SameText "first" a.user ∧ ¬ SameText "first" a.text ∧
        admits ["first"] a.text = true := by
  have hown : IsPlainEntry "first.last" := ⟨by decide, by decide +kernel, by decide, by decide⟩
  have hother : IsPlainEntry "first" := ⟨by decide, by decide +kernel, by decide, by decide⟩
  refine ⟨{ user := "first.last", agent := 0, device := 0, server := "s.whatsapp.net" },
    by decide +kernel, ⟨hown, rfl, by decide +kernel⟩, hother, ?_, ?_, by decide +kernel⟩
  · unfold SameText
    decide +kernel
  · unfold SameText
    decide +kernel

/-! ## Senders -/

/-- A sender that is listed as it is passes, unless it begins with a plus sign: this is taken off
the entry and not off the sender, who can then only be let in by an entry with a star. -/
theorem listed_sender_admitted_iff {allow : List String} {sender : String}
    (hne : sender.toList ≠ []) (htrim : IsTrimmed sender.toList) (hstar : '*' ∉ sender.toList)
    (hlisted : sender ∈ allow) :
    admits allow sender = true ↔
      sender.toList.head? ≠ some '+' ∨
        ∃ entry ∈ allow, '*' ∈ entry.toList ∧ admits [entry] sender = true := by
  have hany : admits allow sender = true ↔ ∃ entry ∈ allow, admits [entry] sender = true := by
    rw [admits_iff, or_iff_right (List.ne_nil_of_mem hlisted)]
    simp only [admits_singleton_iff]
  rw [hany]
  constructor
  · rintro ⟨entry, hentry, hadmits⟩
    by_cases hplus : sender.toList.head? = some '+'
    · exact .inr ⟨entry, hentry, star_mem_of_admits_plus hplus hadmits, hadmits⟩
    · exact .inl hplus
  · rintro (hplus | ⟨entry, hentry, -, hadmits⟩)
    · have hplain : IsPlainEntry sender := ⟨hne, trimChars_of_isTrimmed htrim, hplus, hstar⟩
      exact ⟨sender, hlisted, (plain_admits_iff hplain).2 (.inl rfl)⟩
    · exact ⟨entry, hentry, hadmits⟩

/-- A sender with a plus sign passes by the end of its number, not by being listed. -/
theorem plusSender_passes_by_glob :
    "+15551234567".toList ≠ [] ∧ IsTrimmed "+15551234567".toList ∧ '*' ∉ "+15551234567".toList ∧
      "+15551234567" ∈ ["+15551234567", "*4567"] ∧
      admits ["+15551234567", "*4567"] "+15551234567" = true := by
  have hne : "+15551234567".toList ≠ [] := by decide
  have htrim : IsTrimmed "+15551234567".toList := isTrimmed_iff.2 (by decide +kernel)
  have hstar : '*' ∉ "+15551234567".toList := by decide
  have hlisted : "+15551234567" ∈ ["+15551234567", "*4567"] := List.mem_cons_self
  refine ⟨hne, htrim, hstar, hlisted, ?_⟩
  refine (listed_sender_admitted_iff hne htrim hstar hlisted).2 (.inr ⟨"*4567", ?_, ?_, ?_⟩)
  · simp
  · decide
  · decide +kernel

/-- A number with a plus sign is kept out by a list that holds it as it is. -/
theorem plusSender_refused :
    "+15551234567".toList ≠ [] ∧ IsTrimmed "+15551234567".toList ∧ '*' ∉ "+15551234567".toList ∧
      "+15551234567" ∈ ["+15551234567"] ∧ admits ["+15551234567"] "+15551234567" = false := by
  have htrim : IsTrimmed "+15551234567".toList := isTrimmed_iff.2 (by decide +kernel)
  exact ⟨by decide, htrim, by decide, List.mem_cons_self, by decide +kernel⟩

end ChatChannel.Gate
