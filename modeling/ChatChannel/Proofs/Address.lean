import ChatChannel.Address
import ChatChannel.Proofs.Text.Pieces

/-!
# ChatChannel.Proofs.Address

What printing an address and reading it again does. A printed address is its user, a mark for agent
and device, and the server behind the at-sign. Reading cuts the mark off again by its separators, so
it depends on the user what comes back:

* `decimal?_eq_some_iff`, `parseUser_eq_ok_iff`: what is read as a number, and what as the part
  before the at-sign, whoever wrote it.
* `parseUser_mark`: user and mark are told apart if the user of a marked address holds no dot, and
  that of an unmarked one no colon.
* `parseUser_inv`: the users that are read hold no dot if there was a mark.
* `reads_back_iff`: hence what was read comes back, unless its device was written as zero behind a
  user with a colon, since zeros are not printed.
* `reads_back_iff_isLegible`: of all addresses that can be put together, those come back that are
  legible.
-/

namespace ChatChannel.Address

open Text

/-- What the printed address has between user and server. -/
def mark (a : Address) : List Char :=
  (if a.agent = 0 then [] else '.' :: Nat.toDigits 10 a.agent.toNat) ++
    if a.agent = 0 ∧ a.device = 0 then [] else ':' :: Nat.toDigits 10 a.device.toNat

/-- What keeps the parts of an address apart in its printed form: no blank at either end, which
would be trimmed away, no at-sign but the one that is printed, and in the user no colon or dot that
would be taken for the beginning of the mark. -/
structure IsLegible (a : Address) : Prop where
  serverNonempty : a.server.toList ≠ []
  serverEnd : ∀ c, a.server.toList.getLast? = some c → isBlank c = false
  serverNoAt : '@' ∉ a.server.toList
  userNoAt : '@' ∉ a.user.toList
  userStart : ∀ c, a.user.toList.head? = some c → isBlank c = false
  unmarked : a.agent = 0 ∧ a.device = 0 → ':' ∉ a.user.toList
  marked : ¬ (a.agent = 0 ∧ a.device = 0) → '.' ∉ a.user.toList

section

variable {a : Address} {c : Char} {cs front user digits : List Char} {server s : String}
  {bound n : Nat}

/-! ## Printing -/

theorem toList_text (a : Address) :
    a.text.toList = a.user.toList ++ (a.mark ++ '@' :: a.server.toList) := by
  unfold text mark
  by_cases hagent : a.agent = 0
  · by_cases hdevice : a.device = 0
    · simp [hagent, hdevice]
    · simp [hagent, hdevice, Nat.toString_eq_repr]
  · simp [hagent, Nat.toString_eq_repr]

theorem mark_eq_nil_iff : a.mark = [] ↔ a.agent = 0 ∧ a.device = 0 := by
  unfold mark
  by_cases hagent : a.agent = 0
  · by_cases hdevice : a.device = 0
    · simp [hagent, hdevice]
    · simp [hagent, hdevice]
  · simp [hagent]

theorem mem_mark (h : c ∈ a.mark) : c = '.' ∨ c = ':' ∨ c.isDigit = true := by
  have digit (n : Nat) (hc : c ∈ Nat.toDigits 10 n) : c.isDigit = true :=
    Nat.isDigit_of_mem_toDigits (by decide) (by decide) hc
  rcases List.mem_append.1 h with hagent | hdevice
  · split at hagent
    · cases hagent
    · rcases List.mem_cons.1 hagent with rfl | hc
      · exact .inl rfl
      · exact .inr (.inr (digit _ hc))
  · split at hdevice
    · cases hdevice
    · rcases List.mem_cons.1 hdevice with rfl | hc
      · exact .inr (.inl rfl)
      · exact .inr (.inr (digit _ hc))

theorem at_not_mem_mark (a : Address) : '@' ∉ a.mark := by
  intro h
  rcases mem_mark h with hc | hc | hc
  · exact absurd hc (by decide)
  · exact absurd hc (by decide)
  · exact absurd hc (by decide)

theorem head?_mark (h : a.mark.head? = some c) : c = '.' ∨ c = ':' := by
  unfold mark at h
  by_cases hagent : a.agent = 0
  · by_cases hdevice : a.device = 0
    · simp [hagent, hdevice] at h
    · right
      simpa [hagent, hdevice, eq_comm] using h
  · left
    simpa [hagent, eq_comm] using h

/-! ## Numbers -/

/-- A decimal of `n`: a plus sign at most, any number of zeros, and the digits of `n`. -/
inductive Decimal (n : Nat) : List Char → Prop where
  | plain (zeros : Nat) : Decimal n (List.replicate zeros '0' ++ Nat.toDigits 10 n)
  | signed (zeros : Nat) : Decimal n ('+' :: (List.replicate zeros '0' ++ Nat.toDigits 10 n))

/-- A digit stands for a number below ten, of which it is the only digit. -/
theorem toDigits_of_isDigit (h : c.isDigit = true) :
    c.toNat - '0'.toNat < 10 ∧ Nat.toDigits 10 (c.toNat - '0'.toNat) = [c] := by
  obtain ⟨h0, h9⟩ := Char.isDigit_iff_toNat.1 h
  have hzero : '0'.toNat = 48 := rfl
  have hnine : '9'.toNat = 57 := rfl
  have hlt : c.toNat - '0'.toNat < 10 := by omega
  have hdigit : Nat.digitChar (c.toNat - '0'.toNat) = c := by
    apply Char.toNat_inj.1
    rw [Nat.toNat_digitChar_of_lt_ten hlt]
    omega
  exact ⟨hlt, by rw [Nat.toDigits_of_lt_base hlt, hdigit]⟩

/-- Digits are those of the number that they stand for, behind zeros. -/
theorem exists_zeros (hne : digits ≠ []) (h : ∀ c ∈ digits, c.isDigit = true) :
    ∃ zeros, digits =
      List.replicate zeros '0' ++ Nat.toDigits 10 (Nat.ofDigitChars 10 digits 0) := by
  induction digits using List.reverseRecOn with
  | nil => exact absurd rfl hne
  | append_singleton front c ih =>
    obtain ⟨hfront, hc⟩ := List.forall_mem_append.1 h
    obtain ⟨hlt, hdigit⟩ := toDigits_of_isDigit (hc c List.mem_cons_self)
    rw [Nat.ofDigitChars_append, Nat.ofDigitChars_cons, Nat.ofDigitChars_nil]
    by_cases hnil : front = []
    · subst hnil
      refine ⟨0, ?_⟩
      rw [Nat.ofDigitChars_nil, Nat.mul_zero, Nat.zero_add, hdigit]
      rfl
    · obtain ⟨zeros, hzeros⟩ := ih hnil hfront
      rcases Nat.eq_zero_or_pos (Nat.ofDigitChars 10 front 0) with hzero | hpos
      · -- All digits so far are zeros, and the last of them is no longer the only one of a zero.
        rw [hzero, Nat.toDigits_zero] at hzeros
        refine ⟨zeros + 1, ?_⟩
        rw [hzero, Nat.mul_zero, Nat.zero_add, hdigit, List.replicate_succ', ← hzeros]
      · refine ⟨zeros, ?_⟩
        rw [← Nat.toDigits_append_toDigits (by decide) hpos hlt, hdigit, ← List.append_assoc,
          ← hzeros]

theorem eq_decimalDigits_or (cs : List Char) :
    cs = decimalDigits cs ∨ cs = '+' :: decimalDigits cs := by
  unfold decimalDigits
  split
  · exact .inr rfl
  · exact .inl rfl

theorem decimalDigits_of_isDigit (h : ∀ c ∈ digits, c.isDigit = true) :
    decimalDigits digits = digits := by
  unfold decimalDigits
  split
  · have hplus := h '+' List.mem_cons_self
    exact absurd hplus (by decide)
  · rfl

theorem isDigit_of_mem_zeros {zeros : Nat}
    (h : c ∈ List.replicate zeros '0' ++ Nat.toDigits 10 n) : c.isDigit = true := by
  rcases List.mem_append.1 h with hzero | hdigit
  · rw [List.eq_of_mem_replicate hzero]
    decide
  · exact Nat.isDigit_of_mem_toDigits (by decide) (by decide) hdigit

theorem Decimal.decimalDigits (h : Decimal n cs) :
    ∃ zeros, Address.decimalDigits cs = List.replicate zeros '0' ++ Nat.toDigits 10 n := by
  cases h with
  | plain zeros => exact ⟨zeros, decimalDigits_of_isDigit fun c => isDigit_of_mem_zeros⟩
  | signed zeros => exact ⟨zeros, rfl⟩

theorem Decimal.mem (h : Decimal n cs) (hc : c ∈ cs) : c = '+' ∨ c.isDigit = true := by
  cases h with
  | plain zeros => exact .inr (isDigit_of_mem_zeros hc)
  | signed zeros => exact (List.mem_cons.1 hc).imp_right isDigit_of_mem_zeros

/-- A decimal has at least one digit, and its number is that of its digits. -/
theorem decimal_iff :
    Decimal n cs ↔ decimalDigits cs ≠ [] ∧ (∀ c ∈ decimalDigits cs, c.isDigit = true) ∧
      Nat.ofDigitChars 10 (decimalDigits cs) 0 = n := by
  constructor
  · intro h
    obtain ⟨zeros, hzeros⟩ := h.decimalDigits
    rw [hzeros]
    refine ⟨by simp [Nat.toDigits_ne_nil], fun c => isDigit_of_mem_zeros, ?_⟩
    rw [Nat.ofDigitChars_append, Nat.ofDigitChars_replicate_zero, Nat.mul_zero,
      Nat.ofDigitChars_ten_toDigits]
  · rintro ⟨hne, hall, rfl⟩
    obtain ⟨zeros, hzeros⟩ := exists_zeros hne hall
    have of_zeros {digits : List Char} {n : Nat}
        (h : digits = List.replicate zeros '0' ++ Nat.toDigits 10 n) :
        Decimal n digits ∧ Decimal n ('+' :: digits) := by
      subst h
      exact ⟨.plain zeros, .signed zeros⟩
    obtain ⟨hplain, hsigned⟩ := of_zeros hzeros
    rcases eq_decimalDigits_or cs with hcs | hcs
    · exact hcs ▸ hplain
    · exact hcs ▸ hsigned

/-- The decimals of numbers below the bound are read, and nothing else. -/
theorem decimal?_eq_some_iff : decimal? bound cs = some n ↔ Decimal n cs ∧ n < bound := by
  have hvalue : (decimalDigits cs).foldl (fun n c => 10 * n + (c.toNat - '0'.toNat)) 0 =
      Nat.ofDigitChars 10 (decimalDigits cs) 0 := Nat.ofDigitChars_eq_foldl.symm
  rw [decimal_iff, decimal?]
  dsimp only
  rw [hvalue]
  constructor
  · intro h
    split at h
    · cases h
    · rename_i hdigits
      split at h
      · rename_i hlt
        cases h
        simp only [Bool.or_eq_true, decide_eq_true_eq, Bool.not_eq_true', not_or,
          Bool.not_eq_false, List.all_eq_true] at hdigits
        exact ⟨⟨hdigits.1, hdigits.2, rfl⟩, hlt⟩
      · cases h
  · rintro ⟨⟨hne, hall, rfl⟩, hlt⟩
    simp [hne, List.all_eq_true.2 hall, hlt]

/-! ## Reading -/

/-- What stands before the at-sign of an address: a user, with the decimals of a device, or of an
agent and a device, if these are given. -/
inductive Front (user : List Char) : (agent device : Nat) → List Char → Prop where
  | account (hcolon : ':' ∉ user) : Front user 0 0 user
  | device {device : Nat} {digits : List Char} (hdot : '.' ∉ user)
      (hdevice : Decimal device digits) : Front user 0 device (user ++ ':' :: digits)
  | agent {agent device : Nat} {digits digits' : List Char} (hdot : '.' ∉ user)
      (hagent : Decimal agent digits) (hdevice : Decimal device digits') :
      Front user agent device (user ++ '.' :: (digits ++ ':' :: digits'))

theorem parseUser_of_front {agent device : Nat} (h : Front user agent device front)
    (hagent : agent < UInt8.size) (hdevice : device < UInt16.size) :
    parseUser front server =
      .ok ⟨String.ofList user, UInt8.ofNat agent, UInt16.ofNat device, server⟩ := by
  -- The colon before the digits is the last one.
  have cut {n : Nat} {digits : List Char} (hdigits : Decimal n digits) (name : List Char) :
      cutLast ':' (name ++ ':' :: digits) = some (name, digits) := by
    refine cutLast_eq_some_iff.2 ⟨rfl, fun hmem => ?_⟩
    rcases hdigits.mem hmem with hc | hc
    · exact absurd hc (by decide)
    · exact absurd hc (by decide)
  cases h with
  | account hcolon => rw [parseUser, cutLast_eq_none_iff.2 hcolon]; rfl
  | device hdot hdigits =>
    have hread := decimal?_eq_some_iff.2 ⟨hdigits, hdevice⟩
    simp only [parseUser, cut hdigits, hread, cutFirst_of_not_mem hdot]
    rfl
  | @agent _ _ digits digits' hdot hdigits hdigits' =>
    have hread := decimal?_eq_some_iff.2 ⟨hdigits, hagent⟩
    have hread' := decimal?_eq_some_iff.2 ⟨hdigits', hdevice⟩
    have hshape : user ++ '.' :: (digits ++ ':' :: digits') =
        (user ++ '.' :: digits) ++ ':' :: digits' := by
      rw [List.append_assoc, List.cons_append]
    simp only [parseUser, hshape, cut hdigits', hread', cutFirst_append hdot, hread]

theorem front_of_parseUser (h : parseUser front server = .ok a) :
    a.server = server ∧ Front a.user.toList a.agent.toNat a.device.toNat front := by
  rw [parseUser] at h
  split at h
  · rename_i hcut
    cases h
    refine ⟨rfl, ?_⟩
    rw [ofAccount, String.toList_ofList]
    exact .account (cutLast_eq_none_iff.1 hcut)
  · rename_i name digits' hcut
    obtain ⟨rfl, -⟩ := cutLast_eq_some_iff.1 hcut
    split at h
    · cases h
    · rename_i device hread'
      obtain ⟨hdigits', hdevice⟩ := decimal?_eq_some_iff.1 hread'
      split at h
      · rename_i hname
        cases h
        refine ⟨rfl, ?_⟩
        rw [String.toList_ofList, UInt16.toNat_ofNat_of_lt' hdevice]
        exact .device (cutFirst_eq_none_iff.1 hname) hdigits'
      · rename_i user digits hname
        obtain ⟨rfl, hdot⟩ := cutFirst_eq_some_iff.1 hname
        split at h
        · cases h
        · rename_i agent hread
          obtain ⟨hdigits, hagent⟩ := decimal?_eq_some_iff.1 hread
          cases h
          refine ⟨rfl, ?_⟩
          rw [String.toList_ofList, UInt16.toNat_ofNat_of_lt' hdevice,
            UInt8.toNat_ofNat_of_lt' hagent, List.append_assoc, List.cons_append]
          exact .agent hdot hdigits hdigits'

/-- The fronts of the address are read, and nothing else. -/
theorem parseUser_eq_ok_iff :
    parseUser front server = .ok a ↔
      a.server = server ∧ Front a.user.toList a.agent.toNat a.device.toNat front := by
  refine ⟨front_of_parseUser, ?_⟩
  rintro ⟨rfl, h⟩
  rw [parseUser_of_front h a.agent.toNat_lt a.device.toNat_lt, String.ofList_toList,
    UInt8.ofNat_toNat, UInt16.ofNat_toNat]

theorem front_mark (hcolon : a.mark = [] → ':' ∉ a.user.toList)
    (hdot : a.mark ≠ [] → '.' ∉ a.user.toList) :
    Front a.user.toList a.agent.toNat a.device.toNat (a.user.toList ++ a.mark) := by
  have digits (n : Nat) : Decimal n (Nat.toDigits 10 n) := .plain 0
  by_cases hagent : a.agent = 0
  · by_cases hdevice : a.device = 0
    · have hmark : a.mark = [] := mark_eq_nil_iff.2 ⟨hagent, hdevice⟩
      rw [hmark, List.append_nil, hagent, hdevice]
      exact .account (hcolon hmark)
    · have hmark : a.mark = ':' :: Nat.toDigits 10 a.device.toNat := by
        simp [mark, hagent, hdevice]
      rw [hmark, hagent]
      exact .device (hdot (by simp [hmark])) (digits _)
  · have hmark : a.mark =
        '.' :: (Nat.toDigits 10 a.agent.toNat ++ ':' :: Nat.toDigits 10 a.device.toNat) := by
      simp [mark, hagent]
    rw [hmark]
    exact .agent (hdot (by simp [hmark])) (digits _) (digits _)

/-- User and mark are told apart again. -/
theorem parseUser_mark (hcolon : a.mark = [] → ':' ∉ a.user.toList)
    (hdot : a.mark ≠ [] → '.' ∉ a.user.toList) :
    parseUser (a.user.toList ++ a.mark) a.server = .ok a :=
  parseUser_eq_ok_iff.2 ⟨rfl, front_mark hcolon hdot⟩

/-- What is read is an account, of which nothing was cut off, or it has less than the text before
the at-sign as its user, and no dot in it. -/
theorem parseUser_inv (h : parseUser user server = .ok a) :
    a.server = server ∧
      (':' ∉ user ∧ a = ofAccount (String.ofList user) server ∨
        ∃ c rest, user = a.user.toList ++ c :: rest ∧ '.' ∉ a.user.toList) := by
  obtain ⟨name, agent, device, host⟩ := a
  obtain ⟨hserver, hfront⟩ := parseUser_eq_ok_iff.1 h
  refine ⟨hserver, ?_⟩
  generalize hagent : agent.toNat = m at hfront
  generalize hdevice : device.toNat = n at hfront
  cases hfront with
  | account hcolon =>
    obtain rfl : agent = 0 := UInt8.toNat_inj.1 hagent
    obtain rfl : device = 0 := UInt16.toNat_inj.1 hdevice
    refine .inl ⟨hcolon, ?_⟩
    rw [String.ofList_toList, ← hserver]
    rfl
  | device hdot _ => exact .inr ⟨':', _, rfl, hdot⟩
  | agent hdot _ _ => exact .inr ⟨'.', _, rfl, hdot⟩

theorem parseUser_mark_iff :
    parseUser (a.user.toList ++ a.mark) a.server = .ok a ↔
      (a.mark = [] → ':' ∉ a.user.toList) ∧ (a.mark ≠ [] → '.' ∉ a.user.toList) := by
  constructor
  · intro h
    rcases (parseUser_inv h).2 with ⟨hcolon, ha⟩ | ⟨c, rest, hlonger, hdot⟩
    · have hmark : a.mark = [] := ha ▸ rfl
      rw [hmark, List.append_nil] at hcolon
      exact ⟨fun _ => hcolon, fun hne => absurd hmark hne⟩
    · have hmark : a.mark = c :: rest := List.append_cancel_left hlonger
      exact ⟨fun hnil => absurd (hmark ▸ hnil) (List.cons_ne_nil c rest), fun _ => hdot⟩
  · rintro ⟨hcolon, hdot⟩
    exact parseUser_mark hcolon hdot

theorem user_prefix_of_parseUser (h : parseUser user server = .ok a) : a.user.toList <+: user := by
  rcases (parseUser_inv h).2 with ⟨-, ha⟩ | ⟨c, rest, huser, -⟩
  · exact ⟨[], by rw [List.append_nil, ha, ofAccount, String.toList_ofList]⟩
  · exact ⟨c :: rest, huser.symm⟩

/-- What is read stands before and behind the only at-sign of the trimmed text. -/
theorem parse_eq_ok_iff :
    parse s = .ok a ↔
      ∃ user, trimChars s.toList = user ++ '@' :: a.server.toList ∧ '@' ∉ user ∧
        '@' ∉ a.server.toList ∧ a.server.toList ≠ [] ∧ parseUser user a.server = .ok a := by
  rw [parse]
  constructor
  · intro h
    rw [parseChars] at h
    split at h
    · cases h
    split at h
    · rename_i user server hpieces
      split at h
      · cases h
      · rename_i hne
        obtain ⟨htext, huser, hserver⟩ := pieces_eq_pair_iff.1 hpieces
        have hback : a.server.toList = server := by
          rw [(parseUser_inv h).1, String.toList_ofList]
        rw [hback]
        refine ⟨user, htext, huser, hserver, hne, ?_⟩
        rwa [(parseUser_inv h).1]
    · cases h
    · cases h
  · rintro ⟨user, htext, huser, hserver, hne, hread⟩
    have hpieces : pieces '@' (trimChars s.toList) = [user, a.server.toList] :=
      pieces_eq_pair_iff.2 ⟨htext, huser, hserver⟩
    have hfull : trimChars s.toList ≠ [] := by simp [htext]
    simp only [parseChars, if_neg hfull, hpieces, if_neg hne, String.ofList_toList, hread]

theorem at_not_mem_user_of_parse (h : parse s = .ok a) : '@' ∉ a.user.toList := by
  obtain ⟨user, -, huser, -, -, hread⟩ := parse_eq_ok_iff.1 h
  exact fun hmem => huser ((user_prefix_of_parseUser hread).subset hmem)

/-! ## Accounts -/

theorem account_eq_iff {b : Address} :
    a.account = b.account ↔ a.user = b.user ∧ a.server = b.server := by
  simp [account, ofAccount]

/-- The marks of two devices differ. -/
theorem mark_inj {b : Address} : a.mark = b.mark ↔ a.agent = b.agent ∧ a.device = b.device := by
  constructor
  · intro h
    -- A mark behind an empty user is read back.
    have read (c : Address) :
        parseUser c.mark "" =
          .ok { user := "", agent := c.agent, device := c.device, server := "" } :=
      @parseUser_mark ⟨"", c.agent, c.device, ""⟩ (by simp) (by simp)
    have hsame := (read a).symm.trans (h ▸ read b)
    simpa using hsame
  · rintro ⟨hagent, hdevice⟩
    rw [mark, mark, hagent, hdevice]

/-! ## Reading what was printed -/

theorem isTrimmed_text (hhead : ∀ c, a.user.toList.head? = some c → isBlank c = false)
    (hlast : ∀ c, a.server.toList.getLast? = some c → isBlank c = false)
    (hne : a.server.toList ≠ []) : IsTrimmed a.text.toList := by
  rw [toList_text]
  constructor
  · intro c hc
    cases huser : a.user.toList with
    | cons d rest =>
      rw [huser] at hc
      exact hhead c (huser ▸ hc)
    | nil =>
      rw [huser, List.nil_append, List.head?_append] at hc
      cases hmark : a.mark.head? with
      | none =>
        rw [hmark] at hc
        cases hc
        decide
      | some d =>
        rw [hmark] at hc
        cases hc
        rcases head?_mark hmark with rfl | rfl
        · decide
        · decide
  · intro c hc
    obtain ⟨d, hd⟩ := Option.ne_none_iff_exists'.1 (mt List.getLast?_eq_none_iff.1 hne)
    have hlast' : (a.user.toList ++ (a.mark ++ '@' :: a.server.toList)).getLast? = some d := by
      rw [List.getLast?_append, List.getLast?_append, List.getLast?_cons, hd]
      rfl
    rw [hlast'] at hc
    exact hlast c (hc ▸ hd)

theorem isTrimmed_text_iff (hne : a.server.toList ≠ []) :
    IsTrimmed a.text.toList ↔
      (∀ c, a.user.toList.head? = some c → isBlank c = false) ∧
        ∀ c, a.server.toList.getLast? = some c → isBlank c = false := by
  constructor
  · intro htrim
    rw [toList_text] at htrim
    constructor
    · intro c hc
      apply htrim.head
      rw [List.head?_append, hc]
      rfl
    · intro c hc
      apply htrim.last
      rw [List.getLast?_append, List.getLast?_append, List.getLast?_cons, hc]
      rfl
  · rintro ⟨hhead, hlast⟩
    exact isTrimmed_text hhead hlast hne

/-- What was read is printed as a trimmed text. -/
theorem isTrimmed_text_of_parse (h : parse s = .ok a) : IsTrimmed a.text.toList := by
  obtain ⟨user, htext, -, -, hne, hread⟩ := parse_eq_ok_iff.1 h
  have htrim : IsTrimmed (user ++ '@' :: a.server.toList) := htext ▸ isTrimmed_trimChars _
  obtain ⟨rest, huser⟩ := user_prefix_of_parseUser hread
  apply isTrimmed_text _ _ hne
  · intro c hc
    apply htrim.head
    rw [← huser, List.append_assoc, List.head?_append, hc]
    rfl
  · intro c hc
    apply htrim.last
    rw [List.getLast?_append, List.getLast?_cons, hc]
    rfl

/-- A printed address is read back if nothing is trimmed away from it, its only at-sign is the one
before the server, and what stands before it is read as user and mark. -/
theorem parse_text_iff :
    parse a.text = .ok a ↔
      IsTrimmed a.text.toList ∧ '@' ∉ a.user.toList ∧ '@' ∉ a.server.toList ∧
        a.server.toList ≠ [] ∧ parseUser (a.user.toList ++ a.mark) a.server = .ok a := by
  constructor
  · intro h
    have htrim := isTrimmed_text_of_parse h
    obtain ⟨user, htext, -, hserver, hne, hread⟩ := parse_eq_ok_iff.1 h
    rw [trimChars_of_isTrimmed htrim, toList_text, ← List.append_assoc] at htext
    obtain rfl : a.user.toList ++ a.mark = user := List.append_cancel_right htext
    exact ⟨htrim, at_not_mem_user_of_parse h, hserver, hne, hread⟩
  · rintro ⟨htrim, huser, hserver, hne, hread⟩
    refine parse_eq_ok_iff.2 ⟨a.user.toList ++ a.mark, ?_, ?_, hserver, hne, hread⟩
    · rw [trimChars_of_isTrimmed htrim, toList_text, List.append_assoc]
    · rw [List.mem_append, not_or]
      exact ⟨huser, at_not_mem_mark a⟩

end

/-- An address that was read from a text comes back from its printed form, unless it has neither
agent nor device and its user holds a colon. -/
theorem reads_back_iff {s : String} {a : Address} (h : parse s = .ok a) :
    parse a.text = .ok a ↔ ¬ (a.agent = 0 ∧ a.device = 0 ∧ ':' ∈ a.user.toList) := by
  obtain ⟨user, -, -, hserver, hne, hread⟩ := parse_eq_ok_iff.1 h
  have htrim : trimChars a.text.toList = a.text.toList :=
    trimChars_of_isTrimmed (isTrimmed_text_of_parse h)
  constructor
  · rintro hback ⟨hagent, hdevice, hcolon⟩
    obtain ⟨front, hfront, -, -, -, hagain⟩ := parse_eq_ok_iff.1 hback
    rw [htrim, toList_text, mark_eq_nil_iff.2 ⟨hagent, hdevice⟩, List.nil_append] at hfront
    obtain rfl : a.user.toList = front := List.append_cancel_right hfront
    rcases (parseUser_inv hagain).2 with ⟨hnone, -⟩ | ⟨c, rest, hshort, -⟩
    · exact hnone hcolon
    · simp at hshort
  · intro hcond
    have hat : '@' ∉ a.user.toList ++ a.mark := by
      rw [List.mem_append, not_or]
      exact ⟨at_not_mem_user_of_parse h, at_not_mem_mark a⟩
    refine parse_eq_ok_iff.2 ⟨a.user.toList ++ a.mark, ?_, hat, hserver, hne, ?_⟩
    · rw [htrim, toList_text, List.append_assoc]
    · apply parseUser_mark
      · intro hmark hcolon
        obtain ⟨hagent, hdevice⟩ := mark_eq_nil_iff.1 hmark
        exact hcond ⟨hagent, hdevice, hcolon⟩
      · intro hmark
        rcases (parseUser_inv hread).2 with ⟨-, ha⟩ | ⟨-, -, -, hdot⟩
        · exact absurd (ha ▸ rfl) hmark
        · exact hdot

/-- Agent and device keep their place behind a user with a colon, however they were written. -/
theorem colonUser_reads_back :
    parse " 1555:1.2:+07@s.whatsapp.net" =
        .ok { user := "1555:1", agent := 2, device := 7, server := "s.whatsapp.net" } ∧
      parse (text { user := "1555:1", agent := 2, device := 7, server := "s.whatsapp.net" }) =
        .ok { user := "1555:1", agent := 2, device := 7, server := "s.whatsapp.net" } := by
  have hparse : parse " 1555:1.2:+07@s.whatsapp.net" =
      .ok { user := "1555:1", agent := 2, device := 7, server := "s.whatsapp.net" } := by
    decide +kernel
  exact ⟨hparse, (reads_back_iff hparse).2 (by decide)⟩

/-- A device written as zero is not printed, and then a part of the user is taken for a device: what
comes back is the address of another account. -/
theorem zeroDevice_reads_back_otherwise :
    ∃ a : Address, parse "15551234567:1:0@s.whatsapp.net" = .ok a ∧
      parse a.text =
        .ok { user := "15551234567", agent := 0, device := 1, server := "s.whatsapp.net" } ∧
      parse a.text ≠ .ok a := by
  refine ⟨{ user := "15551234567:1", agent := 0, device := 0, server := "s.whatsapp.net" }, ?_⟩
  decide +kernel

/-- An address, whatever it was put together from, comes back from its printed form exactly if it is
legible. -/
theorem reads_back_iff_isLegible (a : Address) : parse a.text = .ok a ↔ IsLegible a := by
  simp only [parse_text_iff, parseUser_mark_iff, ne_eq, mark_eq_nil_iff]
  constructor
  · rintro ⟨htrim, huser, hserver, hne, hcolon, hdot⟩
    obtain ⟨hstart, hend⟩ := (isTrimmed_text_iff hne).1 htrim
    exact ⟨hne, hend, hserver, huser, hstart, hcolon, hdot⟩
  · intro h
    have htrim := (isTrimmed_text_iff h.serverNonempty).2 ⟨h.userStart, h.serverEnd⟩
    exact ⟨htrim, h.userNoAt, h.serverNoAt, h.serverNonempty, h.unmarked, h.marked⟩

end ChatChannel.Address
