import ChatChannel.Proofs.Address

/-!
# ChatChannel.Proofs.Address.Grammar

Which texts are addresses, and what is said of all others. A text is read as the address that it
spells (`Spells`). If it spells none, it has a fault (`AddressFault.Spoils`), and of its faults the
first one is reported (`AddressFault.IsFirst`).

* `parse_eq_ok_iff_spells`, `parse_eq_error_iff`: both halves for texts as they are read.
* `parses_by_grammar`: the same for destinations, whose errors name the text as it was given.
-/

namespace ChatChannel

open Text

namespace Address

/-- The text spells the address: it has one at-sign, with the server behind it, and before it a user
who may be followed by the decimals of agent and device. -/
def Spells (cs : List Char) (a : Address) : Prop :=
  ∃ front, cs = front ++ '@' :: a.server.toList ∧ '@' ∉ front ∧ '@' ∉ a.server.toList ∧
    a.server.toList ≠ [] ∧ Front a.user.toList a.agent.toNat a.device.toNat front

/-- What follows the last colon is no decimal that a device can have. -/
def DeviceSpoilt (front : List Char) : Prop :=
  ∃ name digits, front = name ++ ':' :: digits ∧ ':' ∉ digits ∧ ¬ ∃ n ≤ 65535, Decimal n digits

/-- What stands between the first dot and the last colon is no decimal that an agent can have. -/
def AgentSpoilt (front : List Char) : Prop :=
  ∃ user digits device, front = (user ++ '.' :: digits) ++ ':' :: device ∧ '.' ∉ user ∧
    ':' ∉ device ∧ ¬ ∃ n ≤ 255, Decimal n digits

end Address

namespace AddressFault

/-- The faults, in the order in which they count. -/
def all : List AddressFault := [.empty, .noAt, .manyAts, .emptyServer, .device, .agent]

/-- The text has the fault. -/
def Spoils (cs : List Char) : AddressFault → Prop
  | .empty => cs = []
  | .noAt => '@' ∉ cs
  | .manyAts => 2 ≤ cs.count '@'
  | .emptyServer => ∃ front, cs = front ++ ['@'] ∧ '@' ∉ front
  | .device =>
    ∃ front server, cs = front ++ '@' :: server ∧ '@' ∉ front ∧ Address.DeviceSpoilt front
  | .agent =>
    ∃ front server, cs = front ++ '@' :: server ∧ '@' ∉ front ∧ Address.AgentSpoilt front

/-- The text has the fault, and none of those that count before it. -/
structure IsFirst (cs : List Char) (fault : AddressFault) : Prop where
  spoils : fault.Spoils cs
  earlier : ∀ g ∈ all.takeWhile (· ≠ fault), ¬ g.Spoils cs

theorem earlier_or (f g : AddressFault) :
    f ∈ all.takeWhile (· ≠ g) ∨ f = g ∨ g ∈ all.takeWhile (· ≠ f) := by
  cases f <;> cases g <;> decide

variable {cs front server : List Char} {f g : AddressFault}

theorem IsFirst.unique (hf : f.IsFirst cs) (hg : g.IsFirst cs) : f = g := by
  rcases earlier_or f g with hearlier | hsame | hlater
  · exact absurd hf.spoils (hg.earlier f hearlier)
  · exact hsame
  · exact absurd hg.spoils (hf.earlier g hlater)

/-- Of the faults of a text with one at-sign, each concerns the part before it or the part behind
it. -/
theorem spoils_pair_iff (hfront : '@' ∉ front) (hserver : '@' ∉ server) :
    f.Spoils (front ++ '@' :: server) ↔
      f = .emptyServer ∧ server = [] ∨ f = .device ∧ Address.DeviceSpoilt front ∨
        f = .agent ∧ Address.AgentSpoilt front := by
  have cut {front' server' : List Char} (hfront' : '@' ∉ front')
      (h : front ++ '@' :: server = front' ++ '@' :: server') :
      front = front' ∧ server = server' := by
    have hcut : cutFirst '@' (front' ++ '@' :: server') = some (front', server') :=
      cutFirst_append hfront'
    rw [← h, cutFirst_append hfront] at hcut
    simpa using hcut
  have hcount : (front ++ '@' :: server).count '@' = 1 := by
    rw [List.count_append, List.count_cons_self, List.count_eq_zero_of_not_mem hfront,
      List.count_eq_zero_of_not_mem hserver]
  cases f with
  | empty => simp [Spoils]
  | noAt => simp [Spoils]
  | manyAts => simp [Spoils, hcount]
  | emptyServer =>
    simp only [Spoils, true_and, reduceCtorEq, false_and, or_false]
    constructor
    · rintro ⟨front', h, hfront'⟩
      exact (cut hfront' h).2
    · rintro rfl
      exact ⟨front, rfl, hfront⟩
  | device =>
    simp only [Spoils, true_and, reduceCtorEq, false_and, or_false, false_or]
    constructor
    · rintro ⟨front', server', h, hfront', hspoilt⟩
      exact (cut hfront' h).1 ▸ hspoilt
    · intro hspoilt
      exact ⟨front, server, rfl, hfront, hspoilt⟩
  | agent =>
    simp only [Spoils, true_and, reduceCtorEq, false_and, false_or]
    constructor
    · rintro ⟨front', server', h, hfront', hspoilt⟩
      exact (cut hfront' h).1 ▸ hspoilt
    · intro hspoilt
      exact ⟨front, server, rfl, hfront, hspoilt⟩

end AddressFault

namespace Address

section

variable {a : Address} {front digits device name : List Char} {server s : String}
  {fault : AddressFault}

/-! ## Refused fronts -/

theorem decimal?_eq_none_iff {bound : Nat} :
    decimal? bound digits = none ↔ ¬ ∃ n < bound, Decimal n digits := by
  rw [Option.eq_none_iff_forall_ne_some]
  constructor
  · rintro h ⟨n, hlt, hn⟩
    exact h n (decimal?_eq_some_iff.2 ⟨hn, hlt⟩)
  · intro h n hn
    obtain ⟨hn, hlt⟩ := decimal?_eq_some_iff.1 hn
    exact h ⟨n, hlt, hn⟩

theorem deviceSpoilt_iff (hcut : cutLast ':' front = some (name, device)) :
    DeviceSpoilt front ↔ decimal? UInt16.size device = none := by
  rw [decimal?_eq_none_iff]
  constructor
  · rintro ⟨name', device', rfl, hcolon, hspoilt⟩
    rw [cutLast_eq_some_iff.2 ⟨rfl, hcolon⟩] at hcut
    cases hcut
    rintro ⟨n, hlt, hn⟩
    exact hspoilt ⟨n, Nat.le_of_lt_succ hlt, hn⟩
  · intro hspoilt
    obtain ⟨hfront, hcolon⟩ := cutLast_eq_some_iff.1 hcut
    refine ⟨name, device, hfront, hcolon, ?_⟩
    rintro ⟨n, hle, hn⟩
    exact hspoilt ⟨n, Nat.lt_succ_of_le hle, hn⟩

theorem agentSpoilt_iff (hcut : cutLast ':' front = some (name, device)) :
    AgentSpoilt front ↔
      ∃ user digits, cutFirst '.' name = some (user, digits) ∧
        decimal? UInt8.size digits = none := by
  constructor
  · rintro ⟨user, digits, device', rfl, hdot, hcolon, hspoilt⟩
    rw [cutLast_eq_some_iff.2 ⟨rfl, hcolon⟩] at hcut
    cases hcut
    refine ⟨user, digits, cutFirst_append hdot, decimal?_eq_none_iff.2 ?_⟩
    rintro ⟨n, hlt, hn⟩
    exact hspoilt ⟨n, Nat.le_of_lt_succ hlt, hn⟩
  · rintro ⟨user, digits, hname, hspoilt⟩
    obtain ⟨rfl, hcolon⟩ := cutLast_eq_some_iff.1 hcut
    obtain ⟨rfl, hdot⟩ := cutFirst_eq_some_iff.1 hname
    refine ⟨user, digits, device, rfl, hdot, hcolon, ?_⟩
    rintro ⟨n, hle, hn⟩
    exact decimal?_eq_none_iff.1 hspoilt ⟨n, Nat.lt_succ_of_le hle, hn⟩

/-- A front is refused for its device, or else for its agent. -/
theorem parseUser_eq_error_iff :
    parseUser front server = .error fault ↔
      fault = .device ∧ DeviceSpoilt front ∨
        fault = .agent ∧ AgentSpoilt front ∧ ¬ DeviceSpoilt front := by
  cases hcut : cutLast ':' front with
  | none =>
    have hcolon : ':' ∉ front := cutLast_eq_none_iff.1 hcut
    have hdevice : ¬ DeviceSpoilt front := by
      rintro ⟨name, digits, rfl, -⟩
      simp at hcolon
    have hagent : ¬ AgentSpoilt front := by
      rintro ⟨user, digits, device, rfl, -⟩
      simp at hcolon
    simp [parseUser, hcut, hdevice, hagent]
  | some cut =>
    obtain ⟨name, device⟩ := cut
    rw [deviceSpoilt_iff hcut, agentSpoilt_iff hcut]
    simp only [parseUser, hcut]
    cases decimal? UInt16.size device with
    | none => simp [eq_comm]
    | some n =>
      cases cutFirst '.' name with
      | none => simp
      | some cut' =>
        obtain ⟨user, digits⟩ := cut'
        cases hread : decimal? UInt8.size digits with
        | none => simp [hread, eq_comm]
        | some m => simp [hread]

/-! ## Texts -/

theorem parse_eq_ok_iff_spells : parse s = .ok a ↔ Spells (trimChars s.toList) a := by
  simp only [parse_eq_ok_iff, parseUser_eq_ok_iff, true_and, Spells]

theorem not_spoils_of_spells {cs : List Char} (h : Spells cs a) (f : AddressFault) :
    ¬ f.Spoils cs := by
  obtain ⟨front, rfl, hfront, hserver, hne, hspelt⟩ := h
  have haccepted : ∀ fault, parseUser front a.server ≠ .error fault := by
    rw [parseUser_eq_ok_iff.2 ⟨rfl, hspelt⟩]
    nofun
  have hdevice : ¬ DeviceSpoilt front :=
    fun h => haccepted .device (parseUser_eq_error_iff.2 (.inl ⟨rfl, h⟩))
  have hagent : ¬ AgentSpoilt front :=
    fun h => haccepted .agent (parseUser_eq_error_iff.2 (.inr ⟨rfl, h, hdevice⟩))
  rw [AddressFault.spoils_pair_iff hfront hserver]
  rintro (⟨-, h⟩ | ⟨-, h⟩ | ⟨-, h⟩)
  · exact hne h
  · exact hdevice h
  · exact hagent h

theorem isFirst_of_parseChars {cs : List Char} (h : parseChars cs = .error fault) :
    fault.IsFirst cs := by
  rw [parseChars] at h
  split at h
  · rename_i hempty
    cases h
    exact ⟨hempty, fun g hg => absurd hg List.not_mem_nil⟩
  rename_i hne
  have hcount := length_pieces '@' cs
  split at h
  · rename_i front server hpieces
    obtain ⟨rfl, hfront, hserver⟩ := pieces_eq_pair_iff.1 hpieces
    have spoils (f : AddressFault) := AddressFault.spoils_pair_iff (f := f) hfront hserver
    split at h
    · rename_i hempty
      cases h
      refine ⟨(spoils _).2 (.inl ⟨rfl, hempty⟩), ?_⟩
      show ∀ g ∈ [AddressFault.empty, .noAt, .manyAts], _
      simp [spoils]
    · rename_i hnonempty
      rcases parseUser_eq_error_iff.1 h with ⟨rfl, hdevice⟩ | ⟨rfl, hagent, hdevice⟩
      · refine ⟨(spoils _).2 (.inr (.inl ⟨rfl, hdevice⟩)), ?_⟩
        show ∀ g ∈ [AddressFault.empty, .noAt, .manyAts, .emptyServer], _
        simp [spoils, hnonempty]
      · refine ⟨(spoils _).2 (.inr (.inr ⟨rfl, hagent⟩)), ?_⟩
        show ∀ g ∈ [AddressFault.empty, .noAt, .manyAts, .emptyServer, .device], _
        simp [spoils, hnonempty, hdevice]
  · rename_i hpieces
    cases h
    rw [hpieces, List.length_cons, List.length_cons, List.length_cons] at hcount
    have hat : '@' ∈ cs := List.count_pos_iff.1 (by omega)
    refine ⟨show 2 ≤ cs.count '@' by omega, ?_⟩
    show ∀ g ∈ [AddressFault.empty, .noAt], _
    simp [AddressFault.Spoils, hne, hat]
  · rename_i hpair hmore
    cases h
    obtain ⟨first, parts, hpieces⟩ := exists_pieces '@' cs
    rcases parts with _ | ⟨second, _ | ⟨third, rest⟩⟩
    · rw [hpieces, List.length_singleton] at hcount
      refine ⟨List.count_eq_zero.1 (by omega), ?_⟩
      show ∀ g ∈ [AddressFault.empty], _
      simp [AddressFault.Spoils, hne]
    · exact absurd hpieces (hpair first second)
    · exact absurd hpieces (hmore first second third rest)

theorem parse_eq_error_iff : parse s = .error fault ↔ fault.IsFirst (trimChars s.toList) := by
  refine ⟨isFirst_of_parseChars, fun h => ?_⟩
  cases hparse : parse s with
  | ok a => exact absurd h.spoils (not_spoils_of_spells (parse_eq_ok_iff_spells.1 hparse) fault)
  | error f => rw [(isFirst_of_parseChars hparse).unique h]

end

/-- A text is read as the address that its trimmed form spells. If it spells none, the error names
the text as it was given, and the first of its faults. -/
theorem parses_by_grammar (s : String) :
    (∀ a, parseTarget s = .ok a ↔ Spells (trimChars s.toList) a) ∧
      ∀ error, parseTarget s = .error error ↔
        ∃ fault : AddressFault, fault.IsFirst (trimChars s.toList) ∧
          error = .invalidAddress s fault.reason := by
  simp only [← parse_eq_ok_iff_spells, ← parse_eq_error_iff, parseTarget]
  cases parse s with
  | ok a => simp
  | error fault => simp [eq_comm]

-- Device and agent are both too large; the device counts first.
example : parseTarget " 1.300:70000@s" =
    .error (.invalidAddress " 1.300:70000@s" "device is not a number") := by
  decide +kernel

end Address

end ChatChannel
