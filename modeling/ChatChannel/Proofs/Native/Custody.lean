import ChatChannel.Proofs.Native.Books

/-!
# ChatChannel.Proofs.Native.Custody

What a native channel does with its clients, if starts and stops come one after the other. There is
at most one client at a time that is not disconnected; the start that has opened it brings it into
use or disconnects it, and the next start or stop that does anything at all takes it from there.

* `custody_of_deal`: where the one start or stop in flight is with held client and dispatcher.
* `conduct_of_deal`: what clients were asked for, in order (`lifecycle`).
* `account_of_deal`: what a call has done so far to the clients that there were at its begin.
* `clients_kept_in_order`: all of it, for every run.
-/

namespace ChatChannel.Native

/-- What a client is asked for from its opening on. One without an account is asked for a pairing
channel before it may be asked to connect; `texts` are sent while it is connected. -/
def lifecycle (own : Option Address) (connects : Bool) (texts : List (Address × String))
    (leaves : Bool) : List ClientCall :=
  .addHandler :: ((if own.isNone then [.pairingChannel] else []) ++
    (if connects then .connect :: texts.map fun x => .sendText x.1 x.2 else []) ++
    (if leaves then [.disconnect] else []))

/-- The account of the client that an operation opens. -/
def Operation.opens : Operation → Answer → List (Option Address)
  | .start _ .opening, .opened own => [own]
  | _, _ => []

/-- The accounts of the clients that a move opens. -/
def openings (s : State) : Move → List (Option Address)
  | .resume i answer =>
    match s.operations[i]? with
    | some o => o.opens answer
    | none => []
  | _ => []

/-- The clients with these accounts were opened, and asked for what they may be asked for. -/
structure Conduct (owns : List (Option Address)) (b : Books) : Prop where
  opened : b.opened = owns.length
  unknown : ∀ c, owns.length ≤ c → b.callsOf c = []
  calls : ∀ c own, owns[c]? = some own →
    ∃ connects texts leaves, b.callsOf c = lifecycle own connects texts leaves

/-- The client is being used, and was asked to connect or not. -/
def InUse (owns : List (Option Address)) (b : Books) (connects : Bool) (c : Nat) : Prop :=
  ∃ own texts, owns[c]? = some own ∧ b.callsOf c = lifecycle own connects texts false ∧
    (connects = false → texts = [])

/-- Where an operation is with the held client and the dispatcher, if no other one interferes. -/
def Placed (b : Books) : Operation → Prop
  | .start _ .check => b.dispatcher = b.held
  | .start _ (.release .token) => b.dispatcher = b.held
  | .start _ (.release .client) =>
    b.dispatcher = none ∧ ∀ c, b.held = some c → b.cancelled[c]? ≠ some false
  | .start _ (.holdToken c) => b.held = some c ∧ b.dispatcher = none
  | .start _ _ => b.held = none ∧ b.dispatcher = none
  | .stop .check => b.dispatcher = b.held
  | .stop (.release .token) => b.dispatcher = b.held
  | .stop (.release .client) =>
    b.dispatcher = none ∧ ∀ c, b.held = some c → b.cancelled[c]? ≠ some false
  | .stop (.release (.disconnecting _)) => b.held = none ∧ b.dispatcher = none
  | .send _ _ => b.dispatcher = b.held
  | .finished _ => b.dispatcher = b.held

/-- The operation has asked its client to connect. -/
def Operation.hasConnected : Operation → Bool
  | .start _ point => point.connected?.isSome
  | _ => false

/-- The operation is where it has to be, and the clients that are held or in its hands are in
use. -/
structure Custody (owns : List (Option Address)) (b : Books) (o : Operation) : Prop where
  placed : Placed b o
  held : ∀ c, b.held = some c → InUse owns b true c
  fostered : ∀ c, o.fosters? = some c → InUse owns b o.hasConnected c

/-- At most one start or stop is in flight, and clients are where they have to be. If none is, then
that is where they have to be with an operation that is finished. -/
structure InTurn (owns : List (Option Address)) (s : State) : Prop where
  conduct : Conduct owns s.books
  custody : ∃ o, s.transitions = [o].filter Operation.isTransition ∧ Custody owns s.books o

/-- How many clients were opened, which of them were asked to disconnect, and which one is held. -/
structure Ledger where
  opened : Nat
  disconnected : List Nat
  held : Option Nat
  deriving DecidableEq

def Books.ledger (b : Books) : Ledger :=
  ⟨b.opened, b.disconnected, b.held⟩

def State.ledger (s : State) : Ledger :=
  ⟨s.clients.length, s.disconnects, s.held⟩

/-- After the held client was let go of. -/
def Ledger.released (l : Ledger) : Ledger :=
  { l with disconnected := l.disconnected ++ l.held.toList, held := none }

/-- After a client was opened in the place of the held one. -/
def Ledger.grown (l : Ledger) : Ledger :=
  { l.released with opened := l.opened + 1 }

/-- What a call that ends with this result does to the clients that there are at its begin. -/
inductive Ended (l : Ledger) : Call → Except ChannelError Unit → Ledger → Prop where
  | stopped : Ended l .stop (.ok ()) l.released
  | refused {t : Nat} {text : String} : Ended l (.start t) (.error (.loggedOut text)) l
  | started {t : Nat} : Ended l (.start t) (.ok ()) { l.grown with held := some l.opened }
  /-- The start has failed before it had a client. -/
  | unopened {t : Nat} {error : ChannelError} (h : ∀ text, error ≠ .loggedOut text) :
      Ended l (.start t) (.error error) l.released
  /-- The start has failed with its client. -/
  | abandoned {t : Nat} {error : ChannelError} (h : ∀ text, error ≠ .loggedOut text) :
      Ended l (.start t) (.error error)
        { l.grown with disconnected := l.grown.disconnected ++ [l.opened] }
  | sent {m : OutboundMessage} {result : Except ChannelError Unit} : Ended l (.send m) result l

/-- What a start has done when it comes to this point. -/
def StartPoint.ledger (l : Ledger) : StartPoint → Ledger
  | .check => l
  | .release .token => l
  | .release .client => l
  | .release (.disconnecting _) => l.released
  | .makeDir _ => l.released
  | .opening => l.released
  | .abandoning _ _ => { l.grown with disconnected := l.grown.disconnected ++ [l.opened] }
  | .holdToken _ => { l.grown with held := some l.opened }
  | _ => l.grown

/-- What a stop has done when it comes to this point. -/
def StopPoint.ledger (l : Ledger) : StopPoint → Ledger
  | .release (.disconnecting _) => l.released
  | _ => l

/-- What a call has done to the clients that there were at its begin. -/
inductive Account (l : Ledger) : Call → Operation → Ledger → Prop where
  | start {t : Nat} {p : StartPoint} (hown : ∀ c, p.fosters? = some c → c = l.opened)
      (herror : ∀ c error text, p = .abandoning c error → error ≠ .loggedOut text) :
      Account l (.start t) (.start t p) (p.ledger l)
  | stop {p : StopPoint} : Account l .stop (.stop p) (p.ledger l)
  | send {m : OutboundMessage} {p : SendPoint} : Account l (.send m) (.send m p) l
  | finished {call : Call} {result : Except ChannelError Unit} {l' : Ledger}
      (h : Ended l call result l') : Account l call (.finished result) l'

def Call.isTransition : Call → Bool
  | .start _ => true
  | .stop => true
  | .send _ => false

/-- Operation `k` is the only one that can be a start or a stop, and this is what it has done. -/
structure Alone (l : Ledger) (call : Call) (k : Nat) (s : State) : Prop where
  only : ∀ (i : Nat) o, s.operations[i]? = some o → o.isTransition = true → i = k
  account : ∃ o, s.operations[k]? = some o ∧ Account l call o s.books.ledger

section

variable {setup : Setup} {s s' : State} {m : Move} {i c x : Nat} {answer : Answer}
  {b b' : Books} {o o' : Operation} {owns : List (Option Address)} {call : ClientCall}

/-! ## What clients are asked for -/

theorem callsOf_ask :
    (b.ask c call).callsOf x = b.callsOf x ++ if c = x then [call] else [] := by
  simp only [Books.callsOf, Books.ask, List.filterMap_append]
  split <;> simp [*]

theorem Conduct.congr (h : Conduct owns b) (hasked : b'.asked = b.asked)
    (hopened : b'.opened = b.opened) : Conduct owns b' := by
  have hcalls : ∀ c, b'.callsOf c = b.callsOf c := fun c => by
    rw [Books.callsOf, hasked, Books.callsOf]
  refine ⟨hopened.trans h.opened, fun c hc => (hcalls c).trans (h.unknown c hc), ?_⟩
  intro c own hown
  rw [hcalls]
  exact h.calls c own hown

theorem Conduct.ask (h : Conduct owns b) {own : Option Address} (hown : owns[c]? = some own)
    (hcalls : ∃ connects texts leaves,
      (b.ask c call).callsOf c = lifecycle own connects texts leaves) :
    Conduct owns (b.ask c call) := by
  have hknown : c < owns.length := (List.getElem?_eq_some_iff.1 hown).1
  have other : ∀ x, c ≠ x → (b.ask c call).callsOf x = b.callsOf x := by
    intro x hne
    rw [callsOf_ask, if_neg hne, List.append_nil]
  refine ⟨h.opened, fun x hx => ?_, fun x own' hx => ?_⟩
  · rw [other x (by omega)]
    exact h.unknown x hx
  · by_cases hc : c = x
    · subst hc
      obtain rfl : own = own' := Option.some.inj (hown.symm.trans hx)
      exact hcalls
    · rw [other x hc]
      exact h.calls x own' hx

theorem InUse.congr {connects : Bool} (h : InUse owns b connects c)
    (hasked : b'.asked = b.asked) : InUse owns b' connects c := by
  obtain ⟨own, texts, hown, hcalls, htexts⟩ := h
  refine ⟨own, texts, hown, ?_, htexts⟩
  rw [Books.callsOf, hasked]
  exact hcalls

theorem InUse.text (h : InUse owns b true c) (target : Address) (text : String) :
    InUse owns (b.ask c (.sendText target text)) true c := by
  obtain ⟨own, texts, hown, hcalls, -⟩ := h
  refine ⟨own, texts ++ [(target, text)], hown, ?_, nofun⟩
  rw [callsOf_ask, if_pos rfl, hcalls]
  simp [lifecycle]

theorem Conduct.leave (h : Conduct owns b) {connects : Bool} (hc : InUse owns b connects c) :
    Conduct owns (b.ask c .disconnect) := by
  obtain ⟨own, texts, hown, hcalls, -⟩ := hc
  refine h.ask hown ⟨connects, texts, true, ?_⟩
  rw [callsOf_ask, if_pos rfl, hcalls]
  simp [lifecycle]

theorem InUse.connect (h : InUse owns b false c) : InUse owns (b.ask c .connect) true c := by
  obtain ⟨own, texts, hown, hcalls, htexts⟩ := h
  refine ⟨own, [], hown, ?_, nofun⟩
  rw [callsOf_ask, if_pos rfl, hcalls, htexts rfl]
  simp [lifecycle]

theorem Conduct.used (h : Conduct owns b) {connects : Bool}
    (hc : InUse owns (b.ask c call) connects c) : Conduct owns (b.ask c call) := by
  obtain ⟨own, texts, hown, hcalls, -⟩ := hc
  exact h.ask hown ⟨connects, texts, false, hcalls⟩

theorem callsOf_add (own : Option Address) :
    (b.add own).callsOf x = b.callsOf x ++ if b.opened = x then
      [.addHandler, if own.isSome then .connect else .pairingChannel] else [] := by
  rw [Books.add, callsOf_ask, callsOf_ask]
  split
  · simp [Books.callsOf]
  · simp [Books.callsOf]

theorem Conduct.add (h : Conduct owns b) (own : Option Address) :
    Conduct (owns ++ [own]) (b.add own) ∧
      InUse (owns ++ [own]) (b.add own) own.isSome b.opened := by
  have hnew : (b.add own).callsOf owns.length = lifecycle own own.isSome [] false := by
    rw [callsOf_add, if_pos h.opened, h.unknown _ (Nat.le_refl _)]
    cases own <;> rfl
  have other : ∀ x, owns.length ≠ x → (b.add own).callsOf x = b.callsOf x := by
    intro x hne
    rw [callsOf_add, h.opened, if_neg hne, List.append_nil]
  have hlast : (owns ++ [own])[owns.length]? = some own := List.getElem?_concat_length
  refine ⟨⟨?_, fun x hx => ?_, fun x own' hx => ?_⟩, own, [], ?_, ?_, fun _ => rfl⟩
  · rw [opened_add, h.opened, List.length_append]
    rfl
  · rw [List.length_append, List.length_singleton] at hx
    rw [other x (by omega)]
    exact h.unknown x (by omega)
  · by_cases hc : owns.length = x
    · subst hc
      obtain rfl : own = own' := Option.some.inj (hlast.symm.trans hx)
      exact ⟨_, _, _, hnew⟩
    · rw [other x hc]
      have hold : x < owns.length := by
        have hlt := (List.getElem?_eq_some_iff.1 hx).1
        rw [List.length_append, List.length_singleton] at hlt
        omega
      rw [List.getElem?_append_left hold] at hx
      exact h.calls x own' hx
  · rw [h.opened]
    exact hlast
  · rw [h.opened]
    exact hnew

/-! ## Where clients are -/

theorem asked_cut (b : Books) : b.cut.asked = b.asked := by
  unfold Books.cut
  split <;> rfl

theorem dispatcher_cut (b : Books) : b.cut.dispatcher = none := by
  unfold Books.cut
  split
  · assumption
  · rfl

theorem isReleased_of_fosters {p : StartPoint} (hp : p.fosters? = some c) :
    p.isReleased = true := by
  cases p with
  | check => cases hp
  | release => cases hp
  | holdToken => cases hp
  | _ => rfl

theorem isReleased_of_isOpening {p : StartPoint} (hp : p.isOpening = true) :
    p.isReleased = true := by
  cases p with
  | makeDir => rfl
  | opening => rfl
  | _ => cases hp

/-- A start that has let go of client and dispatcher is to hold none before it holds its own. -/
theorem placed_of_isReleased {t : Nat} {p : StartPoint} (hp : p.isReleased = true) :
    Placed b (.start t p) ↔ b.held = none ∧ b.dispatcher = none := by
  cases p with
  | check => cases hp
  | release point =>
    cases point with
    | disconnecting => exact Iff.rfl
    | _ => cases hp
  | holdToken => cases hp
  | _ => exact Iff.rfl

theorem placed_cut (h : b.dispatcher = b.held) : b.cut.dispatcher = none ∧
    ∀ c, b.cut.held = some c → b.cut.cancelled[c]? ≠ some false := by
  refine ⟨dispatcher_cut b, fun c hc huntold => ?_⟩
  rw [held_cut] at hc
  exact (untold_before_cut huntold).2 (h.trans hc)

theorem placed_of_deal (h : Placed b o) (hdeal : Deal b o answer o' b') : Placed b' o' := by
  cases hdeal with
  | cut => exact placed_cut h
  | drop => exact ⟨rfl, h.1⟩
  | noClient hh hp => exact (placed_of_isReleased (isReleased_of_isOpening hp)).2 ⟨hh, h.1⟩
  | dropped hp => exact (placed_of_isReleased (isReleased_of_isOpening hp)).2 h
  | notMade => exact h.2.trans h.1.symm
  | notOpened => exact h.2.trans h.1.symm
  | goOn hp hp' =>
    have hreleased := isReleased_of_fosters (fosters?_of_connected hp)
    have hreleased' := isReleased_of_fosters (fosters?_of_connected hp')
    exact (placed_of_isReleased hreleased').2 ((placed_of_isReleased hreleased).1 h)
  | abandon hp =>
    have hreleased := (placed_of_isReleased (isReleased_of_fosters hp)).1 h
    exact hreleased
  | abandoned => exact h.2.trans h.1.symm
  | hold => exact ⟨rfl, h.2⟩
  | guard => exact h.1.symm
  | stopCut => exact placed_cut h
  | stopDrop => exact ⟨rfl, h.1⟩
  | stopNoClient hh => exact h.1.trans hh.symm
  | stopDropped => exact h.2.trans h.1.symm
  | _ => exact h

theorem loses_of_placed (h : Placed b o) : o.loses b = [] := by
  have neglected : (∀ c, b.held = some c → b.cancelled[c]? ≠ some false) → b.neglected = [] := by
    intro htold
    rw [Books.neglected, List.map_eq_nil_iff, Option.toList_eq_nil_iff, Option.filter_eq_none_iff]
    intro c hc
    simpa using htold c hc
  unfold Operation.loses
  split
  · have hheld : b.held = none := h.1
    rw [hheld]
    rfl
  · exact neglected h.2
  · exact neglected h.2
  · rfl

theorem Custody.stay (h : Custody owns b o) (hasked : b'.asked = b.asked)
    (hheld : b'.held = b.held) (hnone : o'.fosters? = none)
    (hplaced : Placed b' o') : Custody owns b' o' := by
  refine ⟨hplaced, fun c hc => ?_, fun c hc => ?_⟩
  · exact (h.held c (hheld.symm.trans hc)).congr hasked
  · rw [hnone] at hc
    cases hc

/-- The held client can be sent texts, wherever an operation is. -/
theorem Custody.text (h : Custody owns b o) (hh : b.held = some c) (target : Address)
    (text : String) : Custody owns (b.ask c (.sendText target text)) o := by
  refine ⟨h.placed, fun x hx => ?_, fun x hx => ?_⟩
  · obtain rfl : c = x := Option.some.inj (hh.symm.trans hx)
    exact (h.held c hh).text target text
  · -- An operation with a client of its own has let go of the held one.
    cases o with
    | start t p =>
      have hplaced := (placed_of_isReleased (isReleased_of_fosters hx)).1 h.placed
      rw [hplaced.1] at hh
      cases hh
    | _ => cases hx

theorem conduct_cut (h : Conduct owns b) : Conduct owns b.cut :=
  h.congr (asked_cut b) (opened_cut b)

theorem conduct_drop (h : Conduct owns b) (hc : InUse owns b true c) :
    Conduct owns (b.drop c) := by
  have hfree : Conduct owns { b with held := none } := h.congr rfl rfl
  exact hfree.leave (hc.congr rfl)

theorem conduct_of_deal (h : Conduct owns b) (hcustody : Custody owns b o)
    (hdeal : Deal b o answer o' b') (hnone : o.opens answer = []) : Conduct owns b' := by
  cases hdeal with
  | cut => exact conduct_cut h
  | stopCut => exact conduct_cut h
  | drop hh => exact conduct_drop h (hcustody.held _ hh)
  | stopDrop hh => exact conduct_drop h (hcustody.held _ hh)
  | openPaired => cases hnone
  | openNew => cases hnone
  | connect => exact h.used (hcustody.fostered _ rfl).connect
  | @abandon t c p _ _ hp =>
    have hcancelled : Conduct owns (b.cancel c) := h.congr rfl List.length_set
    exact hcancelled.leave ((hcustody.fostered c hp).congr rfl)
  | hold => exact h.congr rfl rfl
  | guard => exact h.congr rfl rfl
  | text hh => exact h.used ((hcustody.held _ hh).text _ _)
  | _ => exact h

theorem custody_of_deal (hcustody : Custody owns b o) (hdeal : Deal b o answer o' b')
    (hnone : o.opens answer = []) : Custody owns b' o' := by
  have hplaced := hcustody.placed
  have hplaced' := placed_of_deal hplaced hdeal
  cases hdeal with
  | cut => exact hcustody.stay (asked_cut b) (held_cut b) rfl hplaced'
  | drop => exact ⟨hplaced', nofun, nofun⟩
  | noClient hh hp => exact hcustody.stay rfl rfl (fosters?_of_isOpening hp) hplaced'
  | dropped hp => exact hcustody.stay rfl rfl (fosters?_of_isOpening hp) hplaced'
  | openPaired => cases hnone
  | openNew => cases hnone
  | @connect t c =>
    have hused : InUse owns (b.ask c .connect) true c := (hcustody.fostered c rfl).connect
    refine ⟨hplaced', fun x hx => ?_, ?_⟩
    · cases hplaced.1.symm.trans hx
    · rintro x ⟨⟩
      exact hused
  | @goOn t c p p' _ hp hp' hhold =>
    have hfosters := fosters?_of_connected hp
    have hfosters' := fosters?_of_connected hp'
    refine ⟨hplaced', hcustody.held, fun x hx => ?_⟩
    have hused := hcustody.fostered x (hfosters.trans (hfosters'.symm.trans hx))
    rw [Operation.hasConnected, hp] at hused
    rw [Operation.hasConnected, hp']
    exact hused
  | abandon hp =>
    have hreleased := (placed_of_isReleased (isReleased_of_fosters hp)).1 hplaced
    refine ⟨hplaced', fun x hx => ?_, nofun⟩
    cases hreleased.1.symm.trans hx
  | @hold t c =>
    refine ⟨hplaced', ?_, nofun⟩
    rintro x ⟨⟩
    exact (hcustody.fostered c rfl).congr rfl
  | stopCut => exact hcustody.stay (asked_cut b) (held_cut b) rfl hplaced'
  | stopDrop => exact ⟨hplaced', nofun, nofun⟩
  | text hh => exact (hcustody.text hh _ _).stay rfl rfl rfl hplaced'
  | _ => exact hcustody.stay rfl rfl rfl hplaced'

theorem custody_of_open (h : Conduct owns b) (hcustody : Custody owns b o)
    (hdeal : Deal b o answer o' b') {own : Option Address} (hopens : o.opens answer = [own]) :
    Conduct (owns ++ [own]) b' ∧ Custody (owns ++ [own]) b' o' := by
  have opened : ∀ {o₁}, b.held = none → o₁.fosters? = some b.opened →
      o₁.hasConnected = own.isSome → Placed (b.add own) o₁ →
      Conduct (owns ++ [own]) (b.add own) ∧ Custody (owns ++ [own]) (b.add own) o₁ := by
    intro o₁ hheld ho₁ hconnected hplaced
    obtain ⟨hconduct, hused⟩ := h.add own
    refine ⟨hconduct, hplaced, fun x hx => ?_, fun x hx => ?_⟩
    · cases hheld.symm.trans hx
    · obtain rfl : b.opened = x := Option.some.inj (ho₁.symm.trans hx)
      exact hconnected ▸ hused
  have hplaced := hcustody.placed
  have hplaced' := placed_of_deal hplaced hdeal
  unfold Operation.opens at hopens
  split at hopens
  · cases hopens
    cases hdeal with
    | openPaired => exact opened hplaced.1 rfl rfl hplaced'
    | openNew => exact opened hplaced.1 rfl rfl hplaced'
    | goOn hp => cases hp
    | abandon hp => cases hp
  · cases hopens

/-! ## One after the other -/

theorem isTransition_operation (c : Call) : c.operation.isTransition = c.isTransition := by
  cases c <;> rfl

theorem isTransition_of_rest (hnone : s.transitions = []) (hi : s.operations[i]? = some o) :
    o.isTransition = false := by
  refine Bool.eq_false_iff.2 fun ho => ?_
  have hmem := mem_transitions hi ho
  rw [hnone] at hmem
  cases hmem

theorem deal_of_send {m : OutboundMessage} {p : SendPoint} (h : Deal b (.send m p) answer o' b') :
    o'.isTransition = false ∧ (b' = b ∨ ∃ c target,
      b.held = some c ∧ b' = b.ask c (.sendText target m.content)) := by
  cases h with
  | sending => exact ⟨rfl, .inl rfl⟩
  | sent => exact ⟨rfl, .inl rfl⟩
  | text hh => exact ⟨rfl, .inr ⟨_, _, hh, rfl⟩⟩

theorem InTurn.rest (h : InTurn owns s) (hnone : s.transitions = []) :
    s.dispatcher = s.held ∧ ∀ c, s.held = some c → InUse owns s.books true c := by
  obtain ⟨o, hone, hcustody⟩ := h.custody
  refine ⟨?_, hcustody.held⟩
  rw [hnone] at hone
  cases o with
  | start => cases hone
  | stop => cases hone
  | send => exact hcustody.placed
  | finished => exact hcustody.placed

theorem InTurn.of_transition (h : InTurn owns s) (hi : s.operations[i]? = some o)
    (ho : o.isTransition = true) : s.transitions = [o] ∧ Custody owns s.books o := by
  obtain ⟨o₁, hone, hcustody⟩ := h.custody
  have hmem := mem_transitions hi ho
  rw [hone] at hmem
  obtain rfl := List.mem_singleton.1 (List.mem_filter.1 hmem).1
  exact ⟨by rw [hone]; simp [ho], hcustody⟩

theorem inTurn_of_call (h : InTurn owns s) {c : Call} (halone : overlaps s (.call c) = [])
    (hset : s'.operations = s.operations ++ [c.operation]) (hbooks : s'.books = s.books) :
    InTurn owns s' := by
  have htransitions : s'.transitions =
      s.transitions ++ [c.operation].filter Operation.isTransition := by
    rw [State.transitions, hset, List.filter_append]
    rfl
  refine ⟨hbooks ▸ h.conduct, ?_⟩
  rw [htransitions, hbooks]
  cases c with
  | start t =>
    have hnone : s.transitions = [] := by simpa [overlaps] using halone
    obtain ⟨hplaced, hheld⟩ := h.rest hnone
    exact ⟨.start t .check, by rw [hnone]; rfl, hplaced, hheld, fun c hc => by cases hc⟩
  | stop =>
    have hnone : s.transitions = [] := by simpa [overlaps] using halone
    obtain ⟨hplaced, hheld⟩ := h.rest hnone
    exact ⟨.stop .check, by rw [hnone]; rfl, hplaced, hheld, fun c hc => by cases hc⟩
  | send message =>
    have hsame : [Call.operation (.send message)].filter Operation.isTransition = [] := rfl
    rw [hsame, List.append_nil]
    exact h.custody

theorem inTurn_of_transition (h : InTurn owns s) (hi : s.operations[i]? = some o)
    (ho : o.isTransition = true) (hset : s'.operations = s.operations.set i o')
    (hdeal : Deal s.books o answer o' s'.books) : InTurn (owns ++ o.opens answer) s' := by
  obtain ⟨hone, hcustody⟩ := h.of_transition hi ho
  obtain ⟨-, hfilter⟩ := filter_set_of_sole (b := o') hone hi ho
  have htransitions : s'.transitions = [o'].filter Operation.isTransition := by
    rw [State.transitions, hset, hfilter, List.filter_cons, List.filter_nil]
  cases hopens : o.opens answer with
  | nil =>
    rw [List.append_nil]
    exact ⟨conduct_of_deal h.conduct hcustody hdeal hopens, o', htransitions,
      custody_of_deal hcustody hdeal hopens⟩
  | cons own rest =>
    obtain rfl : rest = [] := by
      unfold Operation.opens at hopens
      split at hopens
      · exact (List.cons.inj hopens).2.symm
      · cases hopens
    obtain ⟨hconduct, hcustody'⟩ := custody_of_open h.conduct hcustody hdeal hopens
    exact ⟨hconduct, o', htransitions, hcustody'⟩

theorem inTurn_of_send (h : InTurn owns s) {message : OutboundMessage} {p : SendPoint}
    (hi : s.operations[i]? = some (.send message p))
    (hset : s'.operations = s.operations.set i o')
    (hdeal : Deal s.books (.send message p) answer o' s'.books) : InTurn owns s' := by
  obtain ⟨ho', hbooks⟩ := deal_of_send hdeal
  have hsame : s'.transitions = s.transitions := by
    rw [State.transitions, hset]
    exact filter_set_of_other hi rfl ho'
  obtain ⟨o₁, hone, hcustody⟩ := h.custody
  rcases hbooks with hbooks | ⟨c, target, hh, hbooks⟩
  · exact ⟨hbooks ▸ h.conduct, o₁, hsame.trans hone, hbooks ▸ hcustody⟩
  · have hused := (hcustody.held c hh).text target message.content
    exact ⟨hbooks ▸ h.conduct.used hused, o₁, hsame.trans hone,
      hbooks ▸ hcustody.text hh target message.content⟩

theorem inTurn_of_deal (h : InTurn owns s) (hi : s.operations[i]? = some o)
    (hset : s'.operations = s.operations.set i o') (hdeal : Deal s.books o answer o' s'.books) :
    InTurn (owns ++ o.opens answer) s' := by
  cases o with
  | start => exact inTurn_of_transition h hi rfl hset hdeal
  | stop => exact inTurn_of_transition h hi rfl hset hdeal
  | send message p =>
    have hnone : (Operation.send message p).opens answer = [] := rfl
    rw [hnone, List.append_nil]
    exact inTurn_of_send h hi hset hdeal
  | finished => cases hdeal

theorem inTurn_of_step (h : InTurn owns s) (halone : overlaps s m = []) (hs : Step setup s m s') :
    InTurn (owns ++ openings s m) s' := by
  cases dealt_of_step hs with
  | called c hset hbooks =>
    have hnone : openings s (.call c) = [] := rfl
    rw [hnone, List.append_nil]
    exact inTurn_of_call h halone hset hbooks
  | @dealt i o o' answer hi hset hdeal =>
    have hopenings : openings s (.resume i answer) = o.opens answer := by simp only [openings, hi]
    rw [hopenings]
    exact inTurn_of_deal h hi hset hdeal
  | quiet _ hresume hset hbooks =>
    have hnone : openings s m = [] := by
      cases m with
      | resume i answer => exact absurd rfl (hresume i answer)
      | _ => rfl
    have hsame : s'.transitions = s.transitions := by rw [State.transitions, hset]; rfl
    rw [hnone, List.append_nil]
    exact ⟨hbooks ▸ h.conduct, by rw [hsame, hbooks]; exact h.custody⟩

theorem InTurn.loses_nothing (h : InTurn owns s) (m : Move) : losses s m = [] := by
  unfold losses
  split
  · split
    · rename_i o hi
      cases o with
      | start => exact loses_of_placed (h.of_transition hi rfl).2.placed
      | stop => exact loses_of_placed (h.of_transition hi rfl).2.placed
      | send => rfl
      | finished => rfl
    · rfl
  · rfl

/-! ## What a call does -/

theorem ledger_books (s : State) : s.books.ledger = s.ledger := by
  rw [Books.ledger, opened_books, disconnected_books]
  rfl

theorem released_of_none {l : Ledger} (h : l.held = none) : l.released = l := by
  obtain ⟨opened, disconnected, held⟩ := l
  obtain rfl : held = none := h
  simp [Ledger.released]

theorem ledger_of_isOpening {l : Ledger} {p : StartPoint} (hp : p.isOpening = true) :
    p.ledger l = l.released := by
  cases p with
  | makeDir => rfl
  | opening => rfl
  | _ => cases hp

theorem ledger_of_fosters {l : Ledger} {p : StartPoint} (hp : p.fosters? = some c) :
    p.ledger l = l.grown := by
  cases p with
  | pairingChannel => rfl
  | connecting => rfl
  | pairing => rfl
  | holdClient => rfl
  | _ => cases hp

theorem ledger_cut (b : Books) : b.cut.ledger = b.ledger := by
  rw [Books.ledger, opened_cut, disconnected_cut, held_cut, Books.ledger]

theorem ledger_drop (hh : b.held = some c) : (b.drop c).ledger = b.ledger.released := by
  have hdropped : (b.drop c).disconnected = b.disconnected ++ [c] := disconnected_ask _ _ _
  rw [Books.ledger, hdropped, Ledger.released, Books.ledger, hh]
  rfl

theorem ledger_add (own : Option Address) :
    (b.add own).ledger = { b.ledger with opened := b.opened + 1 } := by
  rw [Books.ledger, opened_add, disconnected_add]
  rfl

theorem ledger_ask (hcall : call ≠ .disconnect) : (b.ask c call).ledger = b.ledger := by
  rw [Books.ledger, disconnected_ask, if_neg hcall, List.append_nil]
  rfl

theorem ledger_abandon :
    (b.abandon c).ledger = { b.ledger with disconnected := b.disconnected ++ [c] } := by
  have habandoned : (b.abandon c).disconnected = b.disconnected ++ [c] := disconnected_ask _ _ _
  have hopened : (b.abandon c).opened = b.opened := List.length_set
  rw [Books.ledger, habandoned, hopened]
  rfl

theorem Account.of_start {l l' : Ledger} {k : Call} {t : Nat} {p : StartPoint}
    (h : Account l k (.start t p) l') : k = .start t ∧ l' = p.ledger l ∧
      (∀ c, p.fosters? = some c → c = l.opened) ∧
      ∀ c error text, p = .abandoning c error → error ≠ .loggedOut text := by
  cases h with
  | start hown herror => exact ⟨rfl, rfl, hown, herror⟩

theorem Account.of_stop {l l' : Ledger} {k : Call} {p : StopPoint}
    (h : Account l k (.stop p) l') : k = .stop ∧ l' = p.ledger l := by
  cases h with
  | stop => exact ⟨rfl, rfl⟩

/-- A start that has no client of its own, or has it still, goes on to this point. -/
theorem Account.goOn {l l' : Ledger} {t : Nat} {p : StartPoint} (hl : l' = p.ledger l)
    (hown : ∀ c, p.fosters? = some c → c = l.opened)
    (herror : ∀ c error text, p = .abandoning c error → error ≠ .loggedOut text) :
    Account l (.start t) (.start t p) l' :=
  hl ▸ .start hown herror

theorem account_of_startDeal {l : Ledger} {k : Call} {t : Nat} {p : StartPoint}
    (h : Account l k (.start t p) b.ledger) (hdeal : Deal b (.start t p) answer o' b') :
    Account l k o' b'.ledger := by
  obtain ⟨rfl, hl, hown, herror⟩ := h.of_start
  have grown : b.ledger = l.released → { b.ledger with opened := b.opened + 1 } = l.grown := by
    intro hl
    have hopened : b.opened = l.opened := congrArg Ledger.opened hl
    rw [hl, hopened]
    rfl
  have own : b.ledger = l.released → ∀ c, some b.opened = some c → c = l.opened := by
    rintro hl c ⟨⟩
    exact congrArg Ledger.opened hl
  cases hdeal with
  | refused => exact hl ▸ .finished .refused
  | checked => exact .goOn hl nofun nofun
  | cut => exact .goOn ((ledger_cut b).trans hl) nofun nofun
  | drop hh =>
    have hl : b.ledger = l := hl
    exact .goOn ((ledger_drop hh).trans (by rw [hl]; rfl)) nofun nofun
  | noClient hh hp =>
    have hl : b.ledger = l := hl
    have hnone : l.held = none := hl ▸ hh
    refine .goOn ?_ (fun c hc => ?_) (by rintro c e text rfl; cases hp)
    · rw [hl, ledger_of_isOpening hp, released_of_none hnone]
    · rw [fosters?_of_isOpening hp] at hc
      cases hc
  | dropped hp =>
    refine .goOn ?_ (fun c hc => ?_) (by rintro c e text rfl; cases hp)
    · rw [hl, ledger_of_isOpening hp]
      rfl
    · rw [fosters?_of_isOpening hp] at hc
      cases hc
  | made => exact .goOn hl nofun nofun
  | notMade => exact hl ▸ .finished (.unopened nofun)
  | notOpened => exact hl ▸ .finished (.unopened nofun)
  | openPaired => exact .goOn ((ledger_add _).trans (grown hl)) (own hl) nofun
  | openNew => exact .goOn ((ledger_add _).trans (grown hl)) (own hl) nofun
  | connect => exact .goOn ((ledger_ask (by simp)).trans hl) hown nofun
  | @goOn _ c _ p' _ hp hp' =>
    have hfosters := fosters?_of_connected hp
    have hfosters' := fosters?_of_connected hp'
    refine .goOn ?_ (fun x hx => ?_) (by rintro x e text rfl; cases hp')
    · rw [hl, ledger_of_fosters hfosters, ledger_of_fosters hfosters']
    · exact hown x (hfosters.trans (hfosters'.symm.trans hx))
  | @abandon _ c _ _ error hp _ hfault =>
    have hl : b.ledger = l.grown := hl.trans (ledger_of_fosters hp)
    have hdisconnected : b.disconnected = l.grown.disconnected := congrArg Ledger.disconnected hl
    refine .goOn ?_ nofun (by rintro x e text ⟨⟩; exact hfault text)
    rw [ledger_abandon, hl, hdisconnected, hown c hp]
    rfl
  | abandoned => exact hl ▸ .finished (.abandoned fun text => herror _ _ text rfl)
  | @hold _ c =>
    have hl : b.ledger = l.grown := hl
    have hheld : (b.hold c).ledger = { b.ledger with held := some c } := rfl
    refine .goOn ?_ nofun nofun
    rw [hheld, hl, hown c rfl]
    rfl
  | guard => exact hl ▸ .finished .started

theorem account_of_stopDeal {l : Ledger} {k : Call} {p : StopPoint}
    (h : Account l k (.stop p) b.ledger) (hdeal : Deal b (.stop p) answer o' b') :
    Account l k o' b'.ledger := by
  obtain ⟨rfl, hl⟩ := h.of_stop
  have goOn : ∀ {p' : StopPoint}, b'.ledger = p'.ledger l →
      Account l .stop (.stop p') b'.ledger := fun hl' => hl' ▸ .stop
  cases hdeal with
  | stopChecked => exact goOn hl
  | stopCut => exact goOn ((ledger_cut b).trans hl)
  | stopDrop hh =>
    have hl : b.ledger = l := hl
    exact goOn ((ledger_drop hh).trans (by rw [hl]; rfl))
  | stopNoClient hh =>
    have hl : b.ledger = l := hl
    have hnone : l.held = none := hl ▸ hh
    have hstopped : Ended l .stop (.ok ()) l.released := .stopped
    rw [released_of_none hnone] at hstopped
    rw [hl]
    exact .finished hstopped
  | stopDropped => exact hl ▸ .finished .stopped

theorem account_of_deal {l : Ledger} {k : Call} (h : Account l k o b.ledger)
    (hdeal : Deal b o answer o' b') : Account l k o' b'.ledger := by
  cases o with
  | start t p => exact account_of_startDeal h hdeal
  | stop p => exact account_of_stopDeal h hdeal
  | send m p =>
    cases h with
    | send =>
      cases hdeal with
      | sending => exact .send
      | sent => exact .finished .sent
      | text =>
        rw [ledger_ask (by simp)]
        exact .send
  | finished => cases hdeal

theorem ledger_of_send {message : OutboundMessage} {p : SendPoint}
    (hdeal : Deal b (.send message p) answer o' b') : b'.ledger = b.ledger := by
  obtain ⟨-, rfl | ⟨c, target, -, rfl⟩⟩ := deal_of_send hdeal
  · rfl
  · exact ledger_ask (by simp)

theorem Alone.congr {l : Ledger} {k : Call} {n : Nat} (h : Alone l k n s)
    (hset : s'.operations = s.operations) (hbooks : s'.books = s.books) : Alone l k n s' :=
  ⟨hset ▸ h.only, by rw [hset, hbooks]; exact h.account⟩

/-- Nothing else than sends is called meanwhile, and those leave clients where they are. -/
theorem alone_of_step {l : Ledger} {k : Call} {n : Nat} (h : Alone l k n s)
    (hm : ∀ c, m = .call c → c.isTransition = false) (hs : Step setup s m s') :
    Alone l k n s' := by
  obtain ⟨o₁, hn, haccount⟩ := h.account
  have hknown : n < s.operations.length := (List.getElem?_eq_some_iff.1 hn).1
  cases dealt_of_step hs with
  | called c hset hbooks =>
    refine ⟨fun i o hi ho => ?_, o₁, ?_, hbooks ▸ haccount⟩
    · rw [hset] at hi
      rcases place_of_append hi with ⟨-, rfl⟩ | hold
      · rw [isTransition_operation, hm c rfl] at ho
        cases ho
      · exact h.only i o hold ho
    · rw [hset, List.getElem?_append_left hknown]
      exact hn
  | @dealt i o o' answer hi hset hdeal =>
    by_cases hin : i = n
    · subst hin
      obtain rfl : o₁ = o := Option.some.inj (hn.symm.trans hi)
      refine ⟨fun j o hj ho => ?_, o', ?_, account_of_deal haccount hdeal⟩
      · rw [hset] at hj
        rcases place_of_set hj with ⟨rfl, -⟩ | ⟨-, hkept⟩
        · rfl
        · exact h.only j o hkept ho
      · rw [hset, List.getElem?_set_self hknown]
    · -- Another operation can only be a send.
      cases o with
      | start => exact absurd (h.only i _ hi rfl) hin
      | stop => exact absurd (h.only i _ hi rfl) hin
      | finished => cases hdeal
      | send message p =>
        refine ⟨fun j o hj ho => ?_, o₁, ?_, ledger_of_send hdeal ▸ haccount⟩
        · rw [hset] at hj
          rcases place_of_set hj with ⟨-, rfl⟩ | ⟨-, hkept⟩
          · rw [(deal_of_send hdeal).1] at ho
            cases ho
          · exact h.only j o hkept ho
        · rw [hset, List.getElem?_set_ne hin]
          exact hn
  | quiet _ _ hset hbooks => exact h.congr hset hbooks

theorem ended_of_call {call : Call} {moves : List Move} {result : Except ChannelError Unit}
    (hnone : s.transitions = []) (hmoves : ∀ m ∈ moves, ∀ c, m = .call c → c.isTransition = false)
    (hrun : exec setup s (.call call :: moves) = some s')
    (hdone : s'.operations[s.operations.length]? = some (.finished result)) :
    Ended s.ledger call result s'.ledger := by
  have hset := operations_begin s call
  have hbooks := books_begin s call
  have hbegun : Alone s.ledger call s.operations.length (s.begin call) := by
    refine ⟨fun i o hi ho => ?_, call.operation, ?_, ?_⟩
    · rw [hset] at hi
      rcases place_of_append hi with ⟨hlast, -⟩ | hold
      · exact hlast
      · rw [isTransition_of_rest hnone hold] at ho
        cases ho
    · rw [hset]
      exact List.getElem?_concat_length
    · rw [hbooks, ledger_books]
      cases call with
      | start t => exact .goOn rfl nofun nofun
      | stop => exact .stop
      | send message => exact .send
  rw [exec_eq_follow] at hrun
  obtain ⟨s₁, hcalled, hrest⟩ := follow_cons.1 hrun
  obtain rfl : s.begin call = s₁ := Option.some.inj hcalled
  have halone := follow_invariant (P := Alone s.ledger call s.operations.length)
    (Q := fun m => ∀ c, m = .call c → c.isTransition = false)
    (fun h hm hstep => alone_of_step h hm (step_inv hstep)) hbegun hmoves hrest
  obtain ⟨o, ho, haccount⟩ := halone.account
  obtain rfl : o = .finished result := Option.some.inj (ho.symm.trans hdone)
  rw [ledger_books] at haccount
  cases haccount with
  | finished h => exact h

/-! ## The whole run -/

/-- Clients are only asked for more, and texts are only sent through the held one. -/
theorem callsOf_of_deal (hdeal : Deal b o answer o' b') (x : Nat) :
    ∃ calls, b'.callsOf x = b.callsOf x ++ calls ∧
      ∀ target text, .sendText target text ∈ calls → b.held = some x := by
  have same : ∀ b₁ : Books, b₁.asked = b.asked → b₁.callsOf x = b.callsOf x := by
    intro b₁ hasked
    rw [Books.callsOf, hasked, Books.callsOf]
  have still : b'.asked = b.asked → ∃ calls, b'.callsOf x = b.callsOf x ++ calls ∧
      ∀ target text, .sendText target text ∈ calls → b.held = some x := fun hasked =>
    ⟨[], by rw [same b' hasked, List.append_nil], by simp⟩
  have asked : ∀ (b₁ : Books) c call, b₁.asked = b.asked →
      (∀ target text, call = .sendText target text → b.held = some c) →
      ∃ calls, (b₁.ask c call).callsOf x = b.callsOf x ++ calls ∧
        ∀ target text, .sendText target text ∈ calls → b.held = some x := by
    intro b₁ c call hasked htext
    refine ⟨_, by rw [callsOf_ask, same b₁ hasked], fun target text hmem => ?_⟩
    split at hmem
    · rename_i hc
      exact hc ▸ htext target text (List.mem_singleton.1 hmem).symm
    · cases hmem
  have opened : ∀ own, ∃ calls, (b.add own).callsOf x = b.callsOf x ++ calls ∧
      ∀ target text, .sendText target text ∈ calls → b.held = some x := by
    intro own
    refine ⟨_, callsOf_add own, fun target text hmem => ?_⟩
    split at hmem
    · cases own <;> simp at hmem
    · cases hmem
  cases hdeal with
  | cut => exact still (asked_cut b)
  | stopCut => exact still (asked_cut b)
  | drop => exact asked { b with held := none } _ _ rfl nofun
  | stopDrop => exact asked { b with held := none } _ _ rfl nofun
  | openPaired => exact opened _
  | openNew => exact opened _
  | connect => exact asked b _ _ rfl nofun
  | @abandon _ c => exact asked (b.cancel c) _ _ rfl nofun
  | text hh => exact asked b _ _ rfl fun _ _ _ => hh
  | _ => exact still rfl

theorem callsOf_of_step (hs : Step setup s m s') (x : Nat) :
    ∃ calls, s'.books.callsOf x = s.books.callsOf x ++ calls ∧
      ∀ target text, .sendText target text ∈ calls → s.held = some x := by
  have still : s'.books = s.books → ∃ calls,
      s'.books.callsOf x = s.books.callsOf x ++ calls ∧
        ∀ target text, .sendText target text ∈ calls → s.held = some x := fun hbooks =>
    ⟨[], by rw [hbooks, List.append_nil], by simp⟩
  cases dealt_of_step hs with
  | called c _ hbooks => exact still hbooks
  | dealt _ _ hdeal => exact callsOf_of_deal hdeal x
  | quiet _ _ _ hbooks => exact still hbooks

theorem fostered_of_rest (hnone : s.transitions = []) : fostered s.operations = [] := by
  refine List.filterMap_eq_nil_iff.2 fun o ho => ?_
  cases o with
  | start t p =>
    obtain ⟨i, hi⟩ := List.mem_iff_getElem?.1 ho
    cases isTransition_of_rest hnone hi
  | _ => rfl

/-- What a transport has asked its clients for, and what calls do with them. -/
structure Disciplined (setup : Setup) (owns : List (Option Address)) (s : State) : Prop where
  opened : s.clients.length = owns.length
  calls : ∀ c own, owns[c]? = some own →
    ∃ connects texts leaves, s.books.callsOf c = lifecycle own connects texts leaves
  /-- Texts are sent only through the client that is held. -/
  texts : ∀ m s', step setup s m = some s' → ∀ c, ∃ calls,
    s'.books.callsOf c = s.books.callsOf c ++ calls ∧
      ∀ target text, .sendText target text ∈ calls → s.held = some c
  /-- Between starts and stops, all clients are disconnected but for the held one. -/
  balance : s.transitions = [] →
    s.clients.length = s.disconnects.length + if s.held.isSome then 1 else 0
  told : s.transitions = [] → ∀ c d, s.clients[c]? = some d → s.held ≠ some c →
    d.cancelled = true
  ended : s.transitions = [] → ∀ call moves s' result,
    (∀ m ∈ moves, ∀ c, m = .call c → c.isTransition = false) →
    exec setup s (.call call :: moves) = some s' →
    s'.operations[s.operations.length]? = some (.finished result) →
    Ended s.ledger call result s'.ledger

theorem inTurn_of_run {bus : Bus} {fs : FileSystem} {moves : List Move}
    (halone : observe (step setup) overlaps (.initial bus fs) moves = [])
    (hrun : follow (step setup) (.initial bus fs) moves = some s') :
    InTurn (observe (step setup) openings (.initial bus fs) moves) s' ∧
      Accounted [] s'.operations s'.books := by
  have hinitial : InTurn [] (.initial bus fs) :=
    ⟨⟨rfl, fun _ _ => rfl, fun c own hc => by cases hc⟩, .finished (.ok ()), rfl, rfl, nofun, nofun⟩
  refine follow_history (I := fun past t => InTurn past t ∧ Accounted [] t.operations t.books)
    openings overlaps ?_ [] ⟨hinitial, accounted_initial bus fs⟩ halone hrun
  rintro past t m t' ⟨hturn, haccounted⟩ halone hstep
  have hs := step_inv hstep
  have haccounted' := accounted_of_step haccounted hs
  rw [hturn.loses_nothing m] at haccounted'
  exact ⟨inTurn_of_step hturn halone hs, haccounted'⟩

theorem balance_of_accounted (h : Accounted [] s.operations s.books) (hnone : s.transitions = []) :
    s.clients.length = s.disconnects.length + if s.held.isSome then 1 else 0 := by
  have hlength := h.once.length_eq
  rw [fostered_of_rest hnone, disconnected_books, opened_books] at hlength
  have hheld : s.books.held = s.held := rfl
  have hcount : s.held.toList.length = if s.held.isSome then 1 else 0 := by cases s.held <;> rfl
  simp only [List.filterMap_nil, List.nil_append, List.append_nil, List.length_append, hheld,
    hcount, List.length_range] at hlength
  exact hlength.symm

theorem told_of_accounted (h : Accounted [] s.operations s.books) (hnone : s.transitions = [])
    {d : Client} (hd : s.clients[c]? = some d) (hc : s.held ≠ some c) : d.cancelled = true := by
  by_contra hflag
  have huntold : s.books.cancelled[c]? = some false := by
    simpa [State.books, hd] using hflag
  rcases h.told c huntold with hheld | hfostered | ⟨_, hmem, -⟩
  · exact hc hheld
  · rw [fostered_of_rest hnone] at hfostered
    cases hfostered
  · cases hmem

/-- A transport that was never started is used, and no start or stop is called while another one is
in flight. Then clients are opened, asked for things and disconnected in order, whatever comes of
that, and whatever they report. -/
theorem clients_kept_in_order {bus : Bus} {fs : FileSystem} {moves : List Move}
    (halone : observe (step setup) overlaps (.initial bus fs) moves = [])
    (hrun : exec setup (.initial bus fs) moves = some s') :
    Disciplined setup (observe (step setup) openings (.initial bus fs) moves) s' := by
  rw [exec_eq_follow] at hrun
  obtain ⟨hturn, haccounted⟩ := inTurn_of_run halone hrun
  exact ⟨(opened_books s').symm.trans hturn.conduct.opened, hturn.conduct.calls,
    fun _ _ hstep c => callsOf_of_step (step_inv hstep) c, balance_of_accounted haccounted,
    fun hnone _ _ hd hc => told_of_accounted haccounted hnone hd hc,
    fun hnone _ _ _ _ hmoves hlater hdone => ended_of_call hnone hmoves hlater hdone⟩

end

/-- A paired client is taken into use, and then another one in its place. -/
theorem restart_in_order : ∃ s', exec plainSetup (.initial (.new channelName []) .empty)
      (restart .ready ++ [.resume 1 .ready]) = some s' ∧
    Disciplined plainSetup [some (.ofAccount "me" "s"), some (.ofAccount "me" "s")] s' := by
  let bus : Bus := .new channelName []
  let moves : List Move := restart .ready ++ [.resume 1 .ready]
  have hsome : (exec plainSetup (.initial bus .empty) moves).isSome = true := by decide +kernel
  have hrun := (Option.some_get hsome).symm
  have halone : observe (step plainSetup) overlaps (.initial bus .empty) moves = [] := by
    decide +kernel
  have howns : observe (step plainSetup) openings (.initial bus .empty) moves =
      [some (.ofAccount "me" "s"), some (.ofAccount "me" "s")] := by decide +kernel
  have hordered := clients_kept_in_order halone hrun
  rw [howns] at hordered
  exact ⟨_, hrun, hordered⟩

end ChatChannel.Native
