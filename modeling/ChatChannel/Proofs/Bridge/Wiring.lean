import ChatChannel.Proofs.Bridge.Step
import ChatChannel.Proofs.Run

/-!
# ChatChannel.Proofs.Bridge.Wiring

How the parts of the bridge transport hang together, whatever its operations and loops do and
however they give way to each other.

* `Orderly`: at most one loop is not over, and it is the latest; it stands in the slot, or the
  operation whose turn it is awaits its end.
* `Faithful`: the channel does not look better than it is. There is a published socket exactly if
  the connection is shown as connected, some loop has it, and a running flag goes with a loop.
* `wired_of_run`: both hold wherever a transport can get.
* `Orderly.silent_of_latest`: once the latest loop is over, all are.
-/

namespace ChatChannel.Bridge

/-- Where a loop is. -/
def State.pointOf? (s : State) (k : Nat) : Option LoopPoint :=
  s.loops[k]?.map ReadLoop.point

/-- All loops are over. -/
def State.Silent (s : State) : Prop :=
  ∀ k p, s.pointOf? k = some p → p = .ended

/-- A loop at this point has the published socket, if there is one. -/
def LoopPoint.hasSocket : LoopPoint → Bool
  | .reading _ => true
  | .delivering _ => true
  | .dropping => true
  | .ending => true
  | _ => false

/-- It is the turn of the operation at the slot. -/
def Operation.inTurn : Operation → Bool
  | .start _ .queued => false
  | .start _ _ => true
  | .stop (.joining _) => true
  | _ => false

/-- The loop whose end the operation awaits. -/
def Operation.awaits? : Operation → Option Nat
  | .start _ (.joining loop) => some loop
  | .stop (.joining loop) => some loop
  | _ => none

/-- The loops, the slot and the turn at it fit together. -/
structure Orderly (s : State) : Prop where
  latest : ∀ k p, s.pointOf? k = some p → p ≠ .ended → k + 1 = s.loops.length
  owned : ∀ k p, s.pointOf? k = some p → p ≠ .ended → s.slot = some k ∨
    ∃ i o, s.turn = some i ∧ s.operations[i]? = some o ∧ o.awaits? = some k
  turns : ∀ i o, s.operations[i]? = some o → o.inTurn = true → s.turn = some i
  slot : ∀ i, s.turn = some i → s.slot = none

/-- What the channel shows is backed by a loop. -/
structure Faithful (s : State) : Prop where
  writer : s.writer.isSome = true → ∃ k p, s.pointOf? k = some p ∧ p.hasSocket = true
  running : s.bus.running = true → ∃ k p, s.pointOf? k = some p ∧ p ≠ .ended
  connected : s.connection = .connected ↔ s.writer.isSome = true

section

variable {setup : Setup} {s s' : State} {m : Move} {i k : Nat} {p p' : LoopPoint}
  {o o' : Operation} {answer : Answer}

/-! ## Points -/

theorem pointOf?_eq {l : ReadLoop} (hl : s.loops[k]? = some l) : s.pointOf? k = some l.point := by
  simp [State.pointOf?, hl]

theorem pointOf?_congr (h : s'.loops = s.loops) (k : Nat) : s'.pointOf? k = s.pointOf? k := by
  simp only [State.pointOf?, h]

theorem pointOf?_loopAt (hp : s.pointOf? k = some p') : (s.loopAt k p).pointOf? k = some p := by
  obtain ⟨l, hl, -⟩ := Option.map_eq_some_iff.1 hp
  simp [State.pointOf?, State.loopAt, State.onLoop, hl]

theorem pointOf?_loopAt_ne {j : Nat} (hj : j ≠ k) : (s.loopAt k p).pointOf? j = s.pointOf? j := by
  simp [State.pointOf?, State.loopAt, State.onLoop, Ne.symm hj]

theorem pointOf?_cancel (j : Nat) :
    (s.onLoop k fun l => { l with cancelled := true }).pointOf? j = s.pointOf? j := by
  simp only [State.pointOf?, State.onLoop, List.getElem?_modify]
  cases s.loops[j]? with
  | none => simp
  | some l => by_cases hj : k = j <;> simp [hj]

theorem isEnded_iff : s.isEnded k = true ↔ ∀ p, s.pointOf? k = some p → p = .ended := by
  unfold State.isEnded State.pointOf?
  cases s.loops[k]? <;> simp

/-! ## Loops, slot and turn -/

theorem Orderly.congr (h : Orderly s) (hl : s'.loops = s.loops) (hslot : s'.slot = s.slot)
    (hturn : s'.turn = s.turn) (ho : s'.operations = s.operations) : Orderly s' := by
  refine ⟨fun k p hp => ?_, fun k p hp => ?_, ?_, ?_⟩
  · rw [pointOf?_congr hl] at hp
    rw [hl]
    exact h.latest k p hp
  · rw [pointOf?_congr hl] at hp
    rw [hslot, hturn, ho]
    exact h.owned k p hp
  · rw [hturn, ho]
    exact h.turns
  · rw [hturn, hslot]
    exact h.slot

theorem Orderly.silent_of_free (h : Orderly s) (hturn : s.turn = none) (hslot : s.slot = none) :
    s.Silent := by
  intro k p hp
  refine Classical.byContradiction fun hlive => ?_
  rcases h.owned k p hp hlive with hk | ⟨i, o, hi, -⟩
  · rw [hslot] at hk
    cases hk
  · rw [hturn] at hi
    cases hi

/-- In its turn, an operation that awaits the end of no loop, or of one that is over, has the
transport for itself. -/
theorem Orderly.silent_of_turn (h : Orderly s) (hi : s.operations[i]? = some o)
    (ho : o.inTurn = true) (hend : ∀ k, o.awaits? = some k → s.isEnded k = true) : s.Silent := by
  intro k p hp
  refine Classical.byContradiction fun hlive => ?_
  have hturn : s.turn = some i := h.turns i o hi ho
  rcases h.owned k p hp hlive with hk | ⟨j, o', hj, hj', hk⟩
  · rw [h.slot i hturn] at hk
    cases hk
  · obtain rfl : i = j := Option.some.inj (hturn.symm.trans hj)
    obtain rfl : o = o' := Option.some.inj (hi.symm.trans hj')
    exact hlive (isEnded_iff.1 (hend k hk) p hp)

theorem Orderly.silent_of_latest (h : Orderly s) (hlast : k + 1 = s.loops.length)
    (hend : s.pointOf? k = some .ended) : s.Silent := by
  intro j p hp
  refine Classical.byContradiction fun hlive => ?_
  obtain rfl : j = k := by
    have hj := h.latest j p hp hlive
    omega
  exact hlive (Option.some.inj (hp.symm.trans hend))

theorem Orderly.of_silent (hsilent : s.Silent)
    (turns : ∀ i o, s.operations[i]? = some o → o.inTurn = true → s.turn = some i)
    (slot : ∀ i, s.turn = some i → s.slot = none) : Orderly s :=
  ⟨fun k p hp hlive => absurd (hsilent k p hp) hlive,
    fun k p hp hlive => absurd (hsilent k p hp) hlive, turns, slot⟩

/-- Who is in turn after an operation was changed. -/
theorem Orderly.turns_set (h : Orderly s) {j : Nat}
    (hj : (s.operations.set i o')[j]? = some o) (ho : o.inTurn = true) :
    (j = i ∧ o = o') ∨ (j ≠ i ∧ s.turn = some j) := by
  rw [List.getElem?_set] at hj
  split at hj
  · rename_i hij
    subst hij
    split at hj
    · exact .inl ⟨rfl, (Option.some.inj hj).symm⟩
    · cases hj
  · rename_i hij
    exact .inr ⟨Ne.symm hij, h.turns j o hj ho⟩

theorem Orderly.setOperation (h : Orderly s) (hi : s.operations[i]? = some o)
    (hturn : o'.inTurn = o.inTurn) (hawaits : o'.awaits? = o.awaits?) :
    Orderly (s.setOperation i o') := by
  have hknown : i < s.operations.length := (List.getElem?_eq_some_iff.1 hi).1
  refine ⟨h.latest, fun k p hp hlive => ?_, fun j o₁ hj ho₁ => ?_, h.slot⟩
  · rcases h.owned k p hp hlive with hk | ⟨j, o₁, hj, hj', hk⟩
    · exact .inl hk
    · by_cases hij : i = j
      · subst hij
        obtain rfl : o = o₁ := Option.some.inj (hi.symm.trans hj')
        exact .inr ⟨i, o', hj, List.getElem?_set_self hknown, hawaits.trans hk⟩
      · refine .inr ⟨j, o₁, hj, ?_, hk⟩
        exact (List.getElem?_set_ne hij).trans hj'
  · rcases h.turns_set hj ho₁ with ⟨rfl, rfl⟩ | ⟨-, hj⟩
    · exact h.turns j o hi (hturn.symm.trans ho₁)
    · exact hj

theorem Orderly.loopAt (h : Orderly s) (hp : s.pointOf? k = some p) (hlive : p ≠ .ended)
    (p' : LoopPoint) : Orderly (s.loopAt k p') := by
  have before : ∀ j q, (s.loopAt k p').pointOf? j = some q → q ≠ .ended →
      ∃ q', s.pointOf? j = some q' ∧ q' ≠ .ended := by
    intro j q hq hq'
    by_cases hj : j = k
    · exact ⟨p, hj ▸ hp, hlive⟩
    · rw [pointOf?_loopAt_ne hj] at hq
      exact ⟨q, hq, hq'⟩
  refine ⟨fun j q hq hq' => ?_, fun j q hq hq' => ?_, h.turns, h.slot⟩
  · obtain ⟨q₀, hq₀, hlive₀⟩ := before j q hq hq'
    rw [h.latest j q₀ hq₀ hlive₀]
    simp [State.loopAt, State.onLoop]
  · obtain ⟨q₀, hq₀, hlive₀⟩ := before j q hq hq'
    exact h.owned j q₀ hq₀ hlive₀

/-- An operation takes the loop out of the slot and awaits its end. -/
theorem Orderly.join (h : Orderly s) (hturn : s.turn = none) (hslot : s.slot = some k)
    (hknown : i < s.operations.length) (hawaits : o'.awaits? = some k) :
    Orderly (({ s with turn := some i, slot := none }.onLoop k
      fun l => { l with cancelled := true }).setOperation i o') := by
  refine ⟨fun j p hp hlive => ?_, fun j p hp hlive => ?_, fun j o hj ho => ?_, fun _ _ => rfl⟩
  · rw [h.latest j p ((pointOf?_cancel j).symm.trans hp) hlive]
    simp [State.setOperation, State.onLoop]
  · rcases h.owned j p ((pointOf?_cancel j).symm.trans hp) hlive with hj | ⟨_, _, hnone, -⟩
    · obtain rfl : k = j := Option.some.inj (hslot.symm.trans hj)
      exact .inr ⟨i, o', rfl, List.getElem?_set_self hknown, hawaits⟩
    · rw [hturn] at hnone
      cases hnone
  · rcases h.turns_set hj ho with ⟨rfl, -⟩ | ⟨-, hnone⟩
    · rfl
    · rw [hturn] at hnone
      cases hnone

/-- An operation takes its turn, or keeps it, while all loops are over. -/
theorem Orderly.useTurn (h : Orderly s) (hsilent : s.Silent) (i : Nat) (o' : Operation)
    (hturn : s.turn = none ∨ s.turn = some i) (hslot : s.slot = none) :
    Orderly ({ s with turn := some i }.setOperation i o') := by
  refine .of_silent hsilent (fun j o hj ho => ?_) fun _ _ => hslot
  rcases h.turns_set hj ho with ⟨rfl, -⟩ | ⟨-, hj⟩
  · rfl
  · rcases hturn with hnone | hi
    · rw [hnone] at hj
      cases hj
    · exact hi.symm.trans hj

theorem Orderly.no_turn (h : Orderly s) (hturn : s.turn = some i) (ho' : o'.inTurn = false)
    {j : Nat} (hj : (s.operations.set i o')[j]? = some o) : o.inTurn = false := by
  refine Bool.eq_false_iff.2 fun ho => ?_
  rcases h.turns_set hj ho with ⟨-, rfl⟩ | ⟨hji, hj⟩
  · rw [ho] at ho'
    cases ho'
  · exact hji (Option.some.inj (hj.symm.trans hturn))

theorem Orderly.endTurn (h : Orderly s) (hsilent : s.Silent) (o' : Operation)
    (hturn : s.turn = some i) (ho' : o'.inTurn = false) :
    Orderly ({ s with turn := none }.setOperation i o') := by
  refine .of_silent hsilent (fun j o hj ho => ?_) fun _ hnone => ?_
  · rw [h.no_turn hturn ho' hj] at ho
    cases ho
  · cases hnone

/-- A start gives its turn back and leaves a new loop in the slot. -/
theorem Orderly.addLoop (h : Orderly s) (hsilent : s.Silent) (o' : Operation)
    (hturn : s.turn = some i) (ho' : o'.inTurn = false) (token socket : Nat) :
    Orderly ((s.addLoop token socket).setOperation i o') := by
  have new : ∀ k p, ((s.addLoop token socket).setOperation i o').pointOf? k = some p →
      p ≠ .ended → k = s.loops.length := by
    intro k p hp hlive
    refine Classical.byContradiction fun hk => ?_
    obtain ⟨l, hl, rfl⟩ := Option.map_eq_some_iff.1 hp
    simp only [State.setOperation, State.addLoop, List.getElem?_append] at hl
    split at hl
    · exact hlive (hsilent k _ (pointOf?_eq hl))
    · have hsub : k - s.loops.length ≠ 0 := by omega
      obtain ⟨n, hn⟩ := Nat.exists_eq_succ_of_ne_zero hsub
      rw [hn] at hl
      cases hl
  refine ⟨fun k p hp hlive => ?_, fun k p hp hlive => ?_, fun j o hj ho => ?_, fun _ hnone => ?_⟩
  · rw [new k p hp hlive]
    simp [State.setOperation, State.addLoop]
  · rw [new k p hp hlive]
    exact .inl rfl
  · rw [h.no_turn hturn ho' hj] at ho
    cases ho
  · cases hnone

theorem orderly_of_startStep {token : Nat} {point : StartPoint} (h : Orderly s)
    (hi : s.operations[i]? = some (.start token point))
    (hs : StartStep setup s i token point answer s') : Orderly s' := by
  have hknown : i < s.operations.length := (List.getElem?_eq_some_iff.1 hi).1
  have alone : (Operation.start token point).inTurn = true →
      (∀ k, (Operation.start token point).awaits? = some k → s.isEnded k = true) →
      s.Silent ∧ s.turn = some i ∧ s.slot = none := by
    intro ho hend
    have hturn := h.turns i _ hi ho
    exact ⟨h.silent_of_turn hi ho hend, hturn, h.slot i hturn⟩
  cases hs with
  | join hturn hslot => exact h.join hturn hslot hknown rfl
  | dial hturn hslot =>
    have htaken := h.useTurn (h.silent_of_free hturn hslot) i
      (.start token (.dialing (s.now + setup.timing.handshakeTimeout.toNat))) (.inl hturn) hslot
    exact htaken.congr rfl rfl rfl rfl
  | joined hend =>
    obtain ⟨hsilent, hturn, hslot⟩ := alone rfl (by rintro k ⟨⟩; exact hend)
    have hkept := h.useTurn hsilent i
      (.start token (.dialing (s.now + setup.timing.handshakeTimeout.toNat))) (.inr hturn) hslot
    exact hkept.congr rfl rfl hturn rfl
  | opened =>
    have hopened : Orderly s.opened.1 := h.congr rfl rfl rfl rfl
    exact hopened.setOperation hi rfl rfl
  | @refused _ text =>
    obtain ⟨hsilent, hturn, -⟩ := alone rfl (by rintro k ⟨⟩)
    have hended := h.endTurn hsilent
      (.finished (.error ((DialFault.refused text).error setup))) hturn rfl
    exact hended.congr rfl rfl rfl rfl
  | late _ =>
    obtain ⟨hsilent, hturn, -⟩ := alone rfl (by rintro k ⟨⟩)
    have hended := h.endTurn hsilent (.finished (.error (DialFault.late.error setup))) hturn rfl
    exact hended.congr rfl rfl rfl rfl
  | @published socket =>
    obtain ⟨hsilent, hturn, -⟩ := alone rfl (by rintro k ⟨⟩)
    have hadded := h.addLoop hsilent (.finished (.ok ())) hturn rfl token socket
    exact hadded.congr rfl rfl rfl rfl

theorem orderly_of_stopStep {point : StopPoint} (h : Orderly s)
    (hi : s.operations[i]? = some (.stop point)) (hs : StopStep s i point answer s') :
    Orderly s' := by
  have hknown : i < s.operations.length := (List.getElem?_eq_some_iff.1 hi).1
  cases hs with
  | check =>
    have hstopped : Orderly { s with bus := s.bus.setRunning false } := h.congr rfl rfl rfl rfl
    exact hstopped.setOperation hi rfl rfl
  | join hturn hslot => exact h.join hturn hslot hknown rfl
  | free hturn hslot =>
    have hfree : Orderly { s with turn := none } := h.congr rfl rfl hturn.symm rfl
    exact hfree.setOperation hi rfl rfl
  | joined hend =>
    have hturn : s.turn = some i := h.turns i _ hi rfl
    have hsilent : s.Silent := h.silent_of_turn hi rfl (by rintro k ⟨⟩; exact hend)
    exact h.endTurn hsilent (.stop .dropping) hturn rfl
  | @close socket hw =>
    have hclosed : Orderly (s.dropWriter.1.record (.close socket)) := h.congr rfl rfl rfl rfl
    exact hclosed.setOperation hi rfl rfl
  | nothing hw =>
    have hdropped : Orderly s.dropWriter.1 := h.congr rfl rfl rfl rfl
    exact hdropped.setOperation hi rfl rfl
  | closed => exact h.setOperation hi rfl rfl

theorem orderly_of_sendStep {message : OutboundMessage} {point : SendPoint} (h : Orderly s)
    (hi : s.operations[i]? = some (.send message point))
    (hs : SendStep s i message point answer s') : Orderly s' := by
  cases hs with
  | @write socket hw =>
    have hwritten : Orderly
        (s.record (.write socket (Frame.outbound message.chat message.content))) :=
      h.congr rfl rfl rfl rfl
    exact hwritten.setOperation hi rfl rfl
  | _ => exact h.setOperation hi rfl rfl

/-- A loop goes on from a point where it is not over, and changes neither slot nor turns. -/
theorem goes_on_of_loopStep (hs : LoopStep setup s k p answer s') :
    p ≠ .ended ∧ ∃ p', s'.loops = (s.loopAt k p').loops ∧ s'.slot = s.slot ∧ s'.turn = s.turn ∧
      s'.operations = s.operations := by
  cases hs <;> exact ⟨by simp, _, rfl, rfl, rfl, rfl⟩

theorem orderly_of_loopStep (h : Orderly s) (hp : s.pointOf? k = some p)
    (hs : LoopStep setup s k p answer s') : Orderly s' := by
  obtain ⟨hlive, p', hl, hslot, hturn, ho⟩ := goes_on_of_loopStep hs
  exact (h.loopAt hp hlive p').congr hl hslot hturn ho

theorem orderly_of_read {socket : Nat} (h : Orderly s)
    (hp : s.pointOf? k = some (.reading socket)) (incoming : Incoming) :
    Orderly (s.read k socket incoming) := by
  unfold State.read
  split
  · exact h.loopAt hp (by simp) _
  · split
    · exact h
    · rename_i message _
      split
      · have hhandled : Orderly { s with bus := s.bus.handle ⟨message, []⟩ } :=
          h.congr rfl rfl rfl rfl
        exact hhandled.loopAt hp (by simp) _
      · exact h

theorem orderly_of_call (h : Orderly s) (c : Call) : Orderly (s.begin c) := by
  -- The new operation is not in turn, and awaits nothing.
  have appended : ∀ o, o.inTurn = false →
      Orderly { s with operations := s.operations ++ [o] } := by
    intro o ho
    refine ⟨h.latest, fun k p hp hlive => ?_, fun j o' hj ho' => ?_, h.slot⟩
    · rcases h.owned k p hp hlive with hk | ⟨j, o', hj, hj', hk⟩
      · exact .inl hk
      · have hknown : j < s.operations.length := (List.getElem?_eq_some_iff.1 hj').1
        exact .inr ⟨j, o', hj, (List.getElem?_append_left hknown).trans hj', hk⟩
    · by_cases hknown : j < s.operations.length
      · exact h.turns j o' ((List.getElem?_append_left hknown).symm.trans hj) ho'
      · rw [List.getElem?_append_right (by omega)] at hj
        obtain rfl := List.mem_singleton.1 (List.mem_of_getElem? hj)
        rw [ho] at ho'
        cases ho'
  cases c with
  | start token => exact appended _ rfl
  | stop => exact appended _ rfl
  | send message => exact appended _ rfl

theorem orderly_of_step (h : Orderly s) (hs : Step setup s m s') : Orderly s' := by
  cases hs with
  | call c => exact orderly_of_call h c
  | start hi hs => exact orderly_of_startStep h hi hs
  | stop hi hs => exact orderly_of_stopStep h hi hs
  | send hi hs => exact orderly_of_sendStep h hi hs
  | cancel token => exact h.congr rfl rfl rfl rfl
  | elapse _ => exact h.congr rfl rfl rfl rfl
  | receive hl hp => exact orderly_of_read h (hp ▸ pointOf?_eq hl) _
  | halt hl hh =>
    refine h.loopAt (pointOf?_eq hl) (fun hend => ?_) _
    simp [State.isHalting, hend] at hh
  | proceed hl hp hs => exact orderly_of_loopStep h (hp ▸ pointOf?_eq hl) hs

/-! ## What the channel shows -/

theorem Faithful.congr (h : Faithful s) (hpoint : ∀ k, s'.pointOf? k = s.pointOf? k)
    (hw : s'.writer = s.writer) (hr : s'.bus.running = s.bus.running)
    (hc : s'.connection = s.connection) : Faithful s' := by
  refine ⟨fun hsome => ?_, fun hrunning => ?_, ?_⟩
  · obtain ⟨k, p, hp, hsocket⟩ := h.writer (hw ▸ hsome)
    exact ⟨k, p, (hpoint k).trans hp, hsocket⟩
  · obtain ⟨k, p, hp, hlive⟩ := h.running (hr ▸ hrunning)
    exact ⟨k, p, (hpoint k).trans hp, hlive⟩
  · rw [hc, hw]
    exact h.connected

theorem Faithful.not_connected (h : Faithful s) (hw : s.writer = none) :
    s.connection ≠ .connected := by
  simpa [hw] using h.connected

/-- While all loops are over, the channel shows that it is down. -/
theorem Faithful.down (h : Faithful s) (hsilent : s.Silent) :
    s.writer = none ∧ s.bus.running = false ∧ s.connection ≠ .connected := by
  have hw : s.writer = none := by
    refine Option.not_isSome_iff_eq_none.1 fun hsome => ?_
    obtain ⟨k, p, hp, hsocket⟩ := h.writer hsome
    rw [hsilent k p hp] at hsocket
    cases hsocket
  have hr : s.bus.running = false := by
    refine Bool.eq_false_iff.2 fun hrunning => ?_
    obtain ⟨k, p, hp, hlive⟩ := h.running hrunning
    exact hlive (hsilent k p hp)
  exact ⟨hw, hr, h.not_connected hw⟩

theorem Faithful.of_down (hw : s.writer = none) (hr : s.bus.running = false)
    (hc : s.connection ≠ .connected) : Faithful s :=
  ⟨by simp [hw], by simp [hr], by simp [hw, hc]⟩

theorem Faithful.of_point (hp : s.pointOf? k = some p)
    (hw : s.writer.isSome = true → p.hasSocket = true)
    (hr : s.bus.running = true → p ≠ .ended)
    (hc : s.connection = .connected ↔ s.writer.isSome = true) : Faithful s :=
  ⟨fun hsome => ⟨k, p, hp, hw hsome⟩, fun hrunning => ⟨k, p, hp, hr hrunning⟩, hc⟩

/-- A loop is on its way, and has published no socket. -/
theorem Faithful.of_idle (hp : s.pointOf? k = some p) (hlive : p ≠ .ended)
    (hw : s.writer = none) (hc : s.connection ≠ .connected) : Faithful s :=
  .of_point hp (by simp [hw]) (fun _ => hlive) (by simp [hw, hc])

theorem Faithful.dropped (h : Faithful s) (hl : s'.loops = s.loops) (hw : s'.writer = none)
    (hr : s'.bus.running = s.bus.running) (hc : s'.connection = .disconnected) :
    Faithful s' := by
  refine ⟨by simp [hw], fun hrunning => ?_, by simp [hw, hc]⟩
  obtain ⟨k, p, hp, hlive⟩ := h.running (hr ▸ hrunning)
  exact ⟨k, p, (pointOf?_congr hl k).trans hp, hlive⟩

/-- While a loop that is not over has no socket, no socket is published. -/
theorem Faithful.no_writer (h : Faithful s) (ho : Orderly s) (hp : s.pointOf? k = some p)
    (hlive : p ≠ .ended) (hsocket : p.hasSocket = false) : s.writer = none := by
  refine Option.not_isSome_iff_eq_none.1 fun hsome => ?_
  obtain ⟨j, q, hq, hq'⟩ := h.writer hsome
  have hjlive : q ≠ .ended := by
    rintro rfl
    cases hq'
  obtain rfl : j = k := by
    have hj := ho.latest j q hq hjlive
    have hk := ho.latest k p hp hlive
    omega
  obtain rfl : p = q := Option.some.inj (hp.symm.trans hq)
  rw [hsocket] at hq'
  cases hq'

theorem faithful_of_startStep {token : Nat} {point : StartPoint} (h : Faithful s) (ho : Orderly s)
    (hi : s.operations[i]? = some (.start token point))
    (hs : StartStep setup s i token point answer s') : Faithful s' := by
  have down : (Operation.start token point).inTurn = true →
      (∀ k, (Operation.start token point).awaits? = some k → s.isEnded k = true) →
      s.writer = none ∧ s.bus.running = false ∧ s.connection ≠ .connected := fun hturn hend =>
    h.down (ho.silent_of_turn hi hturn hend)
  cases hs with
  | join => exact h.congr (fun j => pointOf?_cancel j) rfl rfl rfl
  | dial hturn hslot =>
    obtain ⟨hw, hr, -⟩ := h.down (ho.silent_of_free hturn hslot)
    exact .of_down hw hr nofun
  | joined hend =>
    obtain ⟨hw, hr, -⟩ := down rfl (by rintro k ⟨⟩; exact hend)
    exact .of_down hw hr nofun
  | opened => exact h.congr (fun _ => rfl) rfl rfl rfl
  | refused =>
    obtain ⟨hw, hr, -⟩ := down rfl (by rintro k ⟨⟩)
    exact .of_down hw hr nofun
  | late =>
    obtain ⟨hw, hr, -⟩ := down rfl (by rintro k ⟨⟩)
    exact .of_down hw hr nofun
  | @published socket =>
    refine .of_point (k := s.loops.length) (p := .reading socket) ?_ (fun _ => rfl) (fun _ => nofun)
      ⟨fun _ => rfl, fun _ => rfl⟩
    simp [State.pointOf?, State.finish, State.setOperation, State.addLoop, State.publish]

theorem faithful_of_stopStep {point : StopPoint} (h : Faithful s)
    (hs : StopStep s i point answer s') : Faithful s' := by
  cases hs with
  | check => exact ⟨h.writer, nofun, h.connected⟩
  | join => exact h.congr (fun j => pointOf?_cancel j) rfl rfl rfl
  | close => exact h.dropped rfl rfl rfl rfl
  | nothing => exact h.dropped rfl rfl rfl rfl
  | _ => exact h.congr (fun _ => rfl) rfl rfl rfl

theorem faithful_of_sendStep {message : OutboundMessage} {point : SendPoint} (h : Faithful s)
    (hs : SendStep s i message point answer s') : Faithful s' := by
  cases hs <;> exact h.congr (fun _ => rfl) rfl rfl rfl

theorem faithful_of_loopStep (h : Faithful s) (ho : Orderly s) (hp : s.pointOf? k = some p)
    (hs : LoopStep setup s k p answer s') : Faithful s' := by
  have hlive : p ≠ .ended := (goes_on_of_loopStep hs).1
  have at_next : ∀ {t : State} (p' : LoopPoint), t.loops = s.loops →
      (t.loopAt k p').pointOf? k = some p' := fun p' hl =>
    pointOf?_loopAt ((pointOf?_congr hl k).trans hp)
  have no_writer : p.hasSocket = false → s.writer = none := h.no_writer ho hp hlive
  cases hs with
  | delivered => exact .of_point (at_next _ rfl) (fun _ => rfl) (fun _ => nofun) h.connected
  | close => exact .of_idle (at_next _ rfl) nofun rfl nofun
  | nothing => exact .of_idle (at_next _ rfl) nofun rfl nofun
  | closed =>
    have hw : s.writer = none := no_writer rfl
    exact .of_idle (at_next _ rfl) nofun hw (h.not_connected hw)
  | dial => exact .of_idle (at_next _ rfl) nofun (no_writer rfl) nofun
  | opened =>
    have hw : s.writer = none := no_writer rfl
    exact .of_idle (at_next _ rfl) nofun hw (h.not_connected hw)
  | refused => exact .of_idle (at_next _ rfl) nofun (no_writer rfl) nofun
  | late => exact .of_idle (at_next _ rfl) nofun (no_writer rfl) nofun
  | published =>
    exact .of_point (at_next _ rfl) (fun _ => rfl) (fun _ => nofun) ⟨fun _ => rfl, fun _ => rfl⟩
  | endClose => exact .of_idle (at_next _ rfl) nofun rfl nofun
  | endNothing => exact .of_down rfl rfl nofun
  | endClosed =>
    have hw : s.writer = none := no_writer rfl
    exact .of_down hw rfl (h.not_connected hw)

theorem faithful_of_read {socket : Nat} (h : Faithful s)
    (hp : s.pointOf? k = some (.reading socket)) (incoming : Incoming) :
    Faithful (s.read k socket incoming) := by
  unfold State.read
  split
  · exact .of_point (pointOf?_loopAt hp) (fun _ => rfl) (fun _ => nofun) h.connected
  · split
    · exact h
    · rename_i message _
      split
      · have hhandled : ({ s with bus := s.bus.handle ⟨message, []⟩ } : State).pointOf? k =
            some (.reading socket) := hp
        exact .of_point (pointOf?_loopAt hhandled) (fun _ => rfl) (fun _ => nofun) h.connected
      · exact h

theorem faithful_of_step (h : Faithful s) (ho : Orderly s) (hs : Step setup s m s') :
    Faithful s' := by
  cases hs with
  | call c => cases c <;> exact h.congr (fun _ => rfl) rfl rfl rfl
  | start hi hs => exact faithful_of_startStep h ho hi hs
  | stop _ hs => exact faithful_of_stopStep h hs
  | send _ hs => exact faithful_of_sendStep h hs
  | cancel token => exact h.congr (fun _ => rfl) rfl rfl rfl
  | elapse _ => exact h.congr (fun _ => rfl) rfl rfl rfl
  | receive hl hp => exact faithful_of_read h (hp ▸ pointOf?_eq hl) _
  | halt hl _ =>
    exact .of_point (pointOf?_loopAt (pointOf?_eq hl)) (fun _ => rfl) (fun _ => nofun) h.connected
  | proceed hl hp hs => exact faithful_of_loopStep h ho (hp ▸ pointOf?_eq hl) hs

/-- A channel that has come this far from its beginning hangs together. -/
theorem wired_of_run {bus : Bus} {moves : List Move} (hrunning : bus.running = false)
    (hrun : exec setup (.initial bus) moves = some s') : Orderly s' ∧ Faithful s' := by
  have hinitial : Orderly (.initial bus) ∧ Faithful (.initial bus) :=
    ⟨.of_silent nofun nofun nofun, .of_down rfl hrunning nofun⟩
  rw [exec_eq_follow] at hrun
  refine follow_invariant (P := fun t => Orderly t ∧ Faithful t) (Q := fun _ => True) ?_ hinitial
    (fun _ _ => trivial) hrun
  intro t m t' ht _ hstep
  have hs : Step setup t m t' := step_inv hstep
  exact ⟨orderly_of_step ht.1 hs, faithful_of_step ht.2 ht.1 hs⟩

end

end ChatChannel.Bridge
