import ChatChannel.Bridge.Lifecycle

/-!
# ChatChannel.Proofs.Bridge.Step

What a move of the bridge transport can do, said once. Each relation has one rule for each way in
which a part of the transport goes on: `StartStep`, `StopStep` and `SendStep` for operations,
`LoopStep` for a read loop, and `Step` for the transport as a whole.

* `step_inv`: every move that is possible goes by one of the rules.
* `read_inv`: what a loop has read makes it go on by one of the rules of `ReadStep`.
-/

namespace ChatChannel.Bridge

/-- The rules of a start. -/
inductive StartStep (setup : Setup) (s : State) (i token : Nat) :
    StartPoint → Answer → State → Prop where
  | join {loop : Nat} (hturn : s.turn = none) (hslot : s.slot = some loop) :
      StartStep setup s i token .queued .ready
        (({ s with turn := some i, slot := none }.onLoop loop
          fun l => { l with cancelled := true }).startAt i token (.joining loop))
  | dial (hturn : s.turn = none) (hslot : s.slot = none) :
      StartStep setup s i token .queued .ready ({ s with turn := some i }.startDial setup i token)
  | joined {loop : Nat} (hend : s.isEnded loop = true) :
      StartStep setup s i token (.joining loop) .ready (s.startDial setup i token)
  | opened {deadline : Nat} :
      StartStep setup s i token (.dialing deadline) .ready
        (s.opened.1.startAt i token (.publishing s.sockets))
  | refused {deadline : Nat} {text : String} :
      StartStep setup s i token (.dialing deadline) (.failed text)
        (s.startFailed setup i (.refused text))
  | late {deadline : Nat} (h : deadline ≤ s.now) :
      StartStep setup s i token (.dialing deadline) .expired (s.startFailed setup i .late)
  | published {socket : Nat} :
      StartStep setup s i token (.publishing socket) .ready
        (((s.publish socket).addLoop token socket).finish i (.ok ()))

/-- The rules of a stop. -/
inductive StopStep (s : State) (i : Nat) : StopPoint → Answer → State → Prop where
  | check :
      StopStep s i .check .ready
        ({ s with bus := s.bus.setRunning false }.setOperation i (.stop .queued))
  | join {loop : Nat} (hturn : s.turn = none) (hslot : s.slot = some loop) :
      StopStep s i .queued .ready
        (({ s with turn := some i, slot := none }.onLoop loop
          fun l => { l with cancelled := true }).setOperation i (.stop (.joining loop)))
  | free (hturn : s.turn = none) (hslot : s.slot = none) :
      StopStep s i .queued .ready ({ s with turn := none }.setOperation i (.stop .dropping))
  | joined {loop : Nat} (hend : s.isEnded loop = true) :
      StopStep s i (.joining loop) .ready
        ({ s with turn := none }.setOperation i (.stop .dropping))
  | close {socket : Nat} (hw : s.writer = some socket) :
      StopStep s i .dropping .ready
        ((s.dropWriter.1.record (.close socket)).setOperation i (.stop (.closing socket)))
  | nothing (hw : s.writer = none) :
      StopStep s i .dropping .ready (s.dropWriter.1.finish i (.ok ()))
  | closed {socket : Nat} {answer : Answer} :
      StopStep s i (.closing socket) answer (s.finish i (.ok ()))

/-- The rules of a send. -/
inductive SendStep (s : State) (i : Nat) (m : OutboundMessage) :
    SendPoint → Answer → State → Prop where
  | unconnected (hw : s.writer = none) :
      SendStep s i m .lookup .ready
        (s.finish i (.error (.connectivity "whatsapp bridge not connected")))
  | write {socket : Nat} (hw : s.writer = some socket) :
      SendStep s i m .lookup .ready
        ((s.record (.write socket (Frame.outbound m.chat m.content))).setOperation i
          (.send m (.writing socket)))
  | written {socket : Nat} : SendStep s i m (.writing socket) .ready (s.finish i (.ok ()))
  | failed {socket : Nat} {text : String} :
      SendStep s i m (.writing socket) (.failed text)
        (s.finish i (.error (.delivery "write bridge frame" text)))

/-- The rules of a read loop that goes on with anything else than reading. -/
inductive LoopStep (setup : Setup) (s : State) (loop : Nat) :
    LoopPoint → Answer → State → Prop where
  | delivered {socket : Nat} :
      LoopStep setup s loop (.delivering socket) .ready (s.loopAt loop (.reading socket))
  | close {socket : Nat} (hw : s.writer = some socket) :
      LoopStep setup s loop .dropping .ready
        ((s.dropWriter.1.record (.close socket)).loopAt loop (.closing socket))
  | nothing (hw : s.writer = none) :
      LoopStep setup s loop .dropping .ready
        (s.dropWriter.1.rest loop setup.timing.errorBackoff)
  | closed {socket : Nat} {answer : Answer} :
      LoopStep setup s loop (.closing socket) answer (s.rest loop setup.timing.errorBackoff)
  | dial {wake : Nat} (h : wake ≤ s.now) :
      LoopStep setup s loop (.resting wake) .ready (s.redial setup loop)
  | opened {deadline : Nat} :
      LoopStep setup s loop (.dialing deadline) .ready
        (s.opened.1.loopAt loop (.publishing s.sockets))
  | refused {deadline : Nat} {text : String} :
      LoopStep setup s loop (.dialing deadline) (.failed text) (s.redialFailed setup loop)
  | late {deadline : Nat} (h : deadline ≤ s.now) :
      LoopStep setup s loop (.dialing deadline) .expired (s.redialFailed setup loop)
  | published {socket : Nat} :
      LoopStep setup s loop (.publishing socket) .ready
        ((s.publish socket).loopAt loop (.reading socket))
  | endClose {socket : Nat} (hw : s.writer = some socket) :
      LoopStep setup s loop .ending .ready
        ((s.dropWriter.1.record (.close socket)).loopAt loop (.endClosing socket))
  | endNothing (hw : s.writer = none) :
      LoopStep setup s loop .ending .ready (s.dropWriter.1.endLoop loop)
  | endClosed {socket : Nat} {answer : Answer} :
      LoopStep setup s loop (.endClosing socket) answer (s.endLoop loop)

/-- The rules of a read loop that has read something. -/
inductive ReadStep (s : State) (loop socket : Nat) : Incoming → State → Prop where
  | lost : ReadStep s loop socket .lost (s.loopAt loop .dropping)
  | skipped {incoming : Incoming} (h : incoming ≠ .lost) : ReadStep s loop socket incoming s
  | delivered {incoming : Incoming} {message : InboundMessage} (h : incoming ≠ .lost)
      (hadmits : s.bus.admits message.sender = true) :
      ReadStep s loop socket incoming
        ({ s with bus := s.bus.handle ⟨message, []⟩ }.loopAt loop (.delivering socket))

/-- The rules of the transport. -/
inductive Step (setup : Setup) (s : State) : Move → State → Prop where
  | call (c : Call) : Step setup s (.call c) (s.begin c)
  | start {i token : Nat} {point : StartPoint} {answer : Answer} {s' : State}
      (hi : s.operations[i]? = some (.start token point))
      (h : StartStep setup s i token point answer s') : Step setup s (.resume i answer) s'
  | stop {i : Nat} {point : StopPoint} {answer : Answer} {s' : State}
      (hi : s.operations[i]? = some (.stop point))
      (h : StopStep s i point answer s') : Step setup s (.resume i answer) s'
  | send {i : Nat} {m : OutboundMessage} {point : SendPoint} {answer : Answer} {s' : State}
      (hi : s.operations[i]? = some (.send m point))
      (h : SendStep s i m point answer s') : Step setup s (.resume i answer) s'
  | cancel (token : Nat) : Step setup s (.cancel token) { s with fired := s.fired ++ [token] }
  | elapse {millis : Nat} (h : s.mayElapse millis = true) :
      Step setup s (.elapse millis) { s with now := s.now + millis }
  | receive {loop socket : Nat} {l : ReadLoop} {incoming : Incoming}
      (hl : s.loops[loop]? = some l) (hp : l.point = .reading socket) :
      Step setup s (.receive loop incoming) (s.read loop socket incoming)
  | halt {loop : Nat} {l : ReadLoop} (hl : s.loops[loop]? = some l)
      (h : s.isHalting l = true) : Step setup s (.halt loop) (s.loopAt loop .ending)
  | proceed {loop : Nat} {l : ReadLoop} {point : LoopPoint} {answer : Answer} {s' : State}
      (hl : s.loops[loop]? = some l) (hp : l.point = point)
      (h : LoopStep setup s loop point answer s') :
      Step setup s (.proceed loop answer) s'

variable {setup : Setup} {s s' : State} {i : Nat} {answer : Answer}

theorem takeSlot_none (hslot : s.slot = none) :
    s.takeSlot i = ({ s with turn := some i }, none) := by
  simp only [State.takeSlot, hslot]

theorem takeSlot_some {loop : Nat} (hslot : s.slot = some loop) :
    s.takeSlot i =
      ({ s with turn := some i, slot := none }.onLoop loop
        fun l => { l with cancelled := true }, some loop) := by
  simp only [State.takeSlot, hslot]

theorem resumeStart_inv {token : Nat} {point : StartPoint}
    (h : s.resumeStart setup i token point answer = some s') :
    StartStep setup s i token point answer s' := by
  unfold State.resumeStart at h
  split at h
  case h_1 =>
    split at h
    · cases h
    · rename_i hturn
      have hturn : s.turn = none := by simpa using hturn
      cases hslot : s.slot with
      | none =>
        rw [takeSlot_none hslot] at h
        cases h
        exact .dial hturn hslot
      | some loop =>
        rw [takeSlot_some hslot] at h
        cases h
        exact .join hturn hslot
  case h_2 =>
    split at h
    · rename_i hend
      cases h
      exact .joined hend
    · cases h
  case h_3 => cases h; exact .opened
  case h_4 => cases h; exact .refused
  case h_5 =>
    split at h
    · rename_i hlate
      cases h
      exact .late hlate
    · cases h
  case h_6 => cases h; exact .published
  case h_7 => cases h

theorem resumeStop_inv {point : StopPoint} (h : s.resumeStop i point answer = some s') :
    StopStep s i point answer s' := by
  unfold State.resumeStop at h
  split at h
  case h_1 => cases h; exact .check
  case h_2 =>
    split at h
    · cases h
    · rename_i hturn
      have hturn : s.turn = none := by simpa using hturn
      cases hslot : s.slot with
      | none =>
        rw [takeSlot_none hslot] at h
        cases h
        exact .free hturn hslot
      | some loop =>
        rw [takeSlot_some hslot] at h
        cases h
        exact .join hturn hslot
  case h_3 =>
    split at h
    · rename_i hend
      cases h
      exact .joined hend
    · cases h
  case h_4 =>
    cases hw : s.writer with
    | none =>
      simp only [State.dropWriter, hw, Option.some.injEq] at h
      exact h ▸ .nothing hw
    | some socket =>
      simp only [State.dropWriter, hw, Option.some.injEq] at h
      exact h ▸ .close hw
  case h_5 => cases h; exact .closed
  case h_6 => cases h

theorem resumeSend_inv {m : OutboundMessage} {point : SendPoint}
    (h : s.resumeSend i m point answer = some s') : SendStep s i m point answer s' := by
  unfold State.resumeSend at h
  split at h
  case h_1 =>
    split at h
    · rename_i hw
      cases h
      exact .unconnected hw
    · rename_i hw
      cases h
      exact .write hw
  case h_2 => cases h; exact .written
  case h_3 => cases h; exact .failed
  case h_4 => cases h

theorem proceed_inv {loop : Nat} {point : LoopPoint}
    (h : s.proceed setup loop point answer = some s') :
    LoopStep setup s loop point answer s' := by
  unfold State.proceed at h
  split at h
  case h_1 => cases h; exact .delivered
  case h_2 =>
    cases hw : s.writer with
    | none =>
      simp only [State.dropWriter, hw, Option.some.injEq] at h
      exact h ▸ .nothing hw
    | some socket =>
      simp only [State.dropWriter, hw, Option.some.injEq] at h
      exact h ▸ .close hw
  case h_3 => cases h; exact .closed
  case h_4 =>
    split at h
    · rename_i hwake
      cases h
      exact .dial hwake
    · cases h
  case h_5 => cases h; exact .opened
  case h_6 => cases h; exact .refused
  case h_7 =>
    split at h
    · rename_i hlate
      cases h
      exact .late hlate
    · cases h
  case h_8 => cases h; exact .published
  case h_9 =>
    cases hw : s.writer with
    | none =>
      simp only [State.dropWriter, hw, Option.some.injEq] at h
      exact h ▸ .endNothing hw
    | some socket =>
      simp only [State.dropWriter, hw, Option.some.injEq] at h
      exact h ▸ .endClose hw
  case h_10 => cases h; exact .endClosed
  case h_11 => cases h

theorem resume_inv (h : s.resume setup i answer = some s') :
    Step setup s (.resume i answer) s' := by
  unfold State.resume at h
  split at h
  · rename_i hi; exact .start hi (resumeStart_inv h)
  · rename_i hi; exact .stop hi (resumeStop_inv h)
  · rename_i hi; exact .send hi (resumeSend_inv h)
  · cases h
  · cases h

theorem read_inv {loop socket : Nat} {incoming : Incoming}
    (h : s.read loop socket incoming = s') : ReadStep s loop socket incoming s' := by
  unfold State.read at h
  split at h
  · rename_i hlost
    exact h ▸ hlost ▸ .lost
  · rename_i hread
    split at h
    · exact h ▸ .skipped hread
    · split at h
      · rename_i hadmits
        exact h ▸ .delivered hread hadmits
      · exact h ▸ .skipped hread

/-- A move that is possible goes by one of the rules. -/
theorem step_inv {m : Move} (h : step setup s m = some s') : Step setup s m s' := by
  cases m with
  | call c => cases h; exact .call c
  | resume i answer => exact resume_inv h
  | cancel token => cases h; exact .cancel token
  | elapse millis =>
    simp only [step] at h
    split at h
    · rename_i hm
      cases h
      exact .elapse hm
    · cases h
  | receive loop incoming =>
    simp only [step] at h
    split at h
    · rename_i l hl
      split at h
      · rename_i socket hp
        cases h
        exact .receive hl hp
      · cases h
    · cases h
  | halt loop =>
    simp only [step] at h
    split at h
    · rename_i l hl
      split at h
      · rename_i hh
        cases h
        exact .halt hl hh
      · cases h
    · cases h
  | proceed loop answer =>
    simp only [step] at h
    split at h
    · rename_i l hl
      exact .proceed hl rfl (proceed_inv h)
    · cases h

end ChatChannel.Bridge
