import ChatChannel.Native.Lifecycle

/-!
# ChatChannel.Proofs.Native.Step

What a move of the native transport can do, said once. Each relation has one rule for each way in
which a part of the transport goes on: `ReleaseStep` for the release of the held client,
`StartStep`, `StopStep` and `SendStep` for operations, `PrepareStep` for the work on a message, and
`Step` for the transport as a whole.

* `step_inv`: every move that is possible goes by one of the rules.
-/

namespace ChatChannel.Native

/-- The rules of the release of the held client, with the point after it. -/
inductive ReleaseStep (s : State) : ReleasePoint → State → Option ReleasePoint → Prop where
  | noToken (hd : s.dispatcher = none) : ReleaseStep s .token s (some .client)
  | token {c : Nat} (hd : s.dispatcher = some c) :
      ReleaseStep s .token
        ({ s with dispatcher := none }.onClient c fun d => { d with cancelled := true })
        (some .client)
  | noClient (hh : s.held = none) : ReleaseStep s .client s none
  | client {c : Nat} (hh : s.held = some c) :
      ReleaseStep s .client ({ s with held := none }.asks c .disconnect)
        (some (.disconnecting c))
  | disconnected {c : Nat} : ReleaseStep s (.disconnecting c) s none

/-- The rules of a start. -/
inductive StartStep (setup : Setup) (s : State) (i token : Nat) :
    StartPoint → Answer → State → Prop where
  | refused (h : s.connection = .loggedOut) :
      StartStep setup s i token .check .ready
        (s.finish i (.error (.loggedOut
          "whatsapp session was revoked, clear the session store and pair again")))
  | checked (h : s.connection ≠ .loggedOut) :
      StartStep setup s i token .check .ready (s.startAt i token (.release .token))
  | releasing {point next : ReleasePoint} {s₁ : State} (h : ReleaseStep s point s₁ (some next)) :
      StartStep setup s i token (.release point) .ready (s₁.startAt i token (.release next))
  | released {point : ReleasePoint} {s₁ : State} (h : ReleaseStep s point s₁ none) :
      StartStep setup s i token (.release point) .ready (s₁.startReleased setup i token)
  | makeDir {dir : String} :
      StartStep setup s i token (.makeDir dir) .ready (s.makeStoreDir setup i token dir)
  | opened {own : Option Address} :
      StartStep setup s i token .opening (.opened own) (s.welcome i token own)
  | notOpened {text : String} :
      StartStep setup s i token .opening (.failed text)
        (s.finish i (.error (.external "open whatsapp session store" text)))
  | channel {c : Nat} :
      StartStep setup s i token (.pairingChannel c) .ready
        ((s.asks c .connect).startAt i token (.connecting c true))
  | noChannel {c : Nat} {text : String} :
      StartStep setup s i token (.pairingChannel c) (.failed text)
        (s.abandon i token c (.external "open pairing channel" text))
  | connected {c : Nat} :
      StartStep setup s i token (.connecting c false) .ready (s.settleIn i token c)
  | notConnected {c : Nat} {text : String} :
      StartStep setup s i token (.connecting c false) (.failed text)
        (s.abandon i token c (.connectivity ("failed to connect: " ++ text)))
  | toPair {c : Nat} :
      StartStep setup s i token (.connecting c true) .ready
        ({ s with connection := .awaitingPairing }.startAt i token
          (.pairing c (s.now + setup.pairingTimeout.millis)))
  | notToPair {c : Nat} {text : String} :
      StartStep setup s i token (.connecting c true) (.failed text)
        (s.abandon i token c (.connectivity ("failed to connect for pairing: " ++ text)))
  | code {c deadline : Nat} {text : String} :
      StartStep setup s i token (.pairing c deadline) (.pairing (.code text))
        (s.record [.showCode text])
  | paired {c deadline : Nat} :
      StartStep setup s i token (.pairing c deadline) (.pairing .success) (s.settleIn i token c)
  | timedOut {c deadline : Nat} :
      StartStep setup s i token (.pairing c deadline) (.pairing .timeout)
        (s.abandon i token c (.timeout "whatsapp pairing"))
  | rejected {c deadline : Nat} {reason : String} :
      StartStep setup s i token (.pairing c deadline) (.pairing (.error reason))
        (s.abandon i token c (.connectivity ("pairing failed: " ++ reason)))
  | closed {c deadline : Nat} :
      StartStep setup s i token (.pairing c deadline) .closed
        (s.abandon i token c (.connectivity "pairing channel closed before completion"))
  | late {c deadline : Nat} (h : deadline ≤ s.now) :
      StartStep setup s i token (.pairing c deadline) .expired
        (s.abandon i token c (.timeout "whatsapp pairing"))
  | abandoned {c : Nat} {error : ChannelError} :
      StartStep setup s i token (.abandoning c error) .ready
        ((s.becomes .disconnected).finish i (.error error))
  | heldClient {c : Nat} :
      StartStep setup s i token (.holdClient c) .ready
        ({ s with held := some c }.startAt i token (.holdToken c))
  | heldToken {c : Nat} :
      StartStep setup s i token (.holdToken c) .ready
        ({ s with dispatcher := some c, bus := s.bus.setRunning true }.finish i (.ok ()))

/-- The rules of a stop. -/
inductive StopStep (s : State) (i : Nat) : StopPoint → Answer → State → Prop where
  | checked :
      StopStep s i .check .ready
        ({ s with bus := s.bus.setRunning false }.setOperation i (.stop (.release .token)))
  | releasing {point next : ReleasePoint} {s₁ : State} (h : ReleaseStep s point s₁ (some next)) :
      StopStep s i (.release point) .ready (s₁.setOperation i (.stop (.release next)))
  | released {point : ReleasePoint} {s₁ : State} (h : ReleaseStep s point s₁ none) :
      StopStep s i (.release point) .ready ((s₁.becomes .disconnected).finish i (.ok ()))

/-- The rules of a send. -/
inductive SendStep (s : State) (i : Nat) (m : OutboundMessage) :
    SendPoint → Answer → State → Prop where
  | refused (h : s.connection = .loggedOut) :
      SendStep s i m .check .ready
        (s.finish i (.error (.loggedOut "whatsapp session was revoked")))
  | checked (h : s.connection ≠ .loggedOut) :
      SendStep s i m .check .ready (s.setOperation i (.send m .lookup))
  | unconnected (h : s.linkedClient? = none) :
      SendStep s i m .lookup .ready
        (s.finish i (.error (.connectivity "whatsapp client not connected")))
  | noTarget {c : Nat} {error : ChannelError} (h : s.linkedClient? = some c)
      (ht : Address.parseTarget m.chat = .error error) :
      SendStep s i m .lookup .ready (s.finish i (.error error))
  | send {c : Nat} {target : Address} (h : s.linkedClient? = some c)
      (ht : Address.parseTarget m.chat = .ok target) :
      SendStep s i m .lookup .ready
        ((s.asks c (.sendText target m.content)).setOperation i (.send m (.sending target)))
  | sent {target : Address} : SendStep s i m (.sending target) .ready (s.finish i (.ok ()))
  | failed {target : Address} {text : String} :
      SendStep s i m (.sending target) (.failed text)
        (s.finish i (.error (.delivery ("send to " ++ target.text) text)))

/-- What a transport has asked for while it prepared a message. -/
def entriesOf (c : Nat) (draft : Draft) : List Entry :=
  draft.fetches.map (fun a => .client c (.download a)) ++ draft.asked.map .transcribe

/-- The rules of the preparation of a message. -/
inductive PrepareStep (setup : Setup) (s : State) (c : Nat) (attempts : AttachmentKind → Attempt)
    (m : Message) : State → Prop where
  | dropped {draft : Draft} (h : setup.intake.takeIn attempts s.fs m = (none, draft)) :
      PrepareStep setup s c attempts m
        (({ s with fs := draft.fs }.record (entriesOf c draft)).onClient c
          fun d => { d with stage := .waiting })
  | admitted {message : InboundMessage} {draft : Draft}
      (h : setup.intake.takeIn attempts s.fs m = (some message, draft))
      (hadmits : s.bus.admits message.sender = true) :
      PrepareStep setup s c attempts m
        ({ { s with fs := draft.fs }.record (entriesOf c draft) with
          bus := s.bus.handle ⟨message, contents draft.fs message.media⟩
          }.onClient c fun d => { d with stage := .delivering draft.media })
  | denied {message : InboundMessage} {draft : Draft}
      (h : setup.intake.takeIn attempts s.fs m = (some message, draft))
      (hadmits : s.bus.admits message.sender = false) :
      PrepareStep setup s c attempts m
        (({ s with fs := draft.media.release draft.fs }.record (entriesOf c draft)).onClient c
          fun d => { d with stage := .waiting })

/-- The rules of the transport. -/
inductive Step (setup : Setup) (s : State) : Move → State → Prop where
  | call (c : Call) : Step setup s (.call c) (s.begin c)
  | start {i token : Nat} {point : StartPoint} {answer : Answer} {s' : State}
      (hi : s.operations[i]? = some (.start token point))
      (h : StartStep setup s i token point answer s') : Step setup s (.resume i answer) s'
  | stop {i : Nat} {point : StopPoint} {answer : Answer} {s' : State}
      (hi : s.operations[i]? = some (.stop point))
      (h : StopStep s i point answer s') : Step setup s (.resume i answer) s'
  | send {i : Nat} {m : OutboundMessage} {point : SendPoint} {answer : Answer} {s' : State}
      (hi : s.operations[i]? = some (.send m point))
      (h : SendStep s i m point answer s') : Step setup s (.resume i answer) s'
  | cancel (token : Nat) : Step setup s (.cancel token) { s with fired := s.fired ++ [token] }
  | elapse {millis : Nat} (h : s.mayElapse millis = true) :
      Step setup s (.elapse millis) { s with now := s.now + millis }
  | emit (c : Nat) (e : Event) : Step setup s (.emit c e) (s.onClient c fun d => d.receive e)
  | setLinked (c : Nat) (linked : Bool) :
      Step setup s (.setLinked c linked) (s.onClient c fun d => { d with linked })
  | setOwn (c : Nat) (own : Option Address) :
      Step setup s (.setOwn c own) (s.onClient c fun d => { d with own })
  | take {c : Nat} {d : Client} {e : Event} {rest : List Event} (hc : s.clients[c]? = some d)
      (hd : d.stage = .waiting) (hq : d.queue = e :: rest) :
      Step setup s (.take c)
        ((s.onClient c fun d => { d with queue := rest }).dispatch c d.own e)
  | halt {c : Nat} {d : Client} (hc : s.clients[c]? = some d) (hd : d.stage = .waiting)
      (hcancelled : s.isCancelled d = true) :
      Step setup s (.halt c) (s.onClient c fun d => { d with stage := .ended, queue := [] })
  | prepared {c : Nat} {d : Client} {m : Message} {attempts : AttachmentKind → Attempt}
      {s' : State} (hc : s.clients[c]? = some d) (hd : d.stage = .preparing m)
      (h : PrepareStep setup s c attempts m s') : Step setup s (.prepared c attempts) s'
  | handled {c : Nat} {d : Client} {media : Media.Transient} (hc : s.clients[c]? = some d)
      (hd : d.stage = .delivering media) :
      Step setup s (.handled c)
        ({ s with fs := media.release s.fs }.onClient c fun d => { d with stage := .waiting })

variable {setup : Setup} {s s' s₁ : State} {i : Nat} {answer : Answer}

theorem releaseFrom_inv {point : ReleasePoint} {next : Option ReleasePoint}
    (h : s.releaseFrom point = (s₁, next)) : ReleaseStep s point s₁ next := by
  unfold State.releaseFrom at h
  split at h
  case h_1 =>
    split at h
    · rename_i hd
      cases h
      exact .noToken hd
    · rename_i hd
      cases h
      exact .token hd
  case h_2 =>
    split at h
    · rename_i hh
      cases h
      exact .noClient hh
    · rename_i hh
      cases h
      exact .client hh
  case h_3 => cases h; exact .disconnected

theorem pairingEvent_inv {token c deadline : Nat} (e : PairingEvent) :
    StartStep setup s i token (.pairing c deadline) (.pairing e) (s.pairingEvent i token c e) := by
  cases e with
  | code text => exact .code
  | success => exact .paired
  | timeout => exact .timedOut
  | error reason => exact .rejected

theorem resumeStart_inv {token : Nat} {point : StartPoint}
    (h : s.resumeStart setup i token point answer = some s') :
    StartStep setup s i token point answer s' := by
  unfold State.resumeStart at h
  split at h
  case h_1 =>
    split at h
    · rename_i hout
      cases h
      exact .refused hout
    · rename_i hout
      cases h
      exact .checked hout
  case h_2 =>
    split at h
    · rename_i hrelease
      cases h
      exact .releasing (releaseFrom_inv hrelease)
    · rename_i hrelease
      cases h
      exact .released (releaseFrom_inv hrelease)
  case h_3 => cases h; exact .makeDir
  case h_4 => cases h; exact .opened
  case h_5 => cases h; exact .notOpened
  case h_6 => cases h; exact .channel
  case h_7 => cases h; exact .noChannel
  case h_8 => cases h; exact .connected
  case h_9 => cases h; exact .notConnected
  case h_10 => cases h; exact .toPair
  case h_11 => cases h; exact .notToPair
  case h_12 => cases h; exact pairingEvent_inv _
  case h_13 => cases h; exact .closed
  case h_14 =>
    split at h
    · rename_i hlate
      cases h
      exact .late hlate
    · cases h
  case h_15 => cases h; exact .abandoned
  case h_16 => cases h; exact .heldClient
  case h_17 => cases h; exact .heldToken
  case h_18 => cases h

theorem resumeStop_inv {point : StopPoint} (h : s.resumeStop i point answer = some s') :
    StopStep s i point answer s' := by
  unfold State.resumeStop at h
  split at h
  case h_1 => cases h; exact .checked
  case h_2 =>
    split at h
    · rename_i hrelease
      cases h
      exact .releasing (releaseFrom_inv hrelease)
    · rename_i hrelease
      cases h
      exact .released (releaseFrom_inv hrelease)
  case h_3 => cases h

theorem resumeSend_inv {m : OutboundMessage} {point : SendPoint}
    (h : s.resumeSend i m point answer = some s') : SendStep s i m point answer s' := by
  unfold State.resumeSend at h
  split at h
  case h_1 =>
    split at h
    · rename_i hout
      cases h
      exact .refused hout
    · rename_i hout
      cases h
      exact .checked hout
  case h_2 =>
    split at h
    · rename_i hlinked
      cases h
      exact .unconnected hlinked
    · rename_i hlinked
      split at h
      · rename_i htarget
        cases h
        exact .noTarget hlinked htarget
      · rename_i htarget
        cases h
        exact .send hlinked htarget
  case h_3 => cases h; exact .sent
  case h_4 => cases h; exact .failed
  case h_5 => cases h

theorem resume_inv (h : s.resume setup i answer = some s') :
    Step setup s (.resume i answer) s' := by
  unfold State.resume at h
  split at h
  · rename_i hi; exact .start hi (resumeStart_inv h)
  · rename_i hi; exact .stop hi (resumeStop_inv h)
  · rename_i hi; exact .send hi (resumeSend_inv h)
  · cases h
  · cases h

theorem take_inv {c : Nat} (h : step setup s (.take c) = some s') :
    Step setup s (.take c) s' := by
  simp only [step] at h
  split at h
  · rename_i d hc
    split at h
    · rename_i hd hq
      cases h
      exact .take hc hd hq
    · cases h
  · cases h

theorem halt_inv {c : Nat} (h : step setup s (.halt c) = some s') :
    Step setup s (.halt c) s' := by
  simp only [step] at h
  split at h
  · rename_i d hc
    split at h
    · rename_i hhalt
      obtain ⟨hd, hcancelled⟩ : d.stage = .waiting ∧ s.isCancelled d = true := by
        simpa using hhalt
      cases h
      exact .halt hc hd hcancelled
    · cases h
  · cases h

theorem prepare_inv (s : State) (c : Nat) (attempts : AttachmentKind → Attempt) (m : Message) :
    PrepareStep setup s c attempts m (s.prepare setup c attempts m) := by
  unfold State.prepare
  split
  rename_i message draft htake
  cases message with
  | none => exact .dropped htake
  | some message =>
    dsimp only
    split
    · rename_i hadmits
      exact .admitted htake hadmits
    · rename_i hadmits
      have hadmits : s.bus.admits message.sender = false := Bool.eq_false_iff.2 hadmits
      exact .denied htake hadmits

theorem prepared_inv {c : Nat} {attempts : AttachmentKind → Attempt}
    (h : step setup s (.prepared c attempts) = some s') :
    Step setup s (.prepared c attempts) s' := by
  simp only [step] at h
  split at h
  · rename_i d hc
    split at h
    · rename_i hd
      cases h
      exact .prepared hc hd (prepare_inv s c attempts _)
    · cases h
  · cases h

theorem handled_inv {c : Nat} (h : step setup s (.handled c) = some s') :
    Step setup s (.handled c) s' := by
  simp only [step] at h
  split at h
  · rename_i d hc
    split at h
    · rename_i hd
      cases h
      exact .handled hc hd
    · cases h
  · cases h

/-- A move that is possible goes by one of the rules. -/
theorem step_inv {m : Move} (h : step setup s m = some s') : Step setup s m s' := by
  cases m with
  | call c => cases h; exact .call c
  | resume i answer => exact resume_inv h
  | cancel token => cases h; exact .cancel token
  | elapse millis =>
    simp only [step] at h
    split at h
    · rename_i hm
      cases h
      exact .elapse hm
    · cases h
  | emit c e => cases h; exact .emit c e
  | setLinked c linked => cases h; exact .setLinked c linked
  | setOwn c own => cases h; exact .setOwn c own
  | take c => exact take_inv h
  | halt c => exact halt_inv h
  | prepared c attempts => exact prepared_inv h
  | handled c => exact handled_inv h

/-! ## The moves of one operation -/

/-- What there is to see of a move, if it is one of operation `i`. -/
def ownTurn {α : Type} (setup : Setup) (i : Nat) (see : Answer → State → α) (s : State) :
    Move → List α
  | .resume j answer =>
    if j = i then ((step setup s (.resume j answer)).map (see answer)).toList else []
  | _ => []

theorem ownTurn_own {α : Type} {see : Answer → State → α}
    (hs : step setup s (.resume i answer) = some s') :
    ownTurn setup i see s (.resume i answer) = [see answer s'] := by
  rw [ownTurn, if_pos rfl, hs]
  rfl

theorem ownTurn_other {α : Type} {see : Answer → State → α} {m : Move}
    (hm : ∀ answer, m ≠ .resume i answer) : ownTurn setup i see s m = [] := by
  cases m with
  | resume j answer =>
    rw [ownTurn, if_neg]
    rintro rfl
    exact hm answer rfl
  | _ => rfl

end ChatChannel.Native
