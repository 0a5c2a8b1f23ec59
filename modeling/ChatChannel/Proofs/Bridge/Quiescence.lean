import ChatChannel.Proofs.Bridge.Overlap

/-!
# ChatChannel.Proofs.Bridge.Quiescence

What a stop leaves behind, and a start that fails, if starts and stops come one after the other.
Both take the loop out of the slot and await its end, whatever it is doing; so when they return, all
loops are over, and nothing is left that could do anything before the next start.

* `oneByOne_of_step`: what a stop has found once its turn at the slot is over.
* `atRest_of_ended`: how things stand when a stop returns or a start fails.
* `untouched_of_step`: what can change then.
* `ended_operation_quiet`: so the channel is down, and stays as it is up to the next start.
-/

namespace ChatChannel.Bridge

/-- The starts and stops that are called while another one is in flight. -/
def overlaps (s : State) : Move → List Call
  | .call (.send _) => []
  | .call c => if s.operations.all Operation.sparesLoops then [] else [c]
  | _ => []

/-- Starts and stops have come one after the other so far. -/
structure OneByOne (s : State) : Prop where
  sole : ∀ (i j : Nat) (o o' : Operation), s.operations[i]? = some o →
    s.operations[j]? = some o' → o.sparesLoops = false → o'.sparesLoops = false → i = j
  /-- A stop that gets to take back the published socket has the transport for itself. -/
  dropping : ∀ i : Nat, s.operations[i]? = some (.stop .dropping) → s.Silent ∧ s.slot = none
  /-- There is no socket that it has to close, since the loop has closed it. -/
  closing : ∀ (i : Nat) socket, s.operations[i]? ≠ some (.stop (.closing socket))

/-- The operation waits neither for a loop nor for a socket. -/
def Operation.isIdle : Operation → Bool
  | .start _ _ => false
  | .stop (.joining _) => false
  | .stop (.closing _) => false
  | _ => true

/-- The channel is down, and no operation is about to change that. -/
structure AtRest (s : State) : Prop where
  stopped : Stopped s
  slot : s.slot = none
  turn : s.turn = none
  idle : ∀ o ∈ s.operations, o.isIdle = true

/-- Nothing has changed but operations, fired tokens and the time. -/
def Untouched (s s' : State) : Prop :=
  ∃ operations fired now, s' = { s with operations, fired, now }

/-- Operation `i` comes to an end without an error if it is resumed, and changes nothing. -/
def Settles (setup : Setup) (i : Nat) (s : State) : Prop :=
  ∃ (n : Nat) (s' : State), exec setup s (.replicate n (.resume i .ready)) = some s' ∧
    s'.operations[i]? = some (.finished (.ok ())) ∧ Untouched s s'

/-- Operation `i` has just come to an end that leaves the channel down: it is a stop that has
returned, or a start that has failed. -/
inductive EndsDown (i : Nat) (s s' : State) : Prop where
  | stopped {point : StopPoint} {result : Except ChannelError Unit}
      (hi : s.operations[i]? = some (.stop point))
      (hdone : s'.operations[i]? = some (.finished result))
  | failed {token : Nat} {point : StartPoint} {error : ChannelError}
      (hi : s.operations[i]? = some (.start token point))
      (hdone : s'.operations[i]? = some (.finished (.error error)))

/-- How things are at `s'` if nothing has brought the channel up since `s`. -/
structure Quiet (setup : Setup) (s s' : State) : Prop where
  stopped : Stopped s'
  /-- In particular the bus has got no message, and no socket was opened, written to or closed. -/
  untouched : Untouched s s'
  /-- The only step of a send. -/
  sends : ∀ (i : Nat) message, s'.operations[i]? = some (.send message .lookup) → ∀ answer,
    step setup s' (.resume i answer) = if answer = .ready then some (s'.finish i
      (.error (.connectivity "whatsapp bridge not connected"))) else none
  stops : ∀ (i : Nat) point, s'.operations[i]? = some (.stop point) → Settles setup i s'

section

variable {setup : Setup} {s s' s'' : State} {m : Move} {i j k : Nat} {o o' : Operation}
  {p : LoopPoint} {answer : Answer}

/-! ## One after the other -/

/-- At most one start or stop is in flight, and this is it. -/
theorem OneByOne.of_only
    (honly : ∀ (k : Nat) (p : Operation), s'.operations[k]? = some p → p.sparesLoops = false →
      k = i ∧ p = o')
    (hdropping : o' = .stop .dropping → s'.Silent ∧ s'.slot = none)
    (hclosing : ∀ socket, o' ≠ .stop (.closing socket)) : OneByOne s' := by
  refine ⟨fun a b p q ha hb hp hq => ?_, fun k hk => ?_, fun k socket hk => ?_⟩
  · rw [(honly a p ha hp).1, (honly b q hb hq).1]
  · exact hdropping (honly k _ hk rfl).2.symm
  · exact hclosing socket (honly k _ hk rfl).2.symm

/-- The starts and stops in flight are where they were. -/
theorem OneByOne.of_kept (h : OneByOne s)
    (hkept : ∀ (k : Nat) (p : Operation), s'.operations[k]? = some p → p.sparesLoops = false →
      s.operations[k]? = some p)
    (hsilent : s.Silent → s'.Silent) (hslot : s'.slot = s.slot) : OneByOne s' := by
  refine ⟨fun a b p q ha hb hp hq => ?_, fun k hk => ?_, fun k socket hk => ?_⟩
  · exact h.sole a b p q (hkept a p ha hp) (hkept b q hb hq) hp hq
  · obtain ⟨hbefore, hnone⟩ := h.dropping k (hkept k _ hk rfl)
    exact ⟨hsilent hbefore, hslot.trans hnone⟩
  · exact h.closing k socket (hkept k _ hk rfl)

theorem OneByOne.congr (h : OneByOne s) (hoperations : s'.operations = s.operations)
    (hsilent : s.Silent → s'.Silent) (hslot : s'.slot = s.slot) : OneByOne s' :=
  h.of_kept (fun _ _ hk _ => hoperations ▸ hk) hsilent hslot

/-- The one start or stop in flight goes on. -/
theorem OneByOne.goOn (h : OneByOne s) (hi : s.operations[i]? = some o)
    (ho : o.sparesLoops = false) (hset : s'.operations = s.operations.set i o')
    (hdropping : o' = .stop .dropping → s'.Silent ∧ s'.slot = none)
    (hclosing : ∀ socket, o' ≠ .stop (.closing socket)) : OneByOne s' := by
  refine .of_only (i := i) (fun k p hk hp => ?_) hdropping hclosing
  rw [hset] at hk
  rcases place_of_set hk with hchanged | ⟨hki, hkept⟩
  · exact hchanged
  · exact absurd (h.sole k i p o hkept hi hp ho) hki

/-- A loop that is not over goes on: no stop has got so far as to take back what is published. -/
theorem OneByOne.of_loop (h : OneByOne s) (hp : s.pointOf? k = some p) (hlive : p ≠ .ended)
    (hoperations : s'.operations = s.operations) (hslot : s'.slot = s.slot) : OneByOne s' :=
  h.congr hoperations (fun hsilent => absurd hsilent (not_silent hp hlive)) hslot

theorem OneByOne.setSend (h : OneByOne s) (ho' : o'.sparesLoops = true)
    (hset : s'.operations = s.operations.set i o') (hloops : s'.loops = s.loops)
    (hslot : s'.slot = s.slot) : OneByOne s' := by
  refine h.of_kept (fun k p hk hp => ?_)
    (fun hsilent k p hp => hsilent k p ((pointOf?_congr hloops k).symm.trans hp)) hslot
  rw [hset] at hk
  rcases place_of_set hk with ⟨-, rfl⟩ | ⟨-, hkept⟩
  · rw [hp] at ho'
    cases ho'
  · exact hkept

theorem oneByOne_of_call (h : OneByOne s) {c : Call} (halone : overlaps s (.call c) = []) :
    OneByOne (s.begin c) := by
  -- A start or a stop that is called now is the only one.
  have begun : ∀ o₁ : Operation, s.operations.all Operation.sparesLoops = true →
      o₁ ≠ .stop .dropping → (∀ socket, o₁ ≠ .stop (.closing socket)) →
      OneByOne { s with operations := s.operations ++ [o₁] } := by
    intro o₁ hfree hdropping hclosing
    refine .of_only (i := s.operations.length) (fun k p hk hp => ?_)
      (fun heq => absurd heq hdropping) hclosing
    rcases place_of_append hk with hnew | hold
    · exact hnew
    · rw [List.all_eq_true.1 hfree p (List.mem_of_getElem? hold)] at hp
      cases hp
  cases c with
  | start token => exact begun _ (by simpa [overlaps] using halone) nofun nofun
  | stop => exact begun _ (by simpa [overlaps] using halone) nofun nofun
  | send message =>
    refine h.of_kept (fun k p hk hp => ?_) id rfl
    rcases place_of_append hk with ⟨-, rfl⟩ | hold
    · cases hp
    · exact hold

theorem oneByOne_of_stopStep {point : StopPoint} (ho : Orderly s) (hf : Faithful s)
    (h : OneByOne s) (hi : s.operations[i]? = some (.stop point))
    (hs : StopStep s i point answer s') : OneByOne s' := by
  cases hs with
  | check => exact h.goOn hi rfl rfl nofun nofun
  | join hturn hslot => exact h.goOn hi rfl rfl nofun nofun
  | free hturn hslot =>
    exact h.goOn hi rfl rfl (fun _ => ⟨ho.silent_of_free hturn hslot, hslot⟩) nofun
  | joined hend =>
    have hsilent : s.Silent := ho.silent_of_turn hi rfl (by rintro k ⟨⟩; exact hend)
    exact h.goOn hi rfl rfl (fun _ => ⟨hsilent, ho.slot i (ho.turns i _ hi rfl)⟩) nofun
  | close hw =>
    rw [(hf.down (h.dropping i hi).1).1] at hw
    cases hw
  | nothing hw => exact h.goOn hi rfl rfl nofun nofun
  | closed => exact absurd hi (h.closing i _)

theorem oneByOne_of_step (ho : Orderly s) (hf : Faithful s) (h : OneByOne s)
    (halone : overlaps s m = []) (hs : Step setup s m s') : OneByOne s' := by
  cases hs with
  | call c => exact oneByOne_of_call h halone
  | start hi hs =>
    cases hs <;> exact h.goOn hi rfl rfl nofun nofun
  | stop hi hs => exact oneByOne_of_stopStep ho hf h hi hs
  | send hi hs => cases hs <;> exact h.setSend rfl rfl rfl rfl
  | cancel token => exact h.congr rfl id rfl
  | elapse _ => exact h.congr rfl id rfl
  | @receive k x l _ hl hreading =>
    have hp : s.pointOf? k = some (.reading x) := hreading ▸ pointOf?_eq hl
    generalize hread : s.read k x _ = s₁
    cases read_inv hread <;> exact h.of_loop hp nofun rfl rfl
  | halt hl hhalting =>
    refine h.of_loop (pointOf?_eq hl) (fun hend => ?_) rfl rfl
    simp [State.isHalting, hend] at hhalting
  | proceed hl hp hs =>
    obtain ⟨hlive, -, -, hslot, -, hoperations⟩ := goes_on_of_loopStep hs
    exact h.of_loop (hp ▸ pointOf?_eq hl) hlive hoperations hslot

/-! ## At rest -/

theorem isIdle_of_sparesLoops (ho : o.sparesLoops = true) : o.isIdle = true := by
  cases o with
  | start => cases ho
  | stop => cases ho
  | send => rfl
  | finished => rfl

theorem inTurn_of_isIdle (ho : o.isIdle = true) : o.inTurn = false := by
  cases o with
  | start => cases ho
  | stop point => cases point <;> first | rfl | cases ho
  | send => rfl
  | finished => rfl

/-- The channel is down, and the one start or stop that was in flight is over. -/
theorem AtRest.of_finished {result : Except ChannelError Unit} (h : OneByOne s)
    (hi : s.operations[i]? = some o) (ho : o.sparesLoops = false)
    (hset : s'.operations = s.operations.set i (.finished result)) (hstopped : Stopped s')
    (hslot : s'.slot = none) (hheld : TurnHeld s') : AtRest s' := by
  have idle : ∀ o ∈ s'.operations, o.isIdle = true := by
    intro p hp
    obtain ⟨k, hk⟩ := List.mem_iff_getElem?.1 hp
    rw [hset] at hk
    refine isIdle_of_sparesLoops (Bool.not_eq_false _ ▸ fun hp => ?_)
    rcases place_of_set hk with ⟨-, rfl⟩ | ⟨-, hkept⟩
    · cases hp
    · obtain rfl : k = i := h.sole k i p o hkept hi hp ho
      rw [List.getElem?_set_self (List.getElem?_eq_some_iff.1 hi).1] at hk
      cases hk
      cases hp
  refine ⟨hstopped, hslot, Option.eq_none_iff_forall_ne_some.2 fun a ha => ?_, idle⟩
  obtain ⟨p, hp, hin⟩ := hheld a ha
  rw [inTurn_of_isIdle (idle p (List.mem_of_getElem? hp))] at hin
  cases hin

theorem atRest_of_stopStep {point : StopPoint} {result : Except ChannelError Unit}
    (hf : Faithful s) (h : OneByOne s) (hheld : TurnHeld s')
    (hi : s.operations[i]? = some (.stop point)) (hs : StopStep s i point answer s')
    (hdone : s'.operations[i]? = some (.finished result)) : AtRest s' := by
  have pending : ∀ next, s'.operations ≠ s.operations.set i (.stop next) := by
    intro next hset
    rw [hset, List.getElem?_set_self (List.getElem?_eq_some_iff.1 hi).1] at hdone
    cases hdone
  cases hs with
  | check => exact absurd rfl (pending _)
  | join => exact absurd rfl (pending _)
  | free => exact absurd rfl (pending _)
  | joined => exact absurd rfl (pending _)
  | close => exact absurd rfl (pending _)
  | nothing =>
    obtain ⟨hsilent, hslot⟩ := h.dropping i hi
    have hstopped : Stopped (s.dropWriter.1.finish i (.ok ())) :=
      ⟨hsilent, rfl, rfl, (hf.down hsilent).2.1⟩
    exact .of_finished h hi rfl rfl hstopped hslot hheld
  | closed => exact absurd hi (h.closing i _)

theorem atRest_of_startStep {token : Nat} {point : StartPoint} {error : ChannelError}
    (ho : Orderly s) (hf : Faithful s) (h : OneByOne s) (hheld : TurnHeld s')
    (hi : s.operations[i]? = some (.start token point))
    (hs : StartStep setup s i token point answer s')
    (hdone : s'.operations[i]? = some (.finished (.error error))) : AtRest s' := by
  have pending : ∀ o', s'.operations = s.operations.set i o' → o' = .finished (.error error) := by
    intro o' hset
    rw [hset, List.getElem?_set_self (List.getElem?_eq_some_iff.1 hi).1] at hdone
    exact Option.some.inj hdone
  -- A start that dials has seen the end of the last loop.
  have failed : ∀ fault, (Operation.start token point).awaits? = none →
      (Operation.start token point).inTurn = true → s' = s.startFailed setup i fault →
      AtRest s' := by
    rintro fault hawaits hin rfl
    have hsilent : s.Silent := ho.silent_of_turn hi hin (by simp [hawaits])
    obtain ⟨hw, hidle, -⟩ := hf.down hsilent
    exact .of_finished h hi rfl rfl ⟨hsilent, hw, rfl, hidle⟩ (ho.slot i (ho.turns i _ hi hin))
      hheld
  cases hs with
  | join => cases pending _ rfl
  | dial => cases pending _ rfl
  | joined => cases pending _ rfl
  | opened => cases pending _ rfl
  | refused => exact failed _ rfl rfl rfl
  | late => exact failed _ rfl rfl rfl
  | published => cases pending _ rfl

/-- A stop that has returned and a start that has failed leave the channel down. -/
theorem atRest_of_ended (ho : Orderly s) (hf : Faithful s) (h : OneByOne s) (hheld : TurnHeld s')
    (hends : EndsDown i s s') (hs : Step setup s m s') : AtRest s' := by
  have resumed : ∀ {o r}, s.operations[i]? = some o → s'.operations[i]? = some (.finished r) →
      o ≠ .finished r → ∃ answer, m = .resume i answer := by
    intro o r hi hdone hne
    refine Classical.byContradiction fun hm => hne ?_
    have hkept := operation_of_step hi (fun answer hanswer => hm ⟨answer, hanswer⟩) hs
    exact Option.some.inj (hkept.symm.trans hdone)
  cases hends with
  | stopped hi hdone =>
    obtain ⟨answer, rfl⟩ := resumed hi hdone nofun
    cases hs with
    | start hi' => cases hi.symm.trans hi'
    | send hi' => cases hi.symm.trans hi'
    | stop hi' hs => exact atRest_of_stopStep hf h hheld hi' hs hdone
  | failed hi hdone =>
    obtain ⟨answer, rfl⟩ := resumed hi hdone nofun
    cases hs with
    | stop hi' => cases hi.symm.trans hi'
    | send hi' => cases hi.symm.trans hi'
    | start hi' hs => exact atRest_of_startStep ho hf h hheld hi' hs hdone

/-! ## What can happen then -/

theorem Untouched.refl (s : State) : Untouched s s :=
  ⟨s.operations, s.fired, s.now, rfl⟩

theorem Untouched.trans (h : Untouched s s') (h' : Untouched s' s'') : Untouched s s'' := by
  obtain ⟨_, _, _, rfl⟩ := h
  obtain ⟨_, _, _, rfl⟩ := h'
  exact ⟨_, _, _, rfl⟩

theorem AtRest.of_untouched (h : AtRest s) (hsame : Untouched s s')
    (hidle : ∀ o ∈ s'.operations, o.isIdle = true) : AtRest s' := by
  obtain ⟨_, _, _, rfl⟩ := hsame
  obtain ⟨hsilent, hw, hconnection, hstill⟩ := h.stopped
  exact ⟨⟨hsilent, hw, hconnection, hstill⟩, h.slot, h.turn, hidle⟩

theorem AtRest.setOperation (h : AtRest s) (ho : o.isIdle = true) :
    AtRest (s.setOperation i o) := by
  refine h.of_untouched ⟨_, _, _, rfl⟩ fun o' ho' => ?_
  rcases List.mem_or_eq_of_mem_set ho' with hmem | rfl
  · exact h.idle o' hmem
  · exact ho

/-- The running flag is off already. -/
theorem AtRest.setRunning (h : AtRest s) : { s with bus := s.bus.setRunning false } = s := by
  have hbus : s.bus.setRunning false = s.bus := by rw [Bus.setRunning, ← h.stopped.idle]
  rw [hbus]

/-- There is no published socket already. -/
theorem AtRest.dropWriter (h : AtRest s) : s.dropWriter = (s, none) := by
  rw [State.dropWriter, ← h.stopped.connection, ← h.stopped.writer]

theorem AtRest.freeTurn (h : AtRest s) : { s with turn := none } = s := by
  rw [← h.turn]

theorem AtRest.not_live (h : AtRest s) (hp : s.pointOf? k = some p) : p = .ended :=
  h.stopped.silent k p hp

theorem untouched_of_call (h : AtRest s) {c : Call} (hc : ∀ token, c ≠ .start token) :
    AtRest (s.begin c) ∧ Untouched s (s.begin c) := by
  have begun : ∀ o₁ : Operation, o₁.isIdle = true →
      ∀ o ∈ s.operations ++ [o₁], o.isIdle = true := by
    intro o₁ ho₁ o ho
    rcases List.mem_append.1 ho with hold | hnew
    · exact h.idle o hold
    · exact List.mem_singleton.1 hnew ▸ ho₁
  cases c with
  | start token => exact absurd rfl (hc token)
  | stop => exact ⟨h.of_untouched ⟨_, _, _, rfl⟩ (begun _ rfl), _, _, _, rfl⟩
  | send message => exact ⟨h.of_untouched ⟨_, _, _, rfl⟩ (begun _ rfl), _, _, _, rfl⟩

theorem untouched_of_stopStep (h : AtRest s) {point : StopPoint}
    (hi : s.operations[i]? = some (.stop point)) (hs : StopStep s i point answer s') :
    AtRest s' ∧ Untouched s s' := by
  have hidle := h.idle _ (List.mem_of_getElem? hi)
  cases hs with
  | check =>
    rw [h.setRunning]
    exact ⟨h.setOperation rfl, _, _, _, rfl⟩
  | join _ hslot => cases h.slot.symm.trans hslot
  | free =>
    rw [h.freeTurn]
    exact ⟨h.setOperation rfl, _, _, _, rfl⟩
  | joined => cases hidle
  | close hw => cases h.stopped.writer.symm.trans hw
  | nothing =>
    rw [h.dropWriter]
    exact ⟨h.setOperation rfl, _, _, _, rfl⟩
  | closed => cases hidle

theorem untouched_of_sendStep (h : AtRest s) {message : OutboundMessage} {point : SendPoint}
    (hs : SendStep s i message point answer s') : AtRest s' ∧ Untouched s s' := by
  cases hs with
  | write hw => cases h.stopped.writer.symm.trans hw
  | _ => exact ⟨h.setOperation rfl, _, _, _, rfl⟩

/-- Up to the next start nothing changes. -/
theorem untouched_of_step (h : AtRest s) (hm : ∀ token, m ≠ .call (.start token))
    (hs : Step setup s m s') : AtRest s' ∧ Untouched s s' := by
  cases hs with
  | call c => exact untouched_of_call h fun token hc => hm token (hc ▸ rfl)
  | start hi _ => cases h.idle _ (List.mem_of_getElem? hi)
  | stop hi hs => exact untouched_of_stopStep h hi hs
  | send _ hs => exact untouched_of_sendStep h hs
  | cancel token => exact ⟨h.of_untouched ⟨_, _, _, rfl⟩ h.idle, _, _, _, rfl⟩
  | elapse _ => exact ⟨h.of_untouched ⟨_, _, _, rfl⟩ h.idle, _, _, _, rfl⟩
  | receive hl hp => cases hp.symm.trans (h.not_live (pointOf?_eq hl))
  | halt hl hhalting =>
    simp [State.isHalting, h.not_live (pointOf?_eq hl)] at hhalting
  | proceed hl hp hs =>
    exact absurd (hp.symm.trans (h.not_live (pointOf?_eq hl))) (goes_on_of_loopStep hs).1

theorem untouched_of_run {moves : List Move} (h : AtRest s)
    (hm : ∀ m ∈ moves, ∀ token, m ≠ .call (.start token))
    (hrun : exec setup s moves = some s') : AtRest s' ∧ Untouched s s' := by
  rw [exec_eq_follow] at hrun
  refine follow_invariant (P := fun t => AtRest t ∧ Untouched s t)
    (Q := fun m => ∀ token, m ≠ .call (.start token)) ?_ ⟨h, .refl s⟩ hm hrun
  intro t m t' ht hm hstep
  obtain ⟨hrest, hsame⟩ := untouched_of_step ht.1 hm (step_inv hstep)
  exact ⟨hrest, ht.2.trans hsame⟩

/-! ## How sends and stops end -/

theorem AtRest.send_step (h : AtRest s) {message : OutboundMessage}
    (hi : s.operations[i]? = some (.send message .lookup)) (answer : Answer) :
    step setup s (.resume i answer) = if answer = .ready then
      some (s.finish i (.error (.connectivity "whatsapp bridge not connected"))) else none := by
  cases answer <;> simp [step, State.resume, hi, State.resumeSend, h.stopped.writer]

theorem Settles.of_step {s₁ : State} (hs : step setup s (.resume i .ready) = some s₁)
    (hsame : Untouched s s₁) (h : Settles setup i s₁) : Settles setup i s := by
  obtain ⟨n, s', hrun, hdone, hsame'⟩ := h
  refine ⟨n + 1, s', ?_, hdone, hsame.trans hsame'⟩
  rw [List.replicate_succ, exec, hs]
  exact hrun

theorem AtRest.settles_dropping (h : AtRest s)
    (hi : s.operations[i]? = some (.stop .dropping)) : Settles setup i s := by
  have hs : step setup s (.resume i .ready) = some (s.finish i (.ok ())) := by
    simp [step, State.resume, hi, State.resumeStop, h.dropWriter]
  have hdone : (s.finish i (.ok ())).operations[i]? = some (.finished (.ok ())) :=
    List.getElem?_set_self (List.getElem?_eq_some_iff.1 hi).1
  exact .of_step hs ⟨_, _, _, rfl⟩ ⟨0, _, rfl, hdone, .refl _⟩

theorem AtRest.settles_queued (h : AtRest s)
    (hi : s.operations[i]? = some (.stop .queued)) : Settles setup i s := by
  have hs : step setup s (.resume i .ready) = some (s.setOperation i (.stop .dropping)) := by
    simp [step, State.resume, hi, State.resumeStop, h.turn, takeSlot_none h.slot,
      State.setOperation]
  have hnow : (s.setOperation i (.stop .dropping)).operations[i]? = some (.stop .dropping) :=
    List.getElem?_set_self (List.getElem?_eq_some_iff.1 hi).1
  exact .of_step hs ⟨_, _, _, rfl⟩ ((h.setOperation rfl).settles_dropping hnow)

theorem AtRest.settles_check (h : AtRest s)
    (hi : s.operations[i]? = some (.stop .check)) : Settles setup i s := by
  have hs : step setup s (.resume i .ready) = some (s.setOperation i (.stop .queued)) := by
    simp [step, State.resume, hi, State.resumeStop, h.setRunning]
  have hnow : (s.setOperation i (.stop .queued)).operations[i]? = some (.stop .queued) :=
    List.getElem?_set_self (List.getElem?_eq_some_iff.1 hi).1
  exact .of_step hs ⟨_, _, _, rfl⟩ ((h.setOperation rfl).settles_queued hnow)

theorem AtRest.settles (h : AtRest s) {point : StopPoint}
    (hi : s.operations[i]? = some (.stop point)) : Settles setup i s := by
  have hidle := h.idle _ (List.mem_of_getElem? hi)
  cases point with
  | check => exact h.settles_check hi
  | queued => exact h.settles_queued hi
  | joining => cases hidle
  | dropping => exact h.settles_dropping hi
  | closing => cases hidle

/-! ## The whole run -/

theorem oneByOne_of_run {bus : Bus} {moves : List Move} (hrunning : bus.running = false)
    (halone : observe (step setup) overlaps (.initial bus) moves = [])
    (hrun : exec setup (.initial bus) moves = some s') :
    Orderly s' ∧ Faithful s' ∧ OneByOne s' := by
  have hinitial : Orderly (.initial bus) ∧ Faithful (.initial bus) ∧ OneByOne (.initial bus) :=
    ⟨.of_silent nofun nofun nofun, .of_down rfl hrunning nofun, nofun, nofun, nofun⟩
  rw [exec_eq_follow] at hrun
  refine follow_unbarred (P := fun t => Orderly t ∧ Faithful t ∧ OneByOne t) overlaps ?_ hinitial
    halone hrun
  intro t m t' ⟨ho, hf, h⟩ halone hstep
  have hs : Step setup t m t' := step_inv hstep
  exact ⟨orderly_of_step ho hs, faithful_of_step hf ho hs, oneByOne_of_step ho hf h halone hs⟩

/-- Starts and stops come one after the other, wherever the loops are and whatever happens to
sockets, dials, sends and tokens. When a stop returns or a start fails, the channel is down, and it
stays as it is up to the next start. -/
theorem ended_operation_quiet {name : String} {allow : List String} {before later : List Move}
    (hbefore : exec setup (.initial (.new name allow)) before = some s)
    (halone : observe (step setup) overlaps (.initial (.new name allow)) before = [])
    (hs : step setup s m = some s') (hends : EndsDown i s s')
    (hlater : ∀ m ∈ later, ∀ token, m ≠ .call (.start token))
    (hrun : exec setup s' later = some s'') : Quiet setup s' s'' := by
  obtain ⟨ho, hf, h⟩ := oneByOne_of_run rfl halone hbefore
  have hheld : TurnHeld s' := turnHeld_of_step (turnHeld_of_run hbefore) (step_inv hs)
  have hrest : AtRest s' := atRest_of_ended ho hf h hheld hends (step_inv hs)
  obtain ⟨hrest', hsame⟩ := untouched_of_run hrest hlater hrun
  exact ⟨hrest'.stopped, hsame, fun _ _ hi => hrest'.send_step hi,
    fun _ _ hi => hrest'.settles hi⟩

end

/-- A channel is started and started again; the second start ends the loop and dials. -/
def restarting : List Move :=
  [.call (.start 0), .resume 0 .ready, .resume 0 .ready, .resume 0 .ready, .call (.start 1),
    .resume 1 .ready, .halt 0, .proceed 0 .ready, .proceed 0 .ready, .resume 1 .ready]

theorem failedRestart_quiet : ∃ s s' s'',
    exec ⟨"ws://bridge", .usual⟩ (.initial (.new channelName [])) restarting = some s ∧
    step ⟨"ws://bridge", .usual⟩ s (.resume 1 (.failed "refused")) = some s' ∧
    exec ⟨"ws://bridge", .usual⟩ s' [.call .stop, .resume 2 .ready] = some s'' ∧
    Quiet ⟨"ws://bridge", .usual⟩ s' s'' := by
  let setup : Setup := ⟨"ws://bridge", .usual⟩
  obtain ⟨s, s', s'', hbefore, hs, ⟨_, hi⟩, hdone, hrun⟩ : ∃ s s' s'',
      exec setup (.initial (.new channelName [])) restarting = some s ∧
      step setup s (.resume 1 (.failed "refused")) = some s' ∧
      (∃ point, s.operations[1]? = some (.start 1 point)) ∧
      s'.operations[1]? = some (.finished (.error ((DialFault.refused "refused").error setup))) ∧
      exec setup s' [.call .stop, .resume 2 .ready] = some s'' :=
    ⟨_, _, _, rfl, rfl, ⟨_, rfl⟩, rfl, rfl⟩
  refine ⟨s, s', s'', hbefore, hs, hrun, ?_⟩
  exact ended_operation_quiet hbefore (by decide +kernel) hs (.failed hi hdone) (by simp) hrun

end ChatChannel.Bridge
