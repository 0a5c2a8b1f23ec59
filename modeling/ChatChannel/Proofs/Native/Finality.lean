import ChatChannel.Proofs.Native.Delivery
import ChatChannel.Proofs.Native.FailedStart

/-!
# ChatChannel.Proofs.Native.Finality

What can happen after a stop. A stop tells the dispatcher to end, but does not wait for it: the
dispatcher first gets done with the message that it has in hand, and may take further events before
it notices.

* `retired_of_step`: without a dispatcher or a start, nothing is delivered and the connection stays
  down.
* `dispatcher_delivers`: a dispatcher that has not ended can always deliver.
* `stop_final_iff`: so a stop is final exactly if all dispatchers have ended when it returns.
* `stopped_and_delivered`: runs in which it is not.
-/

namespace ChatChannel.Native

/-- Up to the next start, the bus gets no message and the connection is not shown to be up. -/
def Final (setup : Setup) (s : State) : Prop :=
  ∀ moves s', (∀ m ∈ moves, ∀ t, m ≠ .call (.start t)) → exec setup s moves = some s' →
    s'.bus.delivered = s.bus.delivered ∧
      (s'.connection = .disconnected ∨ s'.connection = .loggedOut)

/-- The connection is down, and nothing is left that could change this. -/
structure Retired (s : State) : Prop where
  starts : ∀ o ∈ s.operations, o.isStart = false
  dispatchers : ∀ d ∈ s.clients, d.stage = .ended
  down : s.connection = .disconnected ∨ s.connection = .loggedOut

section

variable {setup : Setup} {s s' s₁ : State} {m : Move} {i c : Nat} {answer : Answer} {d : Client}

/-! ## Without a dispatcher -/

theorem ended_modify {cs : List Client} {f : Client → Client}
    (h : ∀ d ∈ cs, d.stage = .ended) (hf : ∀ d, d.stage = .ended → (f d).stage = .ended) :
    ∀ d ∈ cs.modify c f, d.stage = .ended := by
  intro d hd
  obtain ⟨j, hj⟩ := List.mem_iff_getElem?.1 hd
  rw [List.getElem?_modify] at hj
  obtain ⟨d₀, hd₀, rfl⟩ := Option.map_eq_some_iff.1 hj
  have hend := h d₀ (List.mem_of_getElem? hd₀)
  split
  · exact hf d₀ hend
  · exact hend

theorem Retired.congr (h : Retired s) (hoperations : s'.operations = s.operations)
    (hclients : s'.clients = s.clients) (hconnection : s'.connection = s.connection) :
    Retired s' :=
  ⟨hoperations ▸ h.starts, hclients ▸ h.dispatchers, hconnection ▸ h.down⟩

theorem Retired.setOperation (h : Retired s) {o : Operation} (ho : o.isStart = false) :
    Retired (s.setOperation i o) := by
  refine ⟨fun o' ho' => ?_, h.dispatchers, h.down⟩
  rcases List.mem_or_eq_of_mem_set ho' with hmem | rfl
  · exact h.starts o' hmem
  · exact ho

theorem Retired.onClient (h : Retired s) {f : Client → Client}
    (hf : ∀ d, d.stage = .ended → (f d).stage = .ended) : Retired (s.onClient c f) :=
  ⟨h.starts, ended_modify h.dispatchers hf, h.down⟩

theorem Retired.becomes (h : Retired s) : Retired (s.becomes .disconnected) :=
  ⟨h.starts, h.dispatchers, becomes_eq s .disconnected⟩

theorem Retired.releaseStep (h : Retired s) {point : ReleasePoint} {next : Option ReleasePoint}
    (hs : ReleaseStep s point s₁ next) : Retired s₁ := by
  cases hs with
  | @token c hd =>
    have hfree : Retired { s with dispatcher := none } := h.congr rfl rfl rfl
    exact hfree.onClient fun d hd => hd
  | _ => exact h.congr rfl rfl rfl

theorem Retired.stopStep (h : Retired s) {point : StopPoint}
    (hs : StopStep s i point answer s') : Retired s' := by
  cases hs with
  | checked =>
    have hidle : Retired { s with bus := s.bus.setRunning false } := h.congr rfl rfl rfl
    exact hidle.setOperation rfl
  | releasing hs => exact (h.releaseStep hs).setOperation rfl
  | released hs => exact (h.releaseStep hs).becomes.setOperation rfl

theorem Retired.sendStep (h : Retired s) {message : OutboundMessage} {point : SendPoint}
    (hs : SendStep s i message point answer s') : Retired s' := by
  cases hs with
  | @send c target =>
    have hasked : Retired (s.asks c (.sendText target message.content)) := h.congr rfl rfl rfl
    exact hasked.setOperation rfl
  | _ => exact h.setOperation rfl

theorem Retired.begin (h : Retired s) {call : Call} (hcall : ∀ t, call ≠ .start t) :
    Retired (s.begin call) := by
  cases call with
  | start t => exact absurd rfl (hcall t)
  | stop =>
    refine ⟨fun o ho => ?_, h.dispatchers, h.down⟩
    rcases List.mem_append.1 ho with ho | ho
    · exact h.starts o ho
    · exact List.mem_singleton.1 ho ▸ rfl
  | send message =>
    refine ⟨fun o ho => ?_, h.dispatchers, h.down⟩
    rcases List.mem_append.1 ho with ho | ho
    · exact h.starts o ho
    · exact List.mem_singleton.1 ho ▸ rfl

/-- Only a dispatcher delivers, and only a dispatcher or a start brings the connection up. -/
theorem retired_of_step (h : Retired s) (hm : ∀ t, m ≠ .call (.start t))
    (hs : Step setup s m s') : Retired s' ∧ s'.bus.delivered = s.bus.delivered := by
  have busy : ∀ {c : Nat} {d : Client}, s.clients[c]? = some d → d.stage = .ended := fun hc =>
    h.dispatchers _ (List.mem_of_getElem? hc)
  cases hs with
  | call call =>
    exact ⟨h.begin fun t ht => hm t (congrArg Move.call ht), by cases call <;> rfl⟩
  | start hi _ => cases h.starts _ (List.mem_of_getElem? hi)
  | stop _ hs => exact ⟨h.stopStep hs, (undisturbed_of_stopStep hs).delivered⟩
  | send _ hs => exact ⟨h.sendStep hs, (undisturbed_of_sendStep hs).delivered⟩
  | take hc hd _ => rw [busy hc] at hd; cases hd
  | halt hc hd _ => rw [busy hc] at hd; cases hd
  | prepared hc hd _ => rw [busy hc] at hd; cases hd
  | handled hc hd => rw [busy hc] at hd; cases hd
  | emit c e =>
    refine ⟨h.onClient fun d hd => ?_, rfl⟩
    simp only [Client.receive, hd, if_true]
  | setLinked c linked => exact ⟨h.onClient fun d hd => hd, rfl⟩
  | setOwn c own => exact ⟨h.onClient fun d hd => hd, rfl⟩
  | cancel token => exact ⟨h.congr rfl rfl rfl, rfl⟩
  | elapse _ => exact ⟨h.congr rfl rfl rfl, rfl⟩

theorem Retired.final (h : Retired s) : Final setup s := by
  intro moves s' hcalls hrun
  rw [exec_eq_follow] at hrun
  have hkeep : Retired s' ∧ s'.bus.delivered = s.bus.delivered := by
    refine follow_invariant (P := fun t => Retired t ∧ t.bus.delivered = s.bus.delivered) ?_
      ⟨h, rfl⟩ hcalls hrun
    rintro t m t' ⟨ht, hdelivered⟩ hm hstep
    obtain ⟨ht', hsame⟩ := retired_of_step ht hm (step_inv hstep)
    exact ⟨ht', hsame.trans hdelivered⟩
  exact ⟨hkeep.2, hkeep.1.down⟩

/-! ## With a dispatcher -/

theorem sender_addFacts (info : Envelope) (message : InboundMessage) :
    (Intake.addFacts info message).sender = message.sender := by
  unfold Intake.addFacts
  dsimp only
  split <;> split <;> rfl

/-- A text that an account sends to a chat, whatever the account. -/
def textFrom (a : Address) : Message :=
  textMessage a (.ofAccount "chat" "s") false "text"

theorem takeIn_textFrom (n : Intake) (attempts : AttachmentKind → Attempt) (fs : FileSystem)
    (a : Address) :
    ∃ message, (n.takeIn attempts fs (textFrom a)).1 = some message ∧ message.sender = a.text := by
  refine ⟨_, rfl, ?_⟩
  rw [sender_addFacts]
  rfl

theorem foreign_textFrom (a : Address) :
    foreign? none (.message (textFrom a)) = some (textFrom a) :=
  rfl

theorem allow_of_run {moves : List Move} (hrun : exec setup s moves = some s') :
    s'.bus.allow = s.bus.allow := by
  rw [exec_eq_follow] at hrun
  refine follow_invariant (P := fun t => t.bus.allow = s.bus.allow) (Q := fun _ => True) ?_ rfl
    (fun _ _ => trivial) hrun
  intro t m t' ht _ hstep
  exact (handed_of_step (c := 0) hstep).1.trans ht

/-- The work of a dispatcher leaves the clients that are known. -/
theorem known_of_drain {attempts : AttachmentKind → Attempt} {moves : List Move}
    (hmoves : ∀ m ∈ moves, m = .take c ∨ m = .prepared c attempts ∨ m = .handled c)
    (hrun : exec setup s moves = some s') : s'.clients.length = s.clients.length := by
  rw [exec_eq_follow] at hrun
  refine follow_invariant (P := fun t => t.clients.length = s.clients.length)
    ?_ rfl hmoves hrun
  intro t m t' ht hm hstep
  rw [← ht]
  rcases hm with rfl | rfl | rfl
  · cases step_inv hstep with
    | @take _ d e rest =>
      have hlength : ∀ (t : State) own, (t.dispatch c own e).clients.length = t.clients.length := by
        intro t own
        cases e with
        | message message =>
          simp only [State.dispatch]
          split
          · exact List.length_modify ..
          · rfl
        | _ => rfl
      rw [hlength]
      exact List.length_modify ..
  · cases step_inv hstep with
    | prepared _ _ hs =>
      obtain ⟨stage, hclients, -⟩ := clients_of_prepareStep hs
      rw [hclients]
      exact List.length_modify ..
  · cases step_inv hstep with
    | handled => exact List.length_modify ..

/-- A dispatcher that has not ended can always come to deliver: it gets through its queue, and then
a message comes in. -/
theorem dispatcher_delivers (setup : Setup) (hc : s.clients[c]? = some d)
    (hlive : d.stage ≠ .ended) {a : Address} (ha : s.bus.admits a.text = true) :
    ∃ moves s₁ s', (∀ m ∈ moves, ∀ t, m ≠ .call (.start t)) ∧ exec setup s moves = some s₁ ∧
      step setup s₁ (.prepared c unavailable) = some s' ∧
      s'.bus.delivered ≠ s₁.bus.delivered := by
  obtain ⟨drain, s₁, hdrain, hwaiting, hqueue, hmoves⟩ :=
    canDrain setup unavailable (s := s) (c := c) (by rwa [stageOf_eq hc])
  have hknown : c < s₁.clients.length := by
    rw [known_of_drain hmoves hdrain]
    exact (List.getElem?_eq_some_iff.1 hc).1
  obtain ⟨d₁, hc₁⟩ : ∃ d₁, s₁.clients[c]? = some d₁ := ⟨_, List.getElem?_eq_getElem hknown⟩
  rw [stageOf_eq hc₁] at hwaiting
  rw [queueOf_eq hc₁] at hqueue
  -- The text comes to a client without an account, so that it is foreign whoever sends it.
  have hc₂ : (s₁.onClient c fun d => { d with own := none }).clients[c]? =
      some { d₁ with own := none } := client_onClient hc₁
  have hc₃ := client_onClient (f := fun d => d.receive (.message (textFrom a))) hc₂
  generalize hs₃ : (s₁.onClient c fun d => { d with own := none }).onClient c
    (fun d => d.receive (.message (textFrom a))) = s₃ at hc₃
  simp only [Client.receive, hwaiting, hqueue, reduceCtorEq, if_false, List.nil_append] at hc₃
  obtain ⟨s₄, htake⟩ := can_take setup (stageOf_eq hc₃) (queueOf_eq hc₃)
  have hpreparing : s₄.stageOf c = .preparing (textFrom a) := by
    cases turn_of_step (step_inv htake) c with
    | other hne => exact absurd rfl hne
    | take _ hcons hstage =>
      rw [queueOf_eq hc₃] at hcons
      obtain ⟨rfl, -⟩ := List.cons.inj hcons
      rw [hstage, ownOf_eq hc₃, foreign_textFrom, stageAfter]
  obtain ⟨s₅, hprepare⟩ := can_prepare setup unavailable hpreparing
  let moves : List Move := [.setOwn c none, .emit c (.message (textFrom a)), .take c]
  have hrun : exec setup s (drain ++ moves) = some s₄ := by
    have hlast : exec setup s₁ moves = some s₄ := by
      simp only [moves, exec, step, Option.bind_some, hs₃] at htake ⊢
      rw [htake]
      rfl
    rw [exec_eq_follow] at hdrain hlast ⊢
    exact follow_append hdrain hlast
  refine ⟨drain ++ moves, s₄, s₅, fun m hm t => ?_, hrun, hprepare, ?_⟩
  · rcases List.mem_append.1 hm with hm | hm
    · rcases hmoves m hm with rfl | rfl | rfl <;> simp
    · simp only [moves, List.mem_cons, List.not_mem_nil, or_false] at hm
      rcases hm with rfl | rfl | rfl <;> simp
  · cases step_inv hprepare with
    | prepared hc' hd' hs =>
      rw [stageOf_eq hc', hd'] at hpreparing
      cases hpreparing
      obtain ⟨-, grown, hgrown, hmessages⟩ := delivered_of_prepareStep hs
      obtain ⟨message, htaken, hsender⟩ :=
        takeIn_textFrom setup.intake unavailable s₄.fs a
      have hadmits : Gate.admits s₄.bus.allow message.sender = true := by
        rw [hsender, allow_of_run hrun]
        exact ha
      intro hsame
      have hnone : grown = [] := by simpa [hsame] using hgrown
      simp [hnone, Work.accepted?, htaken, Option.filter, hadmits] at hmessages

/-- A stop has just returned, no start is in flight, and there is an address that the allow-list
admits. Then the stop is final, up to the next start, exactly if all dispatchers have ended. -/
theorem stop_final_iff {point : StopPoint} {result : Except ChannelError Unit}
    (hi : s.operations[i]? = some (.stop point))
    (hlast : step setup s (.resume i answer) = some s')
    (hdone : s'.operations[i]? = some (.finished result))
    (hstarts : ∀ o ∈ s'.operations, o.isStart = false)
    (hopen : ∃ a : Address, s'.bus.admits a.text = true) :
    Final setup s' ↔ ∀ d ∈ s'.clients, d.stage = .ended := by
  constructor
  · intro hfinal d hd
    obtain ⟨c, hc⟩ := List.mem_iff_getElem?.1 hd
    refine Classical.byContradiction fun hlive => ?_
    obtain ⟨a, ha⟩ := hopen
    obtain ⟨moves, s₁, s₂, hcalls, hrun, hprepared, hgrown⟩ :=
      dispatcher_delivers setup hc hlive ha
    have hlonger : exec setup s' (moves ++ [.prepared c unavailable]) = some s₂ := by
      rw [exec_eq_follow] at hrun ⊢
      exact follow_append hrun (follow_cons.2 ⟨s₂, hprepared, rfl⟩)
    have hbefore := (hfinal moves s₁ hcalls hrun).1
    have hafter := (hfinal _ s₂ (fun m hm t => ?_) hlonger).1
    · exact hgrown (hafter.trans hbefore.symm)
    · rcases List.mem_append.1 hm with hm | hm
      · exact hcalls m hm t
      · simp [List.mem_singleton.1 hm]
  · intro hended
    refine Retired.final ⟨hstarts, hended, ?_⟩
    -- Only the last step of a stop finishes it, and that one brings the connection down.
    have hknown : i < s.operations.length := (List.getElem?_eq_some_iff.1 hi).1
    cases step_inv hlast with
    | start hi' _ => rw [hi] at hi'; cases hi'
    | send hi' _ => rw [hi] at hi'; cases hi'
    | stop hi' hs =>
      rw [hi] at hi'
      cases hi'
      cases hs with
      | checked =>
        rw [State.setOperation, List.getElem?_set_self hknown] at hdone
        cases hdone
      | @releasing _ _ s₁ hs =>
        rw [← operations_of_releaseStep hs] at hknown
        rw [State.setOperation, List.getElem?_set_self hknown] at hdone
        cases hdone
      | @released _ s₁ hs => exact becomes_eq s₁ .disconnected

end

/-- A paired client is started and reports a text and that the link is up. Then the channel is
stopped, while the dispatcher has the text in hand and goes on with these moves. -/
def stopping (dispatcher : List Move) : List Move :=
  let me : Address := .ofAccount "me" "s"
  [.call (.start 0), .resume 0 .ready, .resume 0 .ready, .resume 0 .ready,
    .resume 0 (.opened (some me)), .resume 0 .ready, .resume 0 .ready, .resume 0 .ready,
    .emit 0 (.message (textFrom (.ofAccount "a" "s"))), .emit 0 .connected, .take 0, .call .stop,
    .resume 1 .ready, .resume 1 .ready] ++ dispatcher ++ [.resume 1 .ready]

/-- The dispatcher gets done with the text, and notices that it was told to end. -/
def dispatcherEnds : List Move :=
  [.prepared 0 unavailable, .handled 0, .halt 0]

theorem dispatcherEnds_final : ∃ s s',
    exec plainSetup (.initial (.new channelName []) .empty) (stopping dispatcherEnds) = some s ∧
      step plainSetup s (.resume 1 .ready) = some s' ∧ Final plainSetup s' := by
  obtain ⟨s, s', hrun, hi, hlast, hdone, hallow, hstages⟩ : ∃ s s',
      exec plainSetup (.initial (.new channelName []) .empty) (stopping dispatcherEnds) = some s ∧
      s.operations[1]? = some (.stop (.release (.disconnecting 0))) ∧
      step plainSetup s (.resume 1 .ready) = some s' ∧
      s'.operations = [.finished (.ok ()), .finished (.ok ())] ∧ s'.bus.allow = [] ∧
      s'.clients.map Client.stage = [.ended] := ⟨_, _, rfl, rfl, rfl, rfl, rfl, rfl⟩
  have hresult : s'.operations[1]? = some (.finished (.ok ())) := by rw [hdone]; rfl
  have hstarts : ∀ o ∈ s'.operations, o.isStart = false := by simp [hdone, Operation.isStart]
  have hopen : ∃ a : Address, s'.bus.admits a.text = true :=
    ⟨.ofAccount "a" "s", by rw [Bus.admits, hallow]; rfl⟩
  refine ⟨s, s', hrun, hlast, (stop_final_iff hi hlast hresult hstarts hopen).2 fun d hd => ?_⟩
  have hmem : d.stage ∈ s'.clients.map Client.stage := List.mem_map_of_mem hd
  rw [hstages] at hmem
  exact List.mem_singleton.1 hmem

/-- A stop returns while the dispatcher has the text in hand and the report in its queue. Then the
text is delivered, and the connection is shown to be up. -/
theorem stopped_and_delivered : ∃ s s' s'',
    exec plainSetup (.initial (.new channelName []) .empty) (stopping []) = some s ∧
    step plainSetup s (.resume 1 .ready) = some s' ∧
    s'.operations = [.finished (.ok ()), .finished (.ok ())] ∧
    s'.bus.delivered = [] ∧ s'.connection = .disconnected ∧
    exec plainSetup s' [.prepared 0 unavailable, .handled 0, .take 0] = some s'' ∧
    s''.bus.delivered.map (·.message.content) = ["text"] ∧ s''.connection = .connected :=
  ⟨_, _, _, rfl, rfl, rfl, rfl, rfl, rfl, rfl, rfl⟩

end ChatChannel.Native
