import ChatChannel.Proofs.Native.Dispatcher
import ChatChannel.Proofs.Run

/-!
# ChatChannel.Proofs.Native.Delivery

What the dispatchers of the native transport deliver. Along a run an observer notes which events a
client reports (`emittedTo`), which of them its dispatcher takes (`takenBy`), which messages it
prepares (`preparedBy`) and what it hands to the bus (`handed`).

* `events_in_order`: events are taken in the order of their report, and none is lost before the end.
* `works_of_run`: the messages that are prepared are the foreign ones among those taken, in order.
* `canDrain`: a dispatcher that has not ended can always get through its queue.
* `dispatchers_deliver`: so the bus gets, in order and once each, what is made of the foreign
  messages that the allow-list admits, and nothing else.
-/

namespace ChatChannel.Native

/-- A message with what its preparation meets. -/
structure Work where
  message : Message
  attempts : AttachmentKind → Attempt
  fs : FileSystem

/-- The message for the bus, unless nothing is left of it or its sender is not admitted. -/
def Work.accepted? (setup : Setup) (allow : List String) (w : Work) : Option InboundMessage :=
  (setup.intake.takeIn w.attempts w.fs w.message).1.filter fun m => Gate.admits allow m.sender

/-- The message that a dispatcher is preparing. -/
def State.inHand (s : State) (c : Nat) : List Message :=
  match s.stageOf c with
  | .preparing m => [m]
  | _ => []

/-! ## Notes along a run -/

/-- The event that a client reports to its dispatcher. -/
def emittedTo (c : Nat) (s : State) : Move → List Event
  | .emit k e => if k = c && s.hears c then [e] else []
  | _ => []

/-- The event that a dispatcher takes, with the address of its own account at that moment. -/
def takenBy (c : Nat) (s : State) : Move → List (Option Address × Event)
  | .take k => if k = c then (s.queueOf c).head?.toList.map fun e => (s.ownOf c, e) else []
  | _ => []

/-- The message that a dispatcher prepares. -/
def preparedBy (c : Nat) (s : State) : Move → List Work
  | .prepared k attempts =>
    if k = c then (s.inHand c).map fun m => ⟨m, attempts, s.fs⟩ else []
  | _ => []

/-- What the bus gets in a move, with the client whose dispatcher hands it over. -/
def handed (setup : Setup) (s : State) (m : Move) : List (Nat × Delivery) :=
  match m, step setup s m with
  | .prepared k _, some s' => (s'.bus.delivered.drop s.bus.delivered.length).map fun d => (k, d)
  | _, _ => []

/-- The message of a delivery, if it is from this client. -/
def messageFrom? (c : Nat) (h : Nat × Delivery) : Option InboundMessage :=
  if h.1 = c then some h.2.message else none

theorem foreign?_eq_some_iff {own : Option Address} {e : Event} {m : Message} :
    foreign? own e = some m ↔
      e = .message m ∧ m.info.fromMe = false ∧
        (∀ a, own = some a → a.account ≠ m.info.sender.account) ∧
        m.info.chat.server ≠ Address.broadcastServer := by
  cases e with
  | message m' =>
    have hforeign : m'.isForeign own = true ↔
        m'.info.fromMe = false ∧ (∀ a, own = some a → a.account ≠ m'.info.sender.account) ∧
          m'.info.chat.server ≠ Address.broadcastServer := by
      cases own <;> simp [Message.isForeign, Address.isBroadcast, and_assoc]
    simp only [foreign?]
    constructor
    · intro h
      split at h
      · rename_i hm
        cases h
        exact ⟨rfl, hforeign.1 hm⟩
      · cases h
    · rintro ⟨heq, h⟩
      cases heq
      rw [if_pos (hforeign.2 h)]
  | _ => simp [foreign?]

section

variable {setup : Setup} {s s' : State} {m : Move} {moves : List Move} {c : Nat}

/-! ## Events -/

theorem ended_of_step (hend : s.stageOf c = .ended) (h : Step setup s m s') :
    s'.stageOf c = .ended ∧ takenBy c s m = [] := by
  have hturn := turn_of_step h c
  cases hturn with
  | other hm hsame =>
    refine ⟨hsame.stage.trans hend, ?_⟩
    cases m <;> simp_all [takenBy, Move.dispatcher?]
  | emit e _ hstage => exact ⟨hstage.trans hend, rfl⟩
  | take hwaiting => rw [hend] at hwaiting; cases hwaiting
  | halt hwaiting => rw [hend] at hwaiting; cases hwaiting
  | prepared hpreparing => rw [hend] at hpreparing; cases hpreparing
  | handled hdelivering => rw [hend] at hdelivering; cases hdelivering

theorem ended_of_run (hend : s.stageOf c = .ended) (hrun : follow (step setup) s moves = some s') :
    s'.stageOf c = .ended ∧ observe (step setup) (takenBy c) s moves = [] := by
  induction moves generalizing s with
  | nil =>
    simp only [follow, Option.some.injEq] at hrun
    exact ⟨hrun ▸ hend, rfl⟩
  | cons m rest ih =>
    obtain ⟨s₁, hm, hrest⟩ := follow_cons.1 hrun
    obtain ⟨hend₁, htaken⟩ := ended_of_step hend (step_inv hm)
    obtain ⟨hend', htaken'⟩ := ih hend₁ hrest
    refine ⟨hend', ?_⟩
    rw [observe_cons hm, htaken, htaken']
    rfl

theorem events_of_step (h : Step setup s m s') (c : Nat) :
    ∃ lost, s.queueOf c ++ emittedTo c s m =
        (takenBy c s m).map (·.2) ++ (lost ++ s'.queueOf c) ∧
      (s'.stageOf c ≠ .ended → lost = []) := by
  have hturn := turn_of_step h c
  cases hturn with
  | other hm hsame =>
    refine ⟨[], ?_, fun _ => rfl⟩
    rw [hsame.queue]
    cases m <;> simp_all [takenBy, emittedTo, Move.dispatcher?]
  | emit e hqueue =>
    refine ⟨[], ?_, fun _ => rfl⟩
    simp [takenBy, emittedTo, hqueue]
  | take _ hqueue =>
    refine ⟨[], ?_, fun _ => rfl⟩
    simp [takenBy, emittedTo, hqueue]
  | halt _ hqueue hstage =>
    refine ⟨s.queueOf c, ?_, fun hlive => absurd hstage hlive⟩
    simp [takenBy, emittedTo, hqueue]
  | prepared _ hqueue =>
    refine ⟨[], ?_, fun _ => rfl⟩
    simp [takenBy, emittedTo, hqueue]
  | handled _ hqueue =>
    refine ⟨[], ?_, fun _ => rfl⟩
    simp [takenBy, emittedTo, hqueue]

/-- Events are taken in the order in which they were reported, and none is lost before the
dispatcher ends. -/
theorem events_in_order (hrun : follow (step setup) s moves = some s') (c : Nat) :
    ∃ lost, s.queueOf c ++ observe (step setup) (emittedTo c) s moves =
        (observe (step setup) (takenBy c) s moves).map (·.2) ++ (lost ++ s'.queueOf c) ∧
      (s'.stageOf c ≠ .ended → lost = []) := by
  induction moves generalizing s with
  | nil =>
    simp only [follow, Option.some.injEq] at hrun
    exact ⟨[], by simp [observe, hrun], fun _ => rfl⟩
  | cons m rest ih =>
    obtain ⟨s₁, hm, hrest⟩ := follow_cons.1 hrun
    obtain ⟨lost₁, hstep, hlost₁⟩ := events_of_step (step_inv hm) c
    obtain ⟨lost, htail, hlost⟩ := ih hrest
    refine ⟨lost₁ ++ lost, ?_, ?_⟩
    · rw [observe_cons hm, observe_cons hm, ← List.append_assoc, hstep]
      -- Once events are lost the dispatcher has ended, and takes no more of them.
      have htaken : lost₁ = [] ∨ observe (step setup) (takenBy c) s₁ rest = [] := by
        by_cases hend : s₁.stageOf c = .ended
        · exact .inr (ended_of_run hend hrest).2
        · exact .inl (hlost₁ hend)
      rcases htaken with htaken | htaken <;> simp_all
    · intro hlive
      have hlive₁ : s₁.stageOf c ≠ .ended := fun hend => hlive (ended_of_run hend hrest).1
      rw [hlost₁ hlive₁, hlost hlive]
      rfl

/-! ## Messages -/

theorem works_of_step (h : Step setup s m s') (c : Nat) :
    s.inHand c ++ (takenBy c s m).filterMap (fun t => foreign? t.1 t.2) =
      (preparedBy c s m).map Work.message ++ s'.inHand c := by
  have hturn := turn_of_step h c
  cases hturn with
  | other hm hsame =>
    simp only [State.inHand, hsame.stage]
    cases m <;> simp_all [takenBy, preparedBy, Move.dispatcher?]
  | emit e _ hstage => simp [takenBy, preparedBy, State.inHand, hstage]
  | @take e hwaiting hqueue hstage =>
    cases hforeign : foreign? (s.ownOf c) e <;>
      simp [takenBy, preparedBy, State.inHand, hwaiting, hqueue, hstage, hforeign, stageAfter]
  | halt hwaiting _ hstage => simp [takenBy, preparedBy, State.inHand, hwaiting, hstage]
  | prepared hpreparing _ hstage =>
    rcases hstage with hstage | ⟨media, hstage⟩ <;>
      simp [takenBy, preparedBy, State.inHand, hpreparing, hstage]
  | handled hdelivering _ hstage =>
    simp [takenBy, preparedBy, State.inHand, hdelivering, hstage]

/-- The messages that a dispatcher prepares are the foreign ones among those that it takes, in
order. -/
theorem works_of_run (hrun : follow (step setup) s moves = some s') (c : Nat) :
    s.inHand c ++ (observe (step setup) (takenBy c) s moves).filterMap
        (fun t => foreign? t.1 t.2) =
      (observe (step setup) (preparedBy c) s moves).map Work.message ++ s'.inHand c := by
  have hflow := follow_flow (P := fun _ => True) (fun _ _ => trivial)
    (fun t : State => t.inHand c)
    (fun t m => (takenBy c t m).filterMap fun t => foreign? t.1 t.2)
    (fun t m => (preparedBy c t m).filterMap (some ∘ Work.message))
    (fun _ hm => by simpa using works_of_step (step_inv hm) c) trivial hrun
  rw [observe_filterMap, observe_filterMap] at hflow
  simpa using hflow

/-! ## The bus -/

theorem delivered_of_prepareStep {attempts : AttachmentKind → Attempt} {message : Message}
    (h : PrepareStep setup s c attempts message s') :
    s'.bus.allow = s.bus.allow ∧ ∃ grown, s'.bus.delivered = s.bus.delivered ++ grown ∧
      grown.map Delivery.message =
        (Work.accepted? setup s.bus.allow ⟨message, attempts, s.fs⟩).toList := by
  cases h with
  | dropped htake => exact ⟨rfl, [], by simp [State.onClient, State.record], by
      simp [Work.accepted?, htake]⟩
  | @admitted out draft htake hadmits =>
    have hbus : (s.bus.handle ⟨out, contents draft.fs out.media⟩) =
        { s.bus with
          delivered := s.bus.delivered ++ [⟨out, contents draft.fs out.media⟩] } := if_pos hadmits
    have hgate : Gate.admits s.bus.allow out.sender = true := hadmits
    refine ⟨by simp [State.onClient, hbus], [⟨out, contents draft.fs out.media⟩], ?_, ?_⟩
    · simp [State.onClient, hbus]
    · simp [Work.accepted?, htake, Option.filter, hgate]
  | @denied out draft htake hadmits =>
    have hgate : Gate.admits s.bus.allow out.sender = false := hadmits
    refine ⟨rfl, [], by simp [State.onClient, State.record], ?_⟩
    simp [Work.accepted?, htake, Option.filter, hgate]

theorem bus_dispatch (own : Option Address) (e : Event) :
    (s.dispatch c own e).bus.allow = s.bus.allow ∧
      (s.dispatch c own e).bus.delivered = s.bus.delivered := by
  cases e with
  | message m =>
    simp only [State.dispatch]
    split <;> exact ⟨rfl, rfl⟩
  | _ => exact ⟨rfl, rfl⟩

theorem preparedBy_eq {k : Nat} {d : Client} {message : Message}
    {attempts : AttachmentKind → Attempt} (hc : s.clients[k]? = some d)
    (hd : d.stage = .preparing message) :
    preparedBy c s (.prepared k attempts) = if k = c then [⟨message, attempts, s.fs⟩] else [] := by
  have hinHand : s.inHand k = [message] := by simp only [State.inHand, stageOf_eq hc, hd]
  by_cases hk : k = c
  · subst hk
    simp only [preparedBy, hinHand, if_true, List.map_cons, List.map_nil]
  · simp only [preparedBy, if_neg hk]

theorem handed_of_prepared {k : Nat} {d : Client} {message : Message}
    {attempts : AttachmentKind → Attempt}
    (hm : step setup s (.prepared k attempts) = some s') (hc : s.clients[k]? = some d)
    (hd : d.stage = .preparing message) (h : PrepareStep setup s k attempts message s') :
    s'.bus.delivered = s.bus.delivered ++ (handed setup s (.prepared k attempts)).map (·.2) ∧
      (handed setup s (.prepared k attempts)).filterMap (messageFrom? c) =
        (preparedBy c s (.prepared k attempts)).filterMap
          (Work.accepted? setup s.bus.allow) := by
  obtain ⟨-, grown, hdelivered, hmessages⟩ := delivered_of_prepareStep h
  have hhanded : handed setup s (.prepared k attempts) = grown.map fun d => (k, d) := by
    simp only [handed, hm, hdelivered, List.drop_left]
  refine ⟨by simp [hhanded, hdelivered, Function.comp_def], ?_⟩
  rw [hhanded, preparedBy_eq hc hd]
  by_cases hk : k = c
  · subst hk
    have hgrown : (grown.map fun d => (k, d)).filterMap (messageFrom? k) =
        grown.map Delivery.message := by
      simp [List.filterMap_map, messageFrom?, Function.comp_def]
    rw [hgrown, hmessages, if_pos rfl, List.filterMap_cons]
    cases Work.accepted? setup s.bus.allow ⟨message, attempts, s.fs⟩ <;> rfl
  · simp [messageFrom?, hk]

theorem handed_of_step (hm : step setup s m = some s') :
    s'.bus.allow = s.bus.allow ∧
      s'.bus.delivered = s.bus.delivered ++ (handed setup s m).map (·.2) ∧
      (handed setup s m).filterMap (messageFrom? c) =
        (preparedBy c s m).filterMap (Work.accepted? setup s.bus.allow) := by
  have aside : s'.bus.allow = s.bus.allow → s'.bus.delivered = s.bus.delivered →
      handed setup s m = [] → preparedBy c s m = [] → s'.bus.allow = s.bus.allow ∧
      s'.bus.delivered = s.bus.delivered ++ (handed setup s m).map (·.2) ∧
      (handed setup s m).filterMap (messageFrom? c) =
        (preparedBy c s m).filterMap (Work.accepted? setup s.bus.allow) := by
    intro hallow hdelivered hnone hnone'
    rw [hnone, hnone', hdelivered]
    exact ⟨hallow, by simp, rfl⟩
  cases step_inv hm with
  | start _ h =>
    have h := undisturbed_of_startStep h
    exact aside h.allow h.delivered rfl rfl
  | stop _ h =>
    have h := undisturbed_of_stopStep h
    exact aside h.allow h.delivered rfl rfl
  | send _ h =>
    have h := undisturbed_of_sendStep h
    exact aside h.allow h.delivered rfl rfl
  | @take k d e rest =>
    obtain ⟨hallow, hdelivered⟩ :=
      bus_dispatch (s := s.onClient k fun d => { d with queue := rest }) (c := k) d.own e
    exact aside hallow hdelivered rfl rfl
  | prepared hc hd h => exact ⟨(delivered_of_prepareStep h).1, handed_of_prepared hm hc hd h⟩
  | call call => cases call <;> exact aside rfl rfl rfl rfl
  | _ => exact aside rfl rfl rfl rfl

theorem handed_of_run (hrun : follow (step setup) s moves = some s') (c : Nat) :
    s'.bus.delivered =
        s.bus.delivered ++ (observe (step setup) (handed setup) s moves).map (·.2) ∧
      (observe (step setup) (handed setup) s moves).filterMap (messageFrom? c) =
        (observe (step setup) (preparedBy c) s moves).filterMap
          (Work.accepted? setup s.bus.allow) := by
  have hkeep : ∀ {t m t'}, t.bus.allow = s.bus.allow → step setup t m = some t' →
      t'.bus.allow = s.bus.allow :=
    fun hallow hstep => (handed_of_step (c := c) hstep).1.trans hallow
  constructor
  · have hgathered := follow_gathers hkeep (fun t => t.bus.delivered)
      (fun t m => (handed setup t m).filterMap fun h => some h.2)
      (fun _ hstep => by simpa using (handed_of_step (c := c) hstep).2.1) rfl hrun
    rw [observe_filterMap] at hgathered
    simpa using hgathered
  · rw [← observe_filterMap, ← observe_filterMap]
    refine observe_congr hkeep ?_ rfl hrun
    intro t m t' hallow hstep
    rw [← hallow]
    exact (handed_of_step hstep).2.2

/-! ## Progress -/

/-- By moves of its own, the dispatcher can come to wait with nothing left to take. -/
def State.CanDrain (setup : Setup) (attempts : AttachmentKind → Attempt) (c : Nat) (s : State) :
    Prop :=
  ∃ moves s', exec setup s moves = some s' ∧ s'.stageOf c = .waiting ∧ s'.queueOf c = [] ∧
    ∀ m ∈ moves, m = .take c ∨ m = .prepared c attempts ∨ m = .handled c

variable {attempts : AttachmentKind → Attempt}

theorem State.CanDrain.of_step (hm : step setup s m = some s')
    (hmove : m = .take c ∨ m = .prepared c attempts ∨ m = .handled c)
    (h : s'.CanDrain setup attempts c) : s.CanDrain setup attempts c := by
  obtain ⟨moves, s₁, hrun, hwaiting, hqueue, hmoves⟩ := h
  refine ⟨m :: moves, s₁, by simp only [exec, hm, Option.bind_some, hrun], hwaiting, hqueue, ?_⟩
  intro m' hm'
  rcases List.mem_cons.1 hm' with rfl | hm'
  · exact hmove
  · exact hmoves m' hm'

/-- A dispatcher that has a message in hand comes to wait with the same queue. -/
theorem State.CanDrain.of_waiting (hlive : s.stageOf c ≠ .ended)
    (h : ∀ t : State, t.stageOf c = .waiting → t.queueOf c = s.queueOf c →
      t.CanDrain setup attempts c) : s.CanDrain setup attempts c := by
  have finish : ∀ t : State, ∀ media, t.stageOf c = .delivering media →
      t.queueOf c = s.queueOf c → t.CanDrain setup attempts c := by
    intro t media hdelivering hqueue
    obtain ⟨t', hm⟩ := can_finish setup hdelivering
    refine .of_step hm (.inr (.inr rfl)) ?_
    cases turn_of_step (step_inv hm) c with
    | other hne => exact absurd rfl hne
    | handled _ hsame hwaiting => exact h t' hwaiting (hsame.trans hqueue)
  cases hstage : s.stageOf c with
  | waiting => exact h s hstage rfl
  | ended => exact absurd hstage hlive
  | delivering media => exact finish s media hstage rfl
  | preparing message =>
    obtain ⟨s₁, hm⟩ := can_prepare setup attempts hstage
    refine .of_step hm (.inr (.inl rfl)) ?_
    cases turn_of_step (step_inv hm) c with
    | other hne => exact absurd rfl hne
    | prepared _ hsame hnext =>
      rcases hnext with hwaiting | ⟨media, hdelivering⟩
      · exact h s₁ hwaiting hsame
      · exact finish s₁ media hdelivering hsame

/-- A dispatcher that has not ended can always get through its queue. -/
theorem canDrain (setup : Setup) (attempts : AttachmentKind → Attempt)
    (hlive : s.stageOf c ≠ .ended) : s.CanDrain setup attempts c := by
  -- Taking an event shortens the queue, and the work on a message leaves it as it is.
  induction hlength : (s.queueOf c).length generalizing s with
  | zero =>
    refine .of_waiting hlive fun t hwaiting hqueue => ⟨[], t, rfl, hwaiting, ?_, ?_⟩
    · rw [hqueue, List.length_eq_zero_iff.1 hlength]
    · exact fun _ hm => absurd hm List.not_mem_nil
  | succ n ih =>
    refine .of_waiting hlive fun t hwaiting hqueue => ?_
    obtain ⟨e, rest, hcons⟩ := List.exists_cons_of_length_eq_add_one hlength
    obtain ⟨t', hm⟩ := can_take setup hwaiting (hqueue.trans hcons)
    refine .of_step hm (.inl rfl) ?_
    cases turn_of_step (step_inv hm) c with
    | other hne => exact absurd rfl hne
    | take _ hrest hnext =>
      refine ih ?_ ?_
      · rw [hnext]
        cases foreign? (t.ownOf c) _ <;> simp [stageAfter]
      · rw [← hqueue, hrest] at hlength
        simpa using hlength

/-- The bus gets what the dispatchers hand over and nothing else. What one of them hands over is, in
order and once each, what is made of the foreign messages that it takes and that the allow-list
admits; and it takes the events of its client in the order of their report, and can take all of them
as long as it has not ended. -/
theorem dispatchers_deliver (hrun : exec setup s moves = some s') :
    s'.bus.delivered =
        s.bus.delivered ++ (observe (step setup) (handed setup) s moves).map (·.2) ∧
      (∀ c, (observe (step setup) (handed setup) s moves).filterMap (messageFrom? c) =
          (observe (step setup) (preparedBy c) s moves).filterMap
            (Work.accepted? setup s.bus.allow) ∧
        s.inHand c ++ (observe (step setup) (takenBy c) s moves).filterMap
            (fun t => foreign? t.1 t.2) =
          (observe (step setup) (preparedBy c) s moves).map Work.message ++ s'.inHand c ∧
        ∃ lost, s.queueOf c ++ observe (step setup) (emittedTo c) s moves =
            (observe (step setup) (takenBy c) s moves).map (·.2) ++ (lost ++ s'.queueOf c) ∧
          (s'.stageOf c ≠ .ended → lost = [] ∧ ∀ attempts, s'.CanDrain setup attempts c)) ∧
      (∀ own e m, foreign? own e = some m ↔
        e = .message m ∧ m.info.fromMe = false ∧
          (∀ a, own = some a → a.account ≠ m.info.sender.account) ∧
          m.info.chat.server ≠ Address.broadcastServer) ∧
      ∀ (w : Work) (m : InboundMessage), w.accepted? setup s.bus.allow = some m ↔
        (setup.intake.takeIn w.attempts w.fs w.message).1 = some m ∧
          Gate.admits s.bus.allow m.sender = true := by
  rw [exec_eq_follow] at hrun
  refine ⟨(handed_of_run hrun 0).1, fun c => ⟨?_, ?_, ?_⟩, ?_, ?_⟩
  · exact (handed_of_run hrun c).2
  · exact works_of_run hrun c
  · obtain ⟨lost, hqueue, hlost⟩ := events_in_order hrun c
    exact ⟨lost, hqueue, fun hlive => ⟨hlost hlive, fun attempts => canDrain setup attempts hlive⟩⟩
  · intro own e m
    exact foreign?_eq_some_iff
  · intro w m
    simp only [Work.accepted?, Option.filter_eq_some_iff]

end

/-- A text of one account to another. -/
def textMessage (sender chat : Address) (fromMe : Bool) (text : String) : Message where
  info := ⟨"id", chat, sender, fromMe, false, ""⟩
  content := ⟨some text, none, none, none, none, none, none⟩

/-- No attachment can be downloaded. -/
def unavailable (_ : AttachmentKind) : Attempt :=
  ⟨.error "unavailable", .ofNat 0, .none⟩

/-- A start for account `me`, then events of all kinds; only the texts of `a` are for the bus. -/
def mixedEvents : List Move :=
  let me : Address := .ofAccount "me" "s"
  let a : Address := .ofAccount "a" "s"
  let all : Address := .ofAccount "all" Address.broadcastServer
  [.call (.start 0), .resume 0 .ready, .resume 0 .ready, .resume 0 .ready,
    .resume 0 (.opened (some { me with device := 3 })),
    .emit 0 (.message (textMessage a a false "one")), .emit 0 .connected,
    .emit 0 (.message (textMessage me a false "echo")),
    .emit 0 (.message (textMessage a me true "mine")), .take 0, .prepared 0 unavailable,
    .emit 0 (.message (textMessage a all false "to all")),
    .emit 0 (.history [textMessage a a false "old"]), .handled 0, .take 0, .take 0, .take 0,
    .emit 0 (.message (textMessage (.ofAccount "b" "s") a false "not admitted")), .take 0,
    .take 0, .take 0, .prepared 0 unavailable, .emit 0 (.loggedOut "revoked"),
    .emit 0 (.message (textMessage a a false "two")), .take 0, .take 0,
    .prepared 0 unavailable]

theorem mixedEvents_delivered : ∃ s',
    exec plainSetup (.initial (.new channelName ["a"]) .empty) mixedEvents = some s' ∧
      s'.bus.delivered.map (·.message.content) = ["one", "two"] ∧ s'.queueOf 0 = [] := by
  let s : State := .initial (.new channelName ["a"]) .empty
  have hsome : (exec plainSetup s mixedEvents).isSome = true := by decide +kernel
  obtain ⟨s', hrun⟩ := Option.isSome_iff_exists.1 hsome
  obtain ⟨hdelivered, hclients, -⟩ := dispatchers_deliver hrun
  obtain ⟨-, -, lost, hqueue, -⟩ := hclients 0
  refine ⟨s', hrun, ?_, ?_⟩
  · rw [hdelivered]
    decide +kernel
  · have htaken : s.queueOf 0 ++ observe (step plainSetup) (emittedTo 0) s mixedEvents =
        (observe (step plainSetup) (takenBy 0) s mixedEvents).map (·.2) := by decide +kernel
    rw [htaken] at hqueue
    have hrest : lost ++ s'.queueOf 0 = [] := by simpa using hqueue
    exact (List.append_eq_nil_iff.1 hrest).2

end ChatChannel.Native
