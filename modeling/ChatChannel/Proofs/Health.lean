import ChatChannel.Proofs.Bridge.Wiring
import ChatChannel.Proofs.Native.FailedStart
import ChatChannel.Proofs.Native.Running

/-!
# ChatChannel.Proofs.Health

What a channel shows of itself once the task behind it is over, as it is after its token has fired.
The loop of the bridge takes its socket and the running flag back as it ends. The dispatcher of the
native transport takes nothing back: the channel looks down only as far as something else has
brought it down.

* `Bridge.looksDown_of_latest`: a bridge whose latest loop is over looks down.
* `Native.looksDown_iff`: a native channel that was started does so if it was brought down since.
* `ended_channel_health`: both.
* `Native.cancelled_and_healthy`: a native channel that does not look down.
-/

namespace ChatChannel

namespace Bridge

/-- A send that is called now, and meets nothing else, fails and hands nothing to the peer. -/
def FailsToSend (setup : Setup) (s : State) (message : OutboundMessage) : Prop :=
  ∃ n s' error,
    exec setup s (.call (.send message) :: .replicate n (.resume s.operations.length .ready)) =
      some s' ∧
    s'.operations[s.operations.length]? = some (.finished (.error error)) ∧ s'.log = s.log

/-- Nothing about the channel looks healthy. -/
structure LooksDown (setup : Setup) (s : State) : Prop where
  running : s.bus.running = false
  connection : s.connection ≠ .connected
  sends : ∀ message, FailsToSend setup s message

variable {setup : Setup} {s s' : State}

theorem failsToSend_of_no_writer (hw : s.writer = none) (message : OutboundMessage) :
    FailsToSend setup s message := by
  let error : ChannelError := .connectivity "whatsapp bridge not connected"
  refine ⟨1, (s.begin (.send message)).finish s.operations.length (.error error), error, ?_, ?_,
    rfl⟩
  · simp [exec, step, State.begin, State.resume, State.resumeSend, hw, error]
  · simp [State.finish, State.setOperation, State.begin]

theorem Faithful.looksDown (h : Faithful s) (hsilent : s.Silent) : LooksDown setup s := by
  obtain ⟨hwriter, hrunning, hconnection⟩ := h.down hsilent
  exact ⟨hrunning, hconnection, failsToSend_of_no_writer hwriter⟩

/-- A bridge whose latest loop is over looks down, whatever has ended the loop. -/
theorem looksDown_of_latest {bus : Bus} {moves : List Move} {l : ReadLoop}
    (hidle : bus.running = false) (hrun : exec setup (.initial bus) moves = some s')
    (hlast : s'.loops.getLast? = some l) (hend : l.point = .ended) : LooksDown setup s' := by
  obtain ⟨horderly, hfaithful⟩ := wired_of_run hidle hrun
  rw [List.getLast?_eq_getElem?] at hlast
  have hknown : s'.loops.length - 1 < s'.loops.length := (List.getElem?_eq_some_iff.1 hlast).1
  refine hfaithful.looksDown (horderly.silent_of_latest (k := s'.loops.length - 1) (by omega) ?_)
  rw [pointOf?_eq hlast, hend]

end Bridge

namespace Native

/-- A send that is called now, and meets nothing else, fails and hands nothing to the peer. -/
def FailsToSend (setup : Setup) (s : State) (message : OutboundMessage) : Prop :=
  ∃ n s' error,
    exec setup s (.call (.send message) :: .replicate n (.resume s.operations.length .ready)) =
      some s' ∧
    s'.operations[s.operations.length]? = some (.finished (.error error)) ∧ s'.log = s.log

/-- Nothing about the channel looks healthy. -/
structure LooksDown (setup : Setup) (s : State) : Prop where
  running : s.bus.running = false
  connection : s.connection ≠ .connected
  sends : ∀ message, FailsToSend setup s message

variable {setup : Setup} {s s' s₀ : State} {moves : List Move}

/-! ## Sends -/

theorem failsToSend_of_loggedOut (hout : s.connection = .loggedOut) (message : OutboundMessage) :
    FailsToSend setup s message := by
  let error : ChannelError := .loggedOut "whatsapp session was revoked"
  refine ⟨1, (s.begin (.send message)).finish s.operations.length (.error error), error, ?_, ?_,
    rfl⟩
  · simp [exec, step, State.begin, State.resume, State.resumeSend, hout, error]
  · simp [State.finish, State.setOperation, State.begin]

/-- The transport with a send that has been checked. -/
def State.sendChecked (s : State) (message : OutboundMessage) : State :=
  (s.begin (.send message)).setOperation s.operations.length (.send message .lookup)

theorem exec_sendChecked (hin : s.connection ≠ .loggedOut) (message : OutboundMessage) (n : Nat) :
    exec setup s
        (.call (.send message) :: .replicate (n + 1) (.resume s.operations.length .ready)) =
      exec setup (s.sendChecked message) (.replicate n (.resume s.operations.length .ready)) := by
  simp [List.replicate_succ, exec, step, State.sendChecked, State.begin, State.resume,
    State.resumeSend, hin]

theorem sendPoint_sendChecked (s : State) (message : OutboundMessage) :
    (s.sendChecked message).operations[s.operations.length]? = some (.send message .lookup) := by
  simp [State.sendChecked, State.begin, State.setOperation]

theorem failsToSend_of_unlinked (hin : s.connection ≠ .loggedOut)
    (hlinked : s.linkedClient? = none) (message : OutboundMessage) :
    FailsToSend setup s message := by
  let error : ChannelError := .connectivity "whatsapp client not connected"
  have hlinked' : (s.sendChecked message).linkedClient? = none := hlinked
  refine ⟨2, (s.sendChecked message).finish s.operations.length (.error error), error, ?_, ?_, rfl⟩
  · rw [exec_sendChecked hin]
    simp [exec, step, State.resume, State.resumeSend, sendPoint_sendChecked, hlinked', error]
  · simp [State.finish, State.setOperation, State.sendChecked, State.begin]

/-- The transport with a send that has asked client `c` to send. -/
def State.sendAsked (s : State) (c : Nat) (target : Address) (message : OutboundMessage) : State :=
  ((s.sendChecked message).asks c (.sendText target message.content)).setOperation
    s.operations.length (.send message (.sending target))

theorem sendPoint_sendAsked (s : State) (c : Nat) (target : Address) (message : OutboundMessage) :
    (s.sendAsked c target message).operations[s.operations.length]? =
      some (.send message (.sending target)) := by
  simp [State.sendAsked, State.asks, State.record, State.sendChecked, State.begin,
    State.setOperation]

theorem exec_sendAsked {c : Nat} {target : Address} {message : OutboundMessage}
    (hin : s.connection ≠ .loggedOut) (hlinked : s.linkedClient? = some c)
    (ht : Address.parseTarget message.chat = .ok target) (n : Nat) :
    exec setup s
        (.call (.send message) :: .replicate (n + 2) (.resume s.operations.length .ready)) =
      exec setup (s.sendAsked c target message)
        (.replicate n (.resume s.operations.length .ready)) := by
  have hlinked' : (s.sendChecked message).linkedClient? = some c := hlinked
  rw [exec_sendChecked hin]
  simp [List.replicate_succ, exec, step, State.resume, State.resumeSend, sendPoint_sendChecked,
    hlinked', ht, State.sendAsked]

/-- A send whose client answers that all is well does not fail. -/
theorem sent_of_sendAsked {c : Nat} {target : Address} {message : OutboundMessage} (n : Nat)
    (hrun : exec setup (s.sendAsked c target message)
      (.replicate n (.resume s.operations.length .ready)) = some s') :
    s'.operations[s.operations.length]? = some (.send message (.sending target)) ∨
      s'.operations[s.operations.length]? = some (.finished (.ok ())) := by
  have hpoint := sendPoint_sendAsked s c target message
  have hknown : s.operations.length < (s.sendAsked c target message).operations.length :=
    (List.getElem?_eq_some_iff.1 hpoint).1
  have hdone : ((s.sendAsked c target message).finish s.operations.length
      (.ok ())).operations[s.operations.length]? = some (.finished (.ok ())) :=
    List.getElem?_set_self hknown
  have hsent : step setup (s.sendAsked c target message) (.resume s.operations.length .ready) =
      some ((s.sendAsked c target message).finish s.operations.length (.ok ())) := by
    simp [step, State.resume, State.resumeSend, hpoint]
  -- It goes on once, and then it is over.
  rcases n with _ | _ | n
  · cases hrun
    exact .inl hpoint
  · simp only [List.replicate_succ, List.replicate_zero, exec, hsent, Option.bind_some] at hrun
    cases hrun
    exact .inr hdone
  · have hover : step setup ((s.sendAsked c target message).finish s.operations.length (.ok ()))
        (.resume s.operations.length .ready) = none := by
      simp [step, State.resume, hdone]
    simp [List.replicate_succ, exec, hsent, hover] at hrun

theorem not_failsToSend {c : Nat} {target : Address} {message : OutboundMessage}
    (hin : s.connection ≠ .loggedOut) (hlinked : s.linkedClient? = some c)
    (ht : Address.parseTarget message.chat = .ok target) : ¬FailsToSend setup s message := by
  rintro ⟨n, s', error, hrun, hend, -⟩
  rcases n with _ | _ | n
  · simp only [List.replicate_zero, exec, step, Option.bind_some, Option.some.injEq] at hrun
    simp [← hrun, State.begin] at hend
  · rw [exec_sendChecked hin, List.replicate_zero] at hrun
    cases hrun
    rw [sendPoint_sendChecked] at hend
    cases hend
  · rw [exec_sendAsked hin hlinked ht] at hrun
    rcases sent_of_sendAsked n hrun with hsending | hsent
    · rw [hsending] at hend
      cases hend
    · rw [hsent] at hend
      cases hend

theorem sends_fail_iff :
    (∀ message, FailsToSend setup s message) ↔
      s.connection = .loggedOut ∨ s.linkedClient? = none := by
  constructor
  · intro hfails
    by_cases hin : s.connection = .loggedOut
    · exact .inl hin
    · refine .inr (Option.eq_none_iff_forall_ne_some.2 fun c hlinked => ?_)
      have ht : Address.parseTarget "1@s" = .ok (.ofAccount "1" "s") := rfl
      exact not_failsToSend hin hlinked ht (hfails ⟨channelName, "1@s", ""⟩)
  · intro hdown message
    by_cases hin : s.connection = .loggedOut
    · exact failsToSend_of_loggedOut hin message
    · exact failsToSend_of_unlinked hin (hdown.resolve_left hin) message

/-! ## What a channel shows that was started -/

theorem not_running_iff (hrunning : s.bus.running = true)
    (hrun : follow (step setup) s moves = some s') :
    s'.bus.running = false ↔
      ((observe (step setup) milestones s moves).filterMap Milestone.running?).getLast? =
        some false := by
  rw [running_of_run hrun, hrunning]
  simp [Option.getD_eq_iff]

theorem not_connected_iff (hrun : follow (step setup) s moves = some s') :
    s'.connection ≠ .connected ↔
      shows (s.connection = .loggedOut) (observe (step setup) marks s moves) = true ∨
        (observe (step setup) statuses s moves).getLast?.getD s.connection ≠ .connected := by
  rw [← revoked_iff_last hrun]
  by_cases hout : s'.connection = .loggedOut
  · simp [hout]
  · simp [hout, ← status_of_run hrun hout]

/-- Since `s`, something has brought down all that the channel shows: the flag was taken back, a
revocation or another status than connected was set last, and there is no client to send with. That
a token has fired, or that a dispatcher is over, counts for none of these. -/
structure BroughtDown (setup : Setup) (s : State) (moves : List Move) (s' : State) : Prop where
  flag : ((observe (step setup) milestones s moves).filterMap Milestone.running?).getLast? =
    some false
  status : shows (s.connection = .loggedOut) (observe (step setup) marks s moves) = true ∨
    (observe (step setup) statuses s moves).getLast?.getD s.connection ≠ .connected
  client : s'.connection = .loggedOut ∨ s'.linkedClient? = none

/-- A native channel that was started looks down exactly if it was brought down since. -/
theorem looksDown_iff {i token c : Nat}
    (hi : s₀.operations[i]? = some (.start token (.holdToken c)))
    (hstart : step setup s₀ (.resume i .ready) = some s) (hrun : exec setup s moves = some s') :
    LooksDown setup s' ↔ BroughtDown setup s moves s' := by
  have hrunning : s.bus.running = true := by
    simp only [step, State.resume, hi, State.resumeStart, Option.some.injEq] at hstart
    rw [← hstart]
    rfl
  rw [exec_eq_follow] at hrun
  have hflag := not_running_iff hrunning hrun
  have hstatus := not_connected_iff hrun
  have hsends : (∀ message, FailsToSend setup s' message) ↔
      s'.connection = .loggedOut ∨ s'.linkedClient? = none := sends_fail_iff
  constructor
  · intro h
    exact ⟨hflag.1 h.running, hstatus.1 h.connection, hsends.1 h.sends⟩
  · intro h
    exact ⟨hflag.2 h.flag, hstatus.2 h.status, hsends.2 h.client⟩

end Native

/-- A bridge that was used in any way looks down once its latest loop is over. A native channel that
was started looks down exactly if it was brought down since. -/
theorem ended_channel_health {bridge : Bridge.Setup} {native : Native.Setup} {bus : Bus}
    (hidle : bus.running = false) :
    (∀ (moves : List Bridge.Move) (s' : Bridge.State) (l : Bridge.ReadLoop),
      Bridge.exec bridge (.initial bus) moves = some s' → s'.loops.getLast? = some l →
      l.point = .ended → Bridge.LooksDown bridge s') ∧
    ∀ (s₀ s s' : Native.State) (i token c : Nat) (moves : List Native.Move),
      s₀.operations[i]? = some (.start token (.holdToken c)) →
      Native.step native s₀ (.resume i .ready) = some s → Native.exec native s moves = some s' →
      (Native.LooksDown native s' ↔ Native.BroughtDown native s moves s') := by
  constructor
  · intro moves s' l hrun hlast hend
    exact Bridge.looksDown_of_latest hidle hrun hlast hend
  · intro s₀ s s' i token c moves hi hstart hrun
    exact Native.looksDown_iff hi hstart hrun

/-- A bridge is started, and its token fires. -/
def Bridge.startedAndCancelled : List Bridge.Move :=
  [.call (.start 0), .resume 0 .ready, .resume 0 .ready, .resume 0 .ready, .cancel 0, .halt 0,
    .proceed 0 .ready, .proceed 0 .ready]

/-- A paired client is started, as far as its start still has to set the flag. -/
def Native.almostStarted : List Native.Move :=
  [.call (.start 0), .resume 0 .ready, .resume 0 .ready, .resume 0 .ready,
    .resume 0 (.opened (some (.ofAccount "me" "s"))), .setLinked 0 true, .resume 0 .ready,
    .resume 0 .ready]

/-- The token of a native channel fires. -/
def Native.cancelled : List Native.Move :=
  [.cancel 0, .halt 0]

/-- The token of a native channel fires, and then the channel is stopped. -/
def Native.cancelledAndStopped : List Native.Move :=
  cancelled ++
    [.call .stop, .resume 1 .ready, .resume 1 .ready, .resume 1 .ready, .resume 1 .ready]

theorem cancelled_and_down :
    (∃ s', Bridge.exec ⟨"ws://bridge", .usual⟩ (.initial (.new channelName []))
        Bridge.startedAndCancelled = some s' ∧ Bridge.LooksDown ⟨"ws://bridge", .usual⟩ s') ∧
      ∃ s₀ s s', Native.exec Native.plainSetup (.initial (.new channelName []) .empty)
          Native.almostStarted = some s₀ ∧
        Native.step Native.plainSetup s₀ (.resume 0 .ready) = some s ∧
        Native.exec Native.plainSetup s Native.cancelledAndStopped = some s' ∧
        Native.LooksDown Native.plainSetup s' := by
  let bus : Bus := .new channelName []
  have hidle : bus.running = false := rfl
  obtain ⟨bridge_health, native_health⟩ :=
    @ended_channel_health ⟨"ws://bridge", .usual⟩ Native.plainSetup bus hidle
  constructor
  · have hrun : Bridge.exec ⟨"ws://bridge", .usual⟩ (.initial bus) Bridge.startedAndCancelled =
        some _ := rfl
    exact ⟨_, hrun, bridge_health _ _ ⟨0, false, .ended⟩ hrun rfl rfl⟩
  · obtain ⟨s₀, s, s', hprior, hi, hstart, hrun, hdown⟩ : ∃ s₀ s s',
        Native.exec Native.plainSetup (.initial bus .empty) Native.almostStarted = some s₀ ∧
        s₀.operations[0]? = some (.start 0 (.holdToken 0)) ∧
        Native.step Native.plainSetup s₀ (.resume 0 .ready) = some s ∧
        Native.exec Native.plainSetup s Native.cancelledAndStopped = some s' ∧
        Native.BroughtDown Native.plainSetup s Native.cancelledAndStopped s' :=
      ⟨_, _, _, rfl, rfl, rfl, rfl, by decide +kernel, .inr (by decide +kernel), .inr rfl⟩
    exact ⟨s₀, s, s', hprior, hstart, hrun, (native_health _ _ _ 0 0 0 _ hi hstart hrun).2 hdown⟩

/-- A native channel whose token has fired, and whose dispatcher is over, can look healthy: it shows
that it is running and connected, and it sends. -/
theorem Native.cancelled_and_healthy : ∃ s₀ s s', exec plainSetup
      (.initial (.new channelName []) .empty) almostStarted = some s₀ ∧
    step plainSetup s₀ (.resume 0 .ready) = some s ∧
    exec plainSetup s cancelled = some s' ∧ s'.fired = [0] ∧
    s'.clients.map Client.stage = [.ended] ∧ s'.bus.running = true ∧
    s'.connection = .connected ∧ ¬FailsToSend plainSetup s' ⟨channelName, "1@s", "hello"⟩ := by
  refine ⟨_, _, _, rfl, rfl, rfl, rfl, rfl, rfl, rfl, ?_⟩
  have ht : Address.parseTarget "1@s" = .ok (.ofAccount "1" "s") := rfl
  exact not_failsToSend (c := 0) (by decide) rfl ht

end ChatChannel
