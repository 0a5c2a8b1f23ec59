import ChatChannel.Proofs.Bridge.Calm
import ChatChannel.Proofs.Frame
import ChatChannel.Proofs.Text.Utf8

/-!
# ChatChannel.Proofs.Bridge.Delivery

What a bridge delivers. Whatever the transport is doing, the messages that reach the bus are those
of the frames that its loops read, in order (`delivered_of_run`). A read loop that nobody tells to
end goes on (`Calm`): through frames of all kinds, lost sockets and failed dials it stays alive, and
it can always come to read again (`Calm.reads_again`).

* `calm_run_delivers`: both together, with what it takes for a frame to be delivered.
-/

namespace ChatChannel.Bridge

/-- The text that is read from a socket. Bytes are text if they are well-formed UTF-8. -/
def Incoming.text? : Incoming → Option String
  | .text t => some t
  | .binary bytes => Text.decode? bytes
  | .control => none
  | .lost => none

/-- The message of a frame, if the allow-list admits its sender. -/
def Incoming.accepted? (allow : List String) (incoming : Incoming) : Option InboundMessage :=
  (State.messageOf? incoming).filter fun m => Gate.admits allow m.sender

/-- What a move reads from a socket. -/
def Move.incoming? : Move → Option Incoming
  | .receive _ incoming => some incoming
  | _ => none

/-- What a move hands to the bus. -/
def Move.delivery? (allow : List String) (m : Move) : Option Delivery :=
  (m.incoming?.bind (Incoming.accepted? allow)).map fun message => ⟨message, []⟩

theorem messageOf?_eq_bind (incoming : Incoming) :
    State.messageOf? incoming = incoming.text?.bind Frame.ofText? := by
  cases incoming <;> rfl

/-- What it takes for a frame to be delivered. -/
theorem accepted?_eq_some_iff {allow : List String} {incoming : Incoming} {m : InboundMessage} :
    incoming.accepted? allow = some m ↔
      ∃ text v sender, incoming.text? = some text ∧ Json.parse text = some v ∧
        v.get? "type" = some (.str Frame.messageType) ∧ v.get? "from" = some (.str sender) ∧
        (Frame.ofObject v sender).message? = some m ∧ Gate.admits allow m.sender = true := by
  simp only [Incoming.accepted?, Option.filter_eq_some_iff, messageOf?_eq_bind,
    Option.bind_eq_some_iff, Frame.ofText?_eq_some_iff]
  constructor
  · rintro ⟨⟨text, ht, v, sender, hv, htype, hfrom, hm⟩, hadmits⟩
    exact ⟨text, v, sender, ht, hv, htype, hfrom, hm, hadmits⟩
  · rintro ⟨text, v, sender, ht, hv, htype, hfrom, hm, hadmits⟩
    exact ⟨⟨text, ht, v, sender, hv, htype, hfrom, hm⟩, hadmits⟩

section Reading

variable {s : State} {loop socket : Nat}

theorem read_lost : s.read loop socket .lost = s.loopAt loop .dropping := by
  simp [State.read]

/-- A frame that is not delivered changes nothing. -/
theorem read_skipped {incoming : Incoming} (hlost : incoming ≠ .lost)
    (h : incoming.accepted? s.bus.allow = none) : s.read loop socket incoming = s := by
  rw [State.read, if_neg hlost]
  split
  · rfl
  · rename_i m hm
    have hadmits : s.bus.admits m.sender = false := by
      simpa [Incoming.accepted?, hm, Option.filter, Bus.admits] using h
    simp [hadmits]

theorem read_accepted {incoming : Incoming} {m : InboundMessage}
    (h : incoming.accepted? s.bus.allow = some m) :
    s.read loop socket incoming =
      { s with bus := { s.bus with delivered := s.bus.delivered ++ [(⟨m, []⟩ : Delivery)] } }.loopAt
        loop (.delivering socket) := by
  obtain ⟨hm, hadmits⟩ := Option.filter_eq_some_iff.1 h
  have hlost : incoming ≠ .lost := by
    rintro rfl
    cases hm
  have hadmits : s.bus.admits m.sender = true := hadmits
  rw [State.read, if_neg hlost]
  simp only [hm, hadmits, if_true, Bus.handle]

end Reading

/-- Bytes that are the UTF-8 of a text are read as the text. -/
theorem read_binary {s : State} {loop socket : Nat} (text : String) :
    s.read loop socket (.binary text.toUTF8) = s.read loop socket (.text text) := by
  have hbytes : State.messageOf? (.binary text.toUTF8) = State.messageOf? (.text text) := by
    have htext : (Incoming.binary text.toUTF8).text? = some text := Text.decode?_toUTF8 text
    rw [messageOf?_eq_bind, messageOf?_eq_bind, htext]
    rfl
  simp only [State.read, hbytes, reduceCtorEq, if_false]

theorem step_receive {setup : Setup} {s : State} {loop : Nat} {incoming : Incoming} :
    step setup s (.receive loop incoming) =
      (s.loops[loop]?.bind fun l =>
        match l.point with
        | .reading socket => some (s.read loop socket incoming)
        | _ => none) := by
  simp only [step]
  cases s.loops[loop]? <;> rfl

/-! ## All runs -/

section Bus

variable {setup : Setup} {s s' : State} {m : Move}

theorem bus_of_step (h : Step setup s m s') :
    s'.bus.allow = s.bus.allow ∧
      s'.bus.delivered = s.bus.delivered ++ (m.delivery? s.bus.allow).toList := by
  have same : ∀ {t : State}, t.bus.allow = s.bus.allow → t.bus.delivered = s.bus.delivered →
      m.incoming? = none → t.bus.allow = s.bus.allow ∧
        t.bus.delivered = s.bus.delivered ++ (m.delivery? s.bus.allow).toList := by
    intro t hallow hdelivered hm
    simp [Move.delivery?, hm, hallow, hdelivered]
  cases h with
  | call c => cases c <;> exact same rfl rfl rfl
  | start _ h => cases h <;> exact same rfl rfl rfl
  | stop _ h => cases h <;> exact same rfl rfl rfl
  | send _ h => cases h <;> exact same rfl rfl rfl
  | cancel token => exact same rfl rfl rfl
  | elapse _ => exact same rfl rfl rfl
  | halt _ _ => exact same rfl rfl rfl
  | proceed _ _ h => cases h <;> exact same rfl rfl rfl
  | @receive loop socket l incoming hl hp =>
    cases haccept : incoming.accepted? s.bus.allow with
    | some message =>
      rw [read_accepted haccept]
      exact ⟨rfl, by simp [Move.delivery?, Move.incoming?, haccept, State.loopAt, State.onLoop]⟩
    | none =>
      by_cases hlost : incoming = .lost
      · subst hlost
        rw [read_lost]
        exact ⟨rfl, by simp [Move.delivery?, Move.incoming?, haccept, State.loopAt, State.onLoop]⟩
      · rw [read_skipped hlost haccept]
        exact ⟨rfl, by simp [Move.delivery?, Move.incoming?, haccept]⟩

/-- The messages that reach the bus in a run are those of the frames that are read, in order. -/
theorem delivered_of_run {moves : List Move} (hrun : exec setup s moves = some s') :
    s'.bus.delivered = s.bus.delivered ++ moves.filterMap (Move.delivery? s.bus.allow) := by
  rw [exec_eq_follow] at hrun
  have hkeep : ∀ {t m t'}, t.bus.allow = s.bus.allow → step setup t m = some t' →
      t'.bus.allow = s.bus.allow :=
    fun hallow hstep => (bus_of_step (step_inv hstep)).1.trans hallow
  have hnote : ∀ {t m t'}, t.bus.allow = s.bus.allow → step setup t m = some t' →
      t'.bus.delivered = t.bus.delivered ++ (m.delivery? s.bus.allow).toList := by
    intro t m t' hallow hstep
    rw [← hallow]
    exact (bus_of_step (step_inv hstep)).2
  rw [follow_gathers hkeep (fun t => t.bus.delivered) _ hnote rfl hrun, observe_moves _ hrun]

end Bus

/-! ## Loops that nobody tells to end -/

/-- A transport whose first start is over: its loop reads from its first socket. -/
def listening (bus : Bus) (token : Nat) : State :=
  { State.initial (bus.setRunning true) with
    connection := .connected
    writer := some 0
    slot := some 0
    loops := [⟨token, false, .reading 0⟩]
    sockets := 1
    operations := [.finished (.ok ())]
    log := [.dial 0] }

theorem exec_start (setup : Setup) (bus : Bus) (token : Nat) :
    exec setup (State.initial bus)
        [.call (.start token), .resume 0 .ready, .resume 0 .ready, .resume 0 .ready] =
      some (listening bus token) := rfl

theorem calm_listening (bus : Bus) (token : Nat) : Calm 0 token (listening bus token) where
  live := ⟨⟨token, false, .reading 0⟩, rfl, rfl, rfl, rfl⟩
  unfired := List.not_mem_nil
  others := by
    intro j l hj hl
    obtain ⟨j, rfl⟩ := Nat.exists_eq_succ_of_ne_zero hj
    simp [listening] at hl
  operations := by
    intro o ho
    obtain rfl := List.mem_singleton.1 ho
    rfl

/-- A loop that nobody tells to end delivers the messages of the frames that it reads, in order, and
is there for the next frame. Frames that are not delivered change nothing. -/
theorem calm_run_delivers {setup : Setup} {s s' : State} {k token : Nat} {moves : List Move}
    (h : Calm k token s) (hm : ∀ m ∈ moves, m.spares token = true)
    (hrun : exec setup s moves = some s') :
    s'.bus.delivered = s.bus.delivered ++ moves.filterMap (Move.delivery? s.bus.allow) ∧
      (Calm k token s' ∧ s'.bus.running = s.bus.running ∧ s'.ReadsAgain setup k) ∧
      (∀ (incoming : Incoming) (m : InboundMessage), incoming.accepted? s.bus.allow = some m ↔
        ∃ text v sender, incoming.text? = some text ∧ Json.parse text = some v ∧
          v.get? "type" = some (.str Frame.messageType) ∧ v.get? "from" = some (.str sender) ∧
          (Frame.ofObject v sender).message? = some m ∧
          Gate.admits s.bus.allow m.sender = true) ∧
      (∀ incoming : Incoming, incoming ≠ .lost → incoming.accepted? s.bus.allow = none →
        ∀ t j socket, t.bus.allow = s.bus.allow → t.isAt j (.reading socket) →
          step setup t (.receive j incoming) = some t) ∧
      ∀ text t j, step setup t (.receive j (.binary text.toUTF8)) =
        step setup t (.receive j (.text text)) := by
  obtain ⟨hcalm, hrunning⟩ := calm_of_run h hm hrun
  refine ⟨delivered_of_run hrun, ⟨hcalm, hrunning, hcalm.reads_again⟩,
    fun _ _ => accepted?_eq_some_iff, ?_, ?_⟩
  · rintro incoming hlost hskip t j socket hallow ⟨l, hl, hp⟩
    rw [step_receive, hl, Option.bind_some, hp]
    exact congrArg some (read_skipped hlost (by rw [hallow, hskip]))
  · intro text t j
    simp only [step_receive, read_binary]

/-- Reads of all kinds, with a lost socket and a failed dial between them. -/
def mixedReads : List Move :=
  [.receive 0 (.text "\x7b\"type\":\"message\",\"from\":\"A\",\"content\":\"one\"\x7d"),
    .proceed 0 .ready,
    .receive 0 (.text "\x7b\"type\":\"status\",\"from\":\"A\",\"content\":\"no\"\x7d"),
    .receive 0 .control, .receive 0 (.binary ⟨#[0xff]⟩),
    .receive 0 (.text "\x7b\"type\":\"message\",\"from\":\"B\",\"content\":\"no\"\x7d"),
    .receive 0 .lost, .proceed 0 .ready, .proceed 0 .ready, .elapse 2000, .proceed 0 .ready,
    .proceed 0 (.failed "refused"), .elapse 1000, .proceed 0 .ready, .proceed 0 .ready,
    .proceed 0 .ready,
    .receive 0 (.binary "\x7b\"type\":\"message\",\"from\":\"A\",\"content\":\"two\"\x7d".toUTF8)]

theorem mixedReads_delivers : ∃ s',
    exec ⟨"ws://bridge", .usual⟩ (listening (.new channelName ["A"]) 7) mixedReads = some s' ∧
      s'.bus.delivered.map (·.message.content) = ["one", "two"] ∧ Calm 0 7 s' := by
  have hcalm : Calm 0 7 (listening (.new channelName ["A"]) 7) := calm_listening _ 7
  have hmoves : ∀ m ∈ mixedReads, m.spares 7 = true := by decide
  have hsome : (exec ⟨"ws://bridge", .usual⟩ (listening (.new channelName ["A"]) 7)
      mixedReads).isSome = true := by decide +kernel
  obtain ⟨s', hrun⟩ := Option.isSome_iff_exists.1 hsome
  obtain ⟨hdelivered, ⟨hcalm', -⟩, -⟩ := calm_run_delivers hcalm hmoves hrun
  refine ⟨s', hrun, ?_, hcalm'⟩
  rw [hdelivered]
  decide +kernel

end ChatChannel.Bridge
