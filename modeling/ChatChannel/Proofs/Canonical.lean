import ChatChannel.Proofs.Bridge.Delivery
import ChatChannel.Proofs.Native.Delivery
import ChatChannel.Proofs.Native.Lines

/-!
# ChatChannel.Proofs.Canonical

The shape of messages on the bus. Reported messages and frames of a bridge become messages of one
form, `Canonical`, whatever the transport and its peer do; a message of the native transport also
says who sent it and which one it is (`Native.Identified`).

* `message?_eq`, `takeIn_fst_eq`: what either transport makes of its input, in one equation.
* `delivered_is_canonical`: every message that reaches the bus in a run has the form.
* `Frame.ofMessage_agrees`: a message of the native transport that is told to a bridge comes back as
  it was, up to the facts that frames do not have.
-/

namespace ChatChannel

/-- A message as it reaches the bus of a channel with this allow-list. -/
structure Canonical (allow : List String) (m : InboundMessage) : Prop where
  nonempty : m.content ≠ "" ∨ m.media ≠ []
  channel : m.channel = "whatsapp"
  sender : m.sender ≠ ""
  chat : m.chat ≠ ""
  session : m.session = "whatsapp:" ++ m.chat
  admitted : Gate.admits allow m.sender = true

namespace Frame

/-- The facts that a frame tells. -/
def facts (f : Frame) : Metadata :=
  f.id.toList.map (fun id => (Metadata.messageId, id)) ++
    f.senderName.toList.map fun name => (Metadata.userName, name)

/-- The message of a frame, as far as there is one. -/
def gathered (f : Frame) : InboundMessage :=
  { InboundMessage.new channelName f.sender ((f.chat.filter (· ≠ "")).getD f.sender) with
    content := f.content
    media := f.media
    metadata := f.facts }

theorem message?_eq (f : Frame) :
    f.message? = if f.sender = "" ∨ f.gathered.isEmpty then none else some f.gathered := by
  have hfacts : setKnown (setKnown { f.gathered with metadata := [] } Metadata.messageId f.id)
      Metadata.userName f.senderName = f.gathered := by
    rw [gathered, facts]
    cases f.id <;> cases f.senderName <;> rfl
  by_cases hsender : f.sender = ""
  · simp [message?, hsender]
  · calc f.message? = if f.gathered.isEmpty then none
          else some (setKnown (setKnown { f.gathered with metadata := [] } Metadata.messageId f.id)
            Metadata.userName f.senderName) := if_neg hsender
      _ = _ := by simp only [hfacts, hsender, false_or]

theorem canonical_of_message? {allow : List String} {f : Frame} {m : InboundMessage}
    (h : f.message? = some m) (hadmits : Gate.admits allow m.sender = true) :
    Canonical allow m := by
  rw [message?_eq] at h
  split at h
  · cases h
  · rename_i hkept
    cases h
    obtain ⟨hsender, hnonempty⟩ := not_or.1 hkept
    refine ⟨?_, rfl, hsender, ?_, rfl, hadmits⟩
    · simpa [InboundMessage.isEmpty, imp_iff_not_or] using hnonempty
    · show (f.chat.filter (· ≠ "")).getD f.sender ≠ ""
      cases hchat : f.chat.filter (· ≠ "") with
      | none => exact hsender
      | some chat => simpa using (Option.filter_eq_some_iff.1 hchat).2

end Frame

namespace Native

/-- A message that says which one it is and who sent it. -/
structure Identified (m : InboundMessage) : Prop where
  id : (m.metadata.get? "message_id").isSome
  sender : m.metadata.get? "sender_jid" = some m.sender
  name : ∀ name, m.metadata.get? "user_name" = some name → name ≠ ""

/-- The facts about a reported message. -/
def Envelope.facts (info : Envelope) : Metadata :=
  [(Metadata.messageId, info.id), (Metadata.senderAddress, info.sender.text)] ++
    (if info.pushName = "" then [] else [(Metadata.userName, info.pushName)]) ++
    if info.fromGroup then [(Metadata.isGroup, "true")] else []

theorem addFacts_eq {message : InboundMessage} (h : message.metadata = []) (info : Envelope) :
    Intake.addFacts info message = { message with metadata := info.facts } := by
  unfold Intake.addFacts Envelope.facts
  split <;> split <;> simp only [InboundMessage.setMeta, h] <;> rfl

/-- The message for the bus that is made of a reported one. -/
theorem takeIn_fst_eq (n : Intake) (attempts : AttachmentKind → Attempt) (fs : FileSystem)
    (m : Message) :
    (n.takeIn attempts fs m).1 =
      if (n.gathered attempts fs m).isEmpty then none
      else some { n.gathered attempts fs m with metadata := m.info.facts } := by
  rw [takeIn_fst, addFacts_eq rfl]

section

variable (info : Envelope)

theorem get?_facts_messageId : info.facts.get? Metadata.messageId = some info.id := rfl

theorem get?_facts_senderAddress :
    info.facts.get? Metadata.senderAddress = some info.sender.text := rfl

theorem get?_facts_userName :
    info.facts.get? Metadata.userName =
      if info.pushName = "" then none else some info.pushName := by
  unfold Envelope.facts
  split <;> split <;> rfl

end

theorem text_ne_empty (a : Address) : a.text ≠ "" := by
  intro h
  have hlist := congrArg String.toList h
  simp [Address.text] at hlist

section

variable {n : Intake} {attempts : AttachmentKind → Attempt} {fs : FileSystem} {m : Message}
  {message : InboundMessage}

theorem gathered_of_takeIn (h : (n.takeIn attempts fs m).1 = some message) :
    (n.gathered attempts fs m).isEmpty = false ∧
      message = { n.gathered attempts fs m with metadata := m.info.facts } := by
  rw [takeIn_fst_eq] at h
  split at h
  · cases h
  · rename_i hkept
    exact ⟨Bool.eq_false_iff.2 hkept, (Option.some.inj h).symm⟩

theorem canonical_of_takeIn {allow : List String}
    (h : (n.takeIn attempts fs m).1 = some message)
    (hadmits : Gate.admits allow message.sender = true) :
    Canonical allow message ∧ Identified message := by
  obtain ⟨hnonempty, rfl⟩ := gathered_of_takeIn h
  refine ⟨⟨?_, rfl, text_ne_empty _, text_ne_empty _, rfl, hadmits⟩, ⟨?_, ?_, ?_⟩⟩
  · simpa [InboundMessage.isEmpty, imp_iff_not_or] using hnonempty
  · exact Option.isSome_of_eq_some (get?_facts_messageId m.info)
  · exact get?_facts_senderAddress m.info
  · intro name hname
    have hname := (get?_facts_userName m.info).symm.trans hname
    split at hname
    · cases hname
    · rename_i hne
      cases hname
      exact hne

end

end Native

/-! ## Messages told again -/

/-- The facts that are not under these keys. -/
def Metadata.without (keys : List String) (m : Metadata) : Metadata :=
  m.filter fun e => e.1 ∉ keys

/-- The frame in which a bridge tells a message. -/
def Frame.ofMessage (m : InboundMessage) : Frame where
  sender := m.sender
  chat := some m.chat
  content := m.content
  media := m.media
  id := m.messageId?
  senderName := m.metadata.get? Metadata.userName

/-- A message of the native transport that a bridge tells is read as the same message, but for the
facts that frames do not tell. -/
theorem Frame.ofMessage_agrees {n : Native.Intake}
    {attempts : Native.AttachmentKind → Native.Attempt} {fs : FileSystem} {m : Native.Message}
    {message : InboundMessage} (h : (n.takeIn attempts fs m).1 = some message) :
    (Frame.ofMessage message).message? =
      some { message with
        metadata := message.metadata.without [Metadata.senderAddress, Metadata.isGroup] } := by
  obtain ⟨hnonempty, rfl⟩ := Native.gathered_of_takeIn h
  have hsender : m.info.sender.text ≠ "" := Native.text_ne_empty _
  have hchat : m.info.chat.text ≠ "" := Native.text_ne_empty _
  set message : InboundMessage := { n.gathered attempts fs m with metadata := m.info.facts }
  have hfacts : (Frame.ofMessage message).facts =
      message.metadata.without [Metadata.senderAddress, Metadata.isGroup] := by
    have hid : (Frame.ofMessage message).id = some m.info.id :=
      Native.get?_facts_messageId m.info
    have hname : (Frame.ofMessage message).senderName = _ := Native.get?_facts_userName m.info
    rw [Frame.facts, hid, hname]
    show _ = m.info.facts.without _
    unfold Native.Envelope.facts
    split <;> split <;> rfl
  have hgathered : (Frame.ofMessage message).gathered =
      { message with metadata := (Frame.ofMessage message).facts } := by
    have hnamed : (Frame.ofMessage message).chat.filter (· ≠ "") = some message.chat :=
      Option.filter_eq_some_iff.2 ⟨rfl, decide_eq_true hchat⟩
    rw [Frame.gathered, hnamed]
    rfl
  rw [Frame.message?_eq, if_neg, hgathered, hfacts]
  rintro (h | h)
  · exact hsender h
  · rw [hgathered] at h
    exact Bool.false_ne_true (hnonempty.symm.trans h)

/-- A message with all parts, to a group. -/
def groupParts : Native.Message :=
  { Native.allParts with
    info := ⟨"id", .ofAccount "g" Address.groupServer, .ofAccount "a" "s", false, true, "Ann"⟩ }

theorem groupParts_agrees : ∃ message retold : InboundMessage,
    (Native.listeningIntake.takeIn Native.expiredImage .empty groupParts).1 = some message ∧
      (Frame.ofMessage message).message? = some retold ∧ retold.media = message.media ∧
      message.metadata = [("message_id", "id"), ("sender_jid", "a@s"), ("user_name", "Ann"),
        ("is_group", "true")] ∧
      retold.metadata = [("message_id", "id"), ("user_name", "Ann")] := by
  have hsome : (Native.listeningIntake.takeIn Native.expiredImage .empty groupParts).1.isSome =
      true := by decide +kernel
  obtain ⟨message, hmessage⟩ := Option.isSome_iff_exists.1 hsome
  obtain ⟨-, hfacts⟩ := Native.gathered_of_takeIn hmessage
  have hmetadata : message.metadata = groupParts.info.facts := congrArg (·.metadata) hfacts
  refine ⟨message, _, hmessage, Frame.ofMessage_agrees hmessage, rfl, ?_, ?_⟩
  · exact hmetadata.trans (by decide +kernel)
  · exact (congrArg (Metadata.without [Metadata.senderAddress, Metadata.isGroup]) hmetadata).trans
      (by decide +kernel)

/-! ## Runs -/

theorem Bridge.accepted_of_delivered {setup : Bridge.Setup} {bus : Bus} {moves : List Bridge.Move}
    {s' : Bridge.State} (hbus : bus.delivered = [])
    (hrun : Bridge.exec setup (.initial bus) moves = some s') {d : Delivery}
    (hd : d ∈ s'.bus.delivered) :
    ∃ incoming : Bridge.Incoming, incoming.accepted? bus.allow = some d.message := by
  rw [Bridge.delivered_of_run hrun, show (Bridge.State.initial bus).bus.delivered = [] from hbus,
    List.nil_append] at hd
  obtain ⟨m, -, hm⟩ := List.mem_filterMap.1 hd
  obtain ⟨message, haccepted, rfl⟩ := Option.map_eq_some_iff.1 hm
  obtain ⟨incoming, -, haccepted⟩ := Option.bind_eq_some_iff.1 haccepted
  exact ⟨incoming, haccepted⟩

theorem Native.accepted_of_delivered {setup : Native.Setup} {bus : Bus} {fs : FileSystem}
    {moves : List Native.Move} {s' : Native.State} (hbus : bus.delivered = [])
    (hrun : Native.exec setup (.initial bus fs) moves = some s') {d : Delivery}
    (hd : d ∈ s'.bus.delivered) :
    ∃ w : Native.Work, w.accepted? setup bus.allow = some d.message := by
  rw [Native.exec_eq_follow] at hrun
  obtain ⟨hdelivered, -⟩ := Native.handed_of_run hrun 0
  rw [hdelivered, show (Native.State.initial bus fs).bus.delivered = [] from hbus,
    List.nil_append] at hd
  obtain ⟨⟨c, d⟩, hhanded, rfl⟩ := List.mem_map.1 hd
  have hmem : d.message ∈ (observe (Native.step setup) (Native.handed setup)
      (Native.State.initial bus fs) moves).filterMap (Native.messageFrom? c) :=
    List.mem_filterMap.2 ⟨(c, d), hhanded, if_pos rfl⟩
  rw [(Native.handed_of_run hrun c).2] at hmem
  obtain ⟨w, -, haccepted⟩ := List.mem_filterMap.1 hmem
  exact ⟨w, haccepted⟩

/-- Every message that reaches the bus has the same form, whatever the transport, its settings and
its peer; those of the native transport say in addition which message it is and who sent it. -/
theorem delivered_is_canonical (name : String) (allow : List String) :
    (∀ setup moves s', Bridge.exec setup (.initial (.new name allow)) moves = some s' →
      ∀ d ∈ s'.bus.delivered, Canonical allow d.message) ∧
    ∀ setup fs moves s', Native.exec setup (.initial (.new name allow) fs) moves = some s' →
      ∀ d ∈ s'.bus.delivered, Canonical allow d.message ∧ Native.Identified d.message := by
  constructor
  · intro setup moves s' hrun d hd
    obtain ⟨incoming, haccepted⟩ := Bridge.accepted_of_delivered rfl hrun hd
    obtain ⟨text, v, sender, -, -, -, -, hmessage, hadmits⟩ :=
      Bridge.accepted?_eq_some_iff.1 haccepted
    exact Frame.canonical_of_message? hmessage hadmits
  · intro setup fs moves s' hrun d hd
    obtain ⟨w, haccepted⟩ := Native.accepted_of_delivered rfl hrun hd
    obtain ⟨htaken, hadmits⟩ := Option.filter_eq_some_iff.1 haccepted
    exact Native.canonical_of_takeIn htaken hadmits

/-- A start, and a frame that names no chat. -/
def frameRead : List Bridge.Move :=
  [.call (.start 0), .resume 0 .ready, .resume 0 .ready, .resume 0 .ready,
    .receive 0 (.text "\x7b\"type\":\"message\",\"from\":\"a\",\"content\":\"hi\"\x7d")]

theorem deliveries_are_canonical : ∃ s t,
    Bridge.exec ⟨"ws://bridge", .usual⟩ (.initial (.new channelName ["a"])) frameRead = some s ∧
      Native.exec Native.plainSetup (.initial (.new channelName ["a"]) .empty)
        Native.mixedEvents = some t ∧
      s.bus.delivered.map (·.message.content) = ["hi"] ∧
      t.bus.delivered.map (·.message.content) = ["one", "two"] ∧
      (∀ d ∈ s.bus.delivered, Canonical ["a"] d.message) ∧
      ∀ d ∈ t.bus.delivered, Canonical ["a"] d.message ∧ Native.Identified d.message := by
  obtain ⟨hbridge, hnative⟩ := delivered_is_canonical channelName ["a"]
  have hs : (Bridge.exec ⟨"ws://bridge", .usual⟩ (.initial (.new channelName ["a"]))
      frameRead).map (fun s => s.bus.delivered.map (·.message.content)) = some ["hi"] := by
    decide +kernel
  have ht : (Native.exec Native.plainSetup (.initial (.new channelName ["a"]) .empty)
      Native.mixedEvents).map (fun t => t.bus.delivered.map (·.message.content)) =
        some ["one", "two"] := by
    decide +kernel
  obtain ⟨s, hrun, hs⟩ := Option.map_eq_some_iff.1 hs
  obtain ⟨t, hrun', ht⟩ := Option.map_eq_some_iff.1 ht
  exact ⟨s, t, hrun, hrun', hs, ht, hbridge _ _ s hrun, hnative _ _ _ t hrun'⟩

end ChatChannel
