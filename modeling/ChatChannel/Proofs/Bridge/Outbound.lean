import ChatChannel.Proofs.Bridge.Delivery
import ChatChannel.Proofs.Json.RoundTrip

/-!
# ChatChannel.Proofs.Bridge.Outbound

What a bridge transport writes. Its sockets get one frame for each message that is sent while a
socket is published, and nothing else (`written_of_run`). Chat and content stand in the frame as
strings; whatever they contain, the frame is read as an object of three members with these two
strings among them (`Frame.parse_outbound`).

* `sends_read_back`: so a bridge learns exactly what was sent, and a bridge that sends the frame
  back gets nothing delivered, as no content can make it name a sender.
-/

namespace ChatChannel

namespace Frame

/-- The value of an outbound frame, with its members as they are written. -/
def outboundValue (chat content : String) : Json :=
  .obj [("type", .str messageType), ("to", .str chat), ("content", .str content)]

theorem readable_outboundValue (chat content : String) :
    Json.Readable Json.maxDepth (outboundValue chat content) := by
  refine .obj fun m hm => ?_
  simp only [List.mem_cons, List.not_mem_nil, or_false] at hm
  rcases hm with rfl | rfl | rfl <;> exact .str _

theorem canonical_outboundValue (chat content : String) :
    (outboundValue chat content).canonical =
      .obj [("content", .str content), ("to", .str chat), ("type", .str messageType)] := by
  have hto : ¬"to" < "content" := by decide
  have htype : ¬"type" < "content" := by decide
  have htype' : ¬"type" < "to" := by decide
  simp only [outboundValue, Json.canonical, Json.canonicalMembers, Json.insertMember,
    String.reduceEq, if_false, hto, htype, htype']

theorem parse_outbound (chat content : String) :
    Json.parse (outbound chat content) =
      some (.obj [("content", .str content), ("to", .str chat), ("type", .str messageType)]) := by
  rw [← canonical_outboundValue]
  exact Json.parse_text (readable_outboundValue chat content)

/-- An outbound frame names no sender, so it stands for no inbound message. -/
theorem ofText?_outbound (chat content : String) : ofText? (outbound chat content) = none := by
  rw [Option.eq_none_iff_forall_ne_some]
  intro m hm
  obtain ⟨v, sender, hv, -, hfrom, -⟩ := ofText?_eq_some_iff.1 hm
  obtain rfl := Option.some.inj ((parse_outbound chat content).symm.trans hv)
  simp [Json.get?, Json.lookup] at hfrom

end Frame

namespace Bridge

/-- What was written, if this is a write, and to which socket. -/
def Entry.written? : Entry → Option (Nat × String)
  | .write socket text => some (socket, text)
  | .dial _ => none
  | .close _ => none

/-- What a transport has written, in order. -/
def State.written (s : State) : List (Nat × String) :=
  s.log.filterMap Entry.written?

/-- The message that a move sends, with the socket that is published for it. -/
def State.sends (s : State) : Move → List (Nat × OutboundMessage)
  | .resume i .ready =>
    match s.operations[i]?, s.writer with
    | some (.send m .lookup), some socket => [(socket, m)]
    | _, _ => []
  | _ => []

/-- The frame of a message, for its socket. -/
def framed (send : Nat × OutboundMessage) : Nat × String :=
  (send.1, Frame.outbound send.2.chat send.2.content)

section

variable {setup : Setup} {s s' : State} {m : Move}

theorem written_of_step (hs : Step setup s m s') :
    s'.written = s.written ++ (s.sends m).map framed := by
  have quiet : ∀ {entries : List Entry}, s'.log = s.log ++ entries →
      entries.filterMap Entry.written? = [] → s.sends m = [] →
      s'.written = s.written ++ (s.sends m).map framed := by
    intro entries hlog hentries hsends
    simp [State.written, hlog, hentries, hsends]
  have same : s'.log = s.log → s.sends m = [] →
      s'.written = s.written ++ (s.sends m).map framed :=
    fun hlog => quiet (hlog.trans (List.append_nil _).symm) rfl
  cases hs with
  | call c => cases c <;> exact same rfl rfl
  | @start i _ _ answer _ hi h =>
    have hnone : s.sends (.resume i answer) = [] := by cases answer <;> simp [State.sends, hi]
    cases h with
    | dial => exact quiet rfl rfl hnone
    | joined => exact quiet rfl rfl hnone
    | _ => exact same rfl hnone
  | @stop i _ answer _ hi h =>
    have hnone : s.sends (.resume i answer) = [] := by cases answer <;> simp [State.sends, hi]
    cases h with
    | close => exact quiet rfl rfl hnone
    | _ => exact same rfl hnone
  | @send i message _ _ _ hi h =>
    cases h with
    | unconnected hw => exact same rfl (by simp [State.sends, hi, hw])
    | write hw =>
      simp [State.written, State.record, State.setOperation, State.sends, hi, hw, framed,
        Entry.written?]
    | written => exact same rfl (by simp [State.sends, hi])
    | failed => exact same rfl rfl
  | receive =>
    generalize hread : s.read _ _ _ = s₁ at *
    cases read_inv hread <;> exact same rfl rfl
  | proceed _ _ h =>
    cases h with
    | close => exact quiet rfl rfl rfl
    | dial => exact quiet rfl rfl rfl
    | endClose => exact quiet rfl rfl rfl
    | _ => exact same rfl rfl
  | _ => exact same rfl rfl

/-- What is written in a run are the frames of the messages that are sent, in order. -/
theorem written_of_run {moves : List Move} (hrun : exec setup s moves = some s') :
    s'.written = s.written ++ (observe (step setup) State.sends s moves).map framed := by
  rw [exec_eq_follow] at hrun
  rw [← observe_map]
  exact follow_gathers (P := fun _ => True) (fun _ _ => trivial) State.written _
    (fun _ hstep => written_of_step (step_inv hstep)) trivial hrun

theorem receive_outbound {j socket : Nat} {incoming : Incoming} {chat content : String}
    (hj : s.isAt j (.reading socket))
    (htext : incoming.text? = some (Frame.outbound chat content)) :
    step setup s (.receive j incoming) = some s := by
  obtain ⟨l, hl, hp⟩ := hj
  have hlost : incoming ≠ .lost := by
    rintro rfl
    cases htext
  have hskip : incoming.accepted? s.bus.allow = none := by
    rw [Incoming.accepted?, messageOf?_eq_bind, htext, Option.bind_some, Frame.ofText?_outbound]
    rfl
  rw [step_receive, hl, Option.bind_some, hp]
  exact congrArg some (read_skipped hlost hskip)

/-- Whatever was sent in a run, to whatever chat, the sockets got one frame for each message that
found a published socket, and nothing else. A frame is read as an object of exactly three members
with the two strings that were sent, as it stands and sorted by key, and a loop that gets it back
goes on as if it had read nothing, be it as text or as the bytes of the text. -/
theorem sends_read_back {moves : List Move} (hrun : exec setup s moves = some s') :
    s'.written = s.written ++ (observe (step setup) State.sends s moves).map framed ∧
      ∀ chat content,
        Json.read (Frame.outbound chat content) =
            some (.obj [("type", .str Frame.messageType), ("to", .str chat),
              ("content", .str content)]) ∧
          Json.parse (Frame.outbound chat content) =
            some (.obj [("content", .str content), ("to", .str chat),
              ("type", .str Frame.messageType)]) ∧
          ∀ (t : State) (j socket : Nat) (incoming : Incoming), t.isAt j (.reading socket) →
            incoming.text? = some (Frame.outbound chat content) →
            step setup t (.receive j incoming) = some t := by
  refine ⟨written_of_run hrun, fun chat content => ?_⟩
  refine ⟨Json.read_text (Frame.readable_outboundValue chat content),
    Frame.parse_outbound chat content, ?_⟩
  intro t j socket incoming hj htext
  exact receive_outbound hj htext

end

/-- A message whose content tries to go on as members of the frame. -/
def smuggler : OutboundMessage :=
  ⟨channelName, "a\\b@c", "\",\"from\":\"A\x01\\\n"⟩

theorem smuggler_reads_back : ∃ s',
    exec ⟨"ws://bridge", .usual⟩ (listening (.new channelName []) 7)
        [.call (.send smuggler), .resume 1 .ready] = some s' ∧
      s'.written = [(0, "\x7b\"type\":\"message\",\"to\":\"a\\\\b@c\"," ++
        "\"content\":\"\\\",\\\"from\\\":\\\"A\\u0001\\\\\\n\"\x7d")] ∧
      step ⟨"ws://bridge", .usual⟩ s'
        (.receive 0 (.text (Frame.outbound smuggler.chat smuggler.content))) = some s' := by
  have hrun : exec ⟨"ws://bridge", .usual⟩ (listening (.new channelName []) 7)
      [.call (.send smuggler), .resume 1 .ready] = some _ := rfl
  obtain ⟨hwritten, hframes⟩ := sends_read_back hrun
  obtain ⟨-, -, hreflected⟩ := hframes smuggler.chat smuggler.content
  refine ⟨_, hrun, ?_, hreflected _ 0 0 _ ⟨⟨7, false, .reading 0⟩, rfl, rfl⟩ rfl⟩
  rw [hwritten]
  decide +kernel

end Bridge

end ChatChannel
