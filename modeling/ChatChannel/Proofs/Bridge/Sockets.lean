import ChatChannel.Proofs.Bridge.Wiring

/-!
# ChatChannel.Proofs.Bridge.Sockets

What becomes of the sockets that the bridge transport opens. A socket is published by the start or
the loop that has opened it, and it stays published until it is taken back to be closed: there is
never one in its place when another one is published.

* `handover_of_step`: what a step can do to the published socket.
* `Whereabouts`: where an opened socket can be; `accounted_of_step`: there is no other place.
* `handle_shows_connection`: wherever a transport can get, there is a published socket exactly if
  the connection is shown as connected, there is at most one loop, and no socket is lost sight of.
-/

namespace ChatChannel.Bridge

/-- What a step can do to the published socket. -/
inductive Handover (s s' : State) : Prop where
  | kept (hw : s'.writer = s.writer)
  | closed {socket : Nat} (hw : s.writer = some socket) (hw' : s'.writer = none)
      (hlog : s'.log = s.log ++ [.close socket])
  | published {socket : Nat} (hw : s.writer = none) (hw' : s'.writer = some socket)

/-- Where a socket that was opened can be. -/
inductive Whereabouts (s : State) (socket : Nat) : Prop where
  | published (hw : s.writer = some socket)
  | inStart {i token : Nat} (hi : s.operations[i]? = some (.start token (.publishing socket)))
  | inLoop {k : Nat} (hp : s.pointOf? k = some (.publishing socket))
  | closed (hlog : .close socket ∈ s.log)

/-- No socket is lost sight of. -/
def Accounted (s : State) : Prop :=
  ∀ socket < s.sockets, Whereabouts s socket

section

variable {setup : Setup} {s s' : State} {m : Move} {i k socket token : Nat} {p : LoopPoint}
  {o : Operation} {answer : Answer}

/-! ## What stays as it is -/

theorem operations_of_startStep {point : StartPoint}
    (h : StartStep setup s i token point answer s') :
    ∃ o', s'.operations = s.operations.set i o' := by
  cases h <;> exact ⟨_, rfl⟩

theorem operations_of_stopStep {point : StopPoint} (h : StopStep s i point answer s') :
    ∃ o', s'.operations = s.operations.set i o' := by
  cases h <;> exact ⟨_, rfl⟩

theorem operations_of_sendStep {message : OutboundMessage} {point : SendPoint}
    (h : SendStep s i message point answer s') :
    ∃ o', s'.operations = s.operations.set i o' := by
  cases h <;> exact ⟨_, rfl⟩

/-- An operation is where it was unless it goes on itself. -/
theorem operation_of_step (hi : s.operations[i]? = some o) (hm : ∀ answer, m ≠ .resume i answer)
    (hs : Step setup s m s') : s'.operations[i]? = some o := by
  have other : ∀ j answer, m = .resume j answer →
      (∃ o', s'.operations = s.operations.set j o') → s'.operations[i]? = some o := by
    rintro j answer rfl ⟨o', ho'⟩
    have hj : j ≠ i := fun h => hm answer (by rw [h])
    rwa [ho', List.getElem?_set_ne hj]
  cases hs with
  | call c =>
    have hknown : i < s.operations.length := (List.getElem?_eq_some_iff.1 hi).1
    cases c <;> rwa [State.begin, List.getElem?_append_left hknown]
  | start _ h => exact other _ _ rfl (operations_of_startStep h)
  | stop _ h => exact other _ _ rfl (operations_of_stopStep h)
  | send _ h => exact other _ _ rfl (operations_of_sendStep h)
  | receive =>
    generalize hread : s.read _ _ _ = s₁
    cases read_inv hread <;> exact hi
  | proceed _ _ h =>
    obtain ⟨-, _, -, -, -, ho⟩ := goes_on_of_loopStep h
    rwa [ho]
  | _ => exact hi

theorem pointOf?_append {l : ReadLoop} (hl : s'.loops = s.loops ++ [l])
    (hp : s.pointOf? k = some p) : s'.pointOf? k = some p := by
  obtain ⟨l', hl', rfl⟩ := Option.map_eq_some_iff.1 hp
  have hk : k < s.loops.length := (List.getElem?_eq_some_iff.1 hl').1
  simp [State.pointOf?, hl, List.getElem?_append_left hk, hl']

/-- Operations leave the loops where they are. -/
theorem point_of_startStep {point : StartPoint} (hp : s.pointOf? k = some p)
    (h : StartStep setup s i token point answer s') : s'.pointOf? k = some p := by
  cases h with
  | join => exact (pointOf?_cancel k).trans hp
  | published => exact pointOf?_append rfl hp
  | _ => exact hp

theorem point_of_stopStep {point : StopPoint} (hp : s.pointOf? k = some p)
    (h : StopStep s i point answer s') : s'.pointOf? k = some p := by
  cases h with
  | join => exact (pointOf?_cancel k).trans hp
  | _ => exact hp

/-! ## The published socket -/

theorem handover_of_startStep {point : StartPoint} (ho : Orderly s) (hf : Faithful s)
    (hi : s.operations[i]? = some (.start token point))
    (h : StartStep setup s i token point answer s') : Handover s s' := by
  cases h with
  | published =>
    -- In its turn, a start that awaits no loop has the transport for itself.
    have hsilent : s.Silent := ho.silent_of_turn hi rfl (by rintro k ⟨⟩)
    exact .published (hf.down hsilent).1 rfl
  | _ => exact .kept rfl

theorem handover_of_stopStep {point : StopPoint} (h : StopStep s i point answer s') :
    Handover s s' := by
  cases h with
  | close hw => exact .closed hw rfl rfl
  | nothing hw => exact .kept hw.symm
  | _ => exact .kept rfl

theorem handover_of_loopStep (ho : Orderly s) (hf : Faithful s) (hp : s.pointOf? k = some p)
    (h : LoopStep setup s k p answer s') : Handover s s' := by
  cases h with
  | close hw => exact .closed hw rfl rfl
  | nothing hw => exact .kept hw.symm
  | published => exact .published (hf.no_writer ho hp nofun rfl) rfl
  | endClose hw => exact .closed hw rfl rfl
  | endNothing hw => exact .kept hw.symm
  | _ => exact .kept rfl

theorem handover_of_step (ho : Orderly s) (hf : Faithful s) (hs : Step setup s m s') :
    Handover s s' := by
  cases hs with
  | call c => cases c <;> exact .kept rfl
  | start hi h => exact handover_of_startStep ho hf hi h
  | stop _ h => exact handover_of_stopStep h
  | send _ h => cases h <;> exact .kept rfl
  | receive =>
    generalize hread : s.read _ _ _ = s₁
    cases read_inv hread <;> exact .kept rfl
  | proceed hl hp h => exact handover_of_loopStep ho hf (hp ▸ pointOf?_eq hl) h
  | _ => exact .kept rfl

/-- A socket stays published until it is taken back to be closed. -/
theorem Handover.of_published (h : Handover s s') (hw : s.writer = some socket) :
    s'.writer = some socket ∨ s'.writer = none ∧ s'.log = s.log ++ [.close socket] := by
  cases h with
  | kept hkept => exact .inl (hkept.trans hw)
  | closed hw₁ hw' hlog =>
    obtain rfl := Option.some.inj (hw₁.symm.trans hw)
    exact .inr ⟨hw', hlog⟩
  | published hnone => rw [hw] at hnone; cases hnone

/-! ## The opened sockets -/

theorem log_of_step (hs : Step setup s m s') : ∃ entries, s'.log = s.log ++ entries := by
  have same : s'.log = s.log → ∃ entries, s'.log = s.log ++ entries := fun h => ⟨[], by simp [h]⟩
  cases hs with
  | call c => cases c <;> exact same rfl
  | start _ h =>
    cases h with
    | dial => exact ⟨_, rfl⟩
    | joined => exact ⟨_, rfl⟩
    | _ => exact same rfl
  | stop _ h =>
    cases h with
    | close => exact ⟨_, rfl⟩
    | _ => exact same rfl
  | send _ h =>
    cases h with
    | write => exact ⟨_, rfl⟩
    | _ => exact same rfl
  | receive =>
    generalize hread : s.read _ _ _ = s₁
    cases read_inv hread <;> exact ⟨[], (List.append_nil s.log).symm⟩
  | proceed _ _ h =>
    cases h with
    | close => exact ⟨_, rfl⟩
    | dial => exact ⟨_, rfl⟩
    | endClose => exact ⟨_, rfl⟩
    | _ => exact same rfl
  | _ => exact same rfl

/-- A start that has a socket to publish still has it, or has published it. -/
theorem inStart_of_step (hi : s.operations[i]? = some (.start token (.publishing socket)))
    (hs : Step setup s m s') : Whereabouts s' socket := by
  by_cases hm : ∃ answer, m = .resume i answer
  · obtain ⟨answer, rfl⟩ := hm
    cases hs with
    | start hi' h =>
      obtain ⟨rfl, rfl⟩ : token = _ ∧ _ = _ := by simpa using hi.symm.trans hi'
      cases h
      exact .published rfl
    | stop hi' => rw [hi] at hi'; cases hi'
    | send hi' => rw [hi] at hi'; cases hi'
  · exact .inStart (operation_of_step hi (fun answer h => hm ⟨answer, h⟩) hs)

/-- So does a loop. -/
theorem inLoop_of_step (hp : s.pointOf? k = some (.publishing socket)) (hs : Step setup s m s') :
    Whereabouts s' socket := by
  have other : ∀ {j : Nat} {q : LoopPoint}, s.pointOf? j = some q →
      (∀ x, q ≠ .publishing x) → j ≠ k := by
    rintro j q hq hnot rfl
    exact hnot socket (Option.some.inj (hq.symm.trans hp))
  cases hs with
  | call c => cases c <;> exact .inLoop hp
  | start _ h => exact .inLoop (point_of_startStep hp h)
  | stop _ h => exact .inLoop (point_of_stopStep hp h)
  | send _ h => cases h <;> exact .inLoop hp
  | cancel => exact .inLoop hp
  | elapse => exact .inLoop hp
  | @receive j x l incoming hl hread =>
    have hj : k ≠ j := (other (hread ▸ pointOf?_eq hl) (by simp)).symm
    generalize hafter : s.read j x incoming = s₁
    cases read_inv hafter with
    | lost => exact .inLoop ((pointOf?_loopAt_ne hj).trans hp)
    | skipped => exact .inLoop hp
    | delivered => exact .inLoop ((pointOf?_loopAt_ne hj).trans hp)
  | @halt j l hl hhalting =>
    have hj : k ≠ j := by
      refine (other (pointOf?_eq hl) fun x hx => ?_).symm
      simp [State.isHalting, hx] at hhalting
    exact .inLoop ((pointOf?_loopAt_ne hj).trans hp)
  | @proceed j l q answer _ hl hq h =>
    by_cases hj : k = j
    · subst hj
      obtain rfl : LoopPoint.publishing socket = q :=
        Option.some.inj (hp.symm.trans (hq ▸ pointOf?_eq hl))
      cases h
      exact .published rfl
    · obtain ⟨-, p', hloops, -⟩ := goes_on_of_loopStep h
      refine .inLoop (k := k) ?_
      rw [pointOf?_congr hloops, pointOf?_loopAt_ne hj]
      exact hp

theorem whereabouts_of_step (ho : Orderly s) (hf : Faithful s) (hs : Step setup s m s')
    (h : Whereabouts s socket) : Whereabouts s' socket := by
  cases h with
  | published hw =>
    rcases (handover_of_step ho hf hs).of_published hw with hw' | ⟨-, hlog⟩
    · exact .published hw'
    · exact .closed (by simp [hlog])
  | inStart hi => exact inStart_of_step hi hs
  | inLoop hp => exact inLoop_of_step hp hs
  | closed hlog =>
    obtain ⟨entries, hentries⟩ := log_of_step hs
    exact .closed (hentries ▸ List.mem_append_left _ hlog)

/-- A step opens no socket, or one that a start or a loop then has to publish. -/
theorem sockets_of_step (hs : Step setup s m s') :
    s'.sockets = s.sockets ∨ s'.sockets = s.sockets + 1 ∧ Whereabouts s' s.sockets := by
  cases hs with
  | call c => cases c <;> exact .inl rfl
  | @start i token _ _ _ hi h =>
    cases h with
    | opened =>
      have hknown : i < s.operations.length := (List.getElem?_eq_some_iff.1 hi).1
      exact .inr ⟨rfl, .inStart (i := i) (List.getElem?_set_self hknown)⟩
    | _ => exact .inl rfl
  | stop _ h => cases h <;> exact .inl rfl
  | send _ h => cases h <;> exact .inl rfl
  | receive =>
    generalize hread : s.read _ _ _ = s₁
    cases read_inv hread <;> exact .inl rfl
  | @proceed k _ _ _ _ hl hp h =>
    cases h with
    | opened =>
      have hopened : s.opened.1.pointOf? k = s.pointOf? k := rfl
      exact .inr ⟨rfl, .inLoop (pointOf?_loopAt (hopened.trans (pointOf?_eq hl)))⟩
    | _ => exact .inl rfl
  | _ => exact .inl rfl

/-- A step leaves the connection as it is shown, or sets it to a state that a bridge can be in. -/
theorem connection_of_step (hs : Step setup s m s') :
    s'.connection = s.connection ∨
      s'.connection ∈ [ConnectionState.disconnected, .connecting, .connected] := by
  have same : s'.connection = s.connection → s'.connection = s.connection ∨
      s'.connection ∈ [ConnectionState.disconnected, .connecting, .connected] := .inl
  have set : ∀ c, s'.connection = c → c ∈ [ConnectionState.disconnected, .connecting, .connected] →
      s'.connection = s.connection ∨
        s'.connection ∈ [ConnectionState.disconnected, .connecting, .connected] := by
    rintro c rfl hc
    exact .inr hc
  cases hs with
  | call c => cases c <;> exact same rfl
  | start _ h =>
    cases h with
    | join => exact same rfl
    | opened => exact same rfl
    | dial => exact set .connecting rfl (by decide)
    | joined => exact set .connecting rfl (by decide)
    | refused => exact set .disconnected rfl (by decide)
    | late => exact set .disconnected rfl (by decide)
    | published => exact set .connected rfl (by decide)
  | stop _ h =>
    cases h with
    | close => exact set .disconnected rfl (by decide)
    | nothing => exact set .disconnected rfl (by decide)
    | _ => exact same rfl
  | send _ h => cases h <;> exact same rfl
  | receive =>
    generalize hread : s.read _ _ _ = s₁
    cases read_inv hread <;> exact .inl rfl
  | proceed _ _ h =>
    cases h with
    | dial => exact set .connecting rfl (by decide)
    | refused => exact set .disconnected rfl (by decide)
    | late => exact set .disconnected rfl (by decide)
    | published => exact set .connected rfl (by decide)
    | close => exact set .disconnected rfl (by decide)
    | nothing => exact set .disconnected rfl (by decide)
    | endClose => exact set .disconnected rfl (by decide)
    | endNothing => exact set .disconnected rfl (by decide)
    | _ => exact same rfl
  | _ => exact same rfl

theorem accounted_of_step (ho : Orderly s) (hf : Faithful s) (h : Accounted s)
    (hs : Step setup s m s') : Accounted s' := by
  intro socket hsocket
  rcases sockets_of_step hs with hsame | ⟨hone, hnew⟩
  · exact whereabouts_of_step ho hf hs (h socket (hsame ▸ hsocket))
  · rcases Nat.lt_succ_iff_lt_or_eq.1 (hone ▸ hsocket) with hold | rfl
    · exact whereabouts_of_step ho hf hs (h socket hold)
    · exact hnew

/-! ## Every run -/

/-- What holds of the sockets and of what is shown, wherever a transport can get. -/
structure Kept (s : State) : Prop where
  orderly : Orderly s
  faithful : Faithful s
  shown : s.connection ∈ [ConnectionState.disconnected, .connecting, .connected]
  accounted : Accounted s

theorem kept_of_step (h : Kept s) (hs : Step setup s m s') : Kept s' := by
  refine ⟨orderly_of_step h.orderly hs, faithful_of_step h.faithful h.orderly hs, ?_,
    accounted_of_step h.orderly h.faithful h.accounted hs⟩
  rcases connection_of_step hs with hsame | hset
  · exact hsame ▸ h.shown
  · exact hset

theorem kept_of_run {bus : Bus} {moves : List Move} (hidle : bus.running = false)
    (hrun : exec setup (.initial bus) moves = some s') : Kept s' := by
  have hinitial : Kept (.initial bus) :=
    ⟨.of_silent nofun nofun nofun, .of_down rfl hidle nofun, by simp [State.initial], nofun⟩
  rw [exec_eq_follow] at hrun
  exact follow_invariant (Q := fun _ => True) (fun h _ hstep => kept_of_step h (step_inv hstep))
    hinitial (fun _ _ => trivial) hrun

/-- A channel is used in any way, whatever its peers and callers do. Then there is a published
socket exactly if the connection is shown as connected; it is never shown as awaiting a pairing or
as logged out; at most one loop is not over; a published socket stays until it is taken back to be
closed, so that none is published in its place; and each socket that was opened is published, about
to be published, or has been closed. -/
theorem handle_shows_connection {name : String} {allow : List String} {moves : List Move}
    (hrun : exec setup (.initial (.new name allow)) moves = some s') :
    (s'.writer.isSome = true ↔ s'.connection = .connected) ∧
      (s'.connection ≠ .awaitingPairing ∧ s'.connection ≠ .loggedOut) ∧
      (∀ j k p q, s'.pointOf? j = some p → s'.pointOf? k = some q → p ≠ .ended → q ≠ .ended →
        j = k) ∧
      (∀ m s'', step setup s' m = some s'' → ∀ socket, s'.writer = some socket →
        s''.writer = some socket ∨ s''.writer = none ∧ s''.log = s'.log ++ [.close socket]) ∧
      ∀ socket < s'.sockets, Whereabouts s' socket := by
  have h : Kept s' := kept_of_run rfl hrun
  refine ⟨h.faithful.connected.symm, ?_, ?_, ?_, h.accounted⟩
  · have hshown := h.shown
    constructor <;> rintro hout <;> simp [hout] at hshown
  · intro j k p q hp hq hp' hq'
    have hj := h.orderly.latest j p hp hp'
    have hk := h.orderly.latest k q hq hq'
    omega
  · intro m s'' hstep socket hw
    exact (handover_of_step h.orderly h.faithful (step_inv hstep)).of_published hw

end

/-- A loop loses its socket and gets another one, and is told to end by a second start while a stop
waits for its turn. -/
def lostAndRestarted : List Move :=
  [.call (.start 0), .resume 0 .ready, .resume 0 .ready, .resume 0 .ready, .receive 0 .lost,
    .proceed 0 .ready, .proceed 0 .ready, .elapse 2000, .proceed 0 .ready, .proceed 0 .ready,
    .proceed 0 .ready, .call (.start 1), .resume 1 .ready, .call .stop, .resume 2 .ready, .halt 0,
    .proceed 0 .ready, .proceed 0 .ready, .resume 1 .ready, .resume 1 .ready, .resume 1 .ready]

theorem lostAndRestarted_kept : ∃ s',
    exec ⟨"ws://bridge", .usual⟩ (.initial (.new channelName [])) lostAndRestarted = some s' ∧
      s'.writer = some 2 ∧ s'.connection = .connected ∧ Whereabouts s' 1 := by
  have hrun : exec ⟨"ws://bridge", .usual⟩ (.initial (.new channelName [])) lostAndRestarted =
      some _ := rfl
  obtain ⟨hshown, -, -, -, hsockets⟩ := handle_shows_connection hrun
  exact ⟨_, hrun, rfl, hshown.1 rfl, hsockets 1 (by decide)⟩

end ChatChannel.Bridge
