import ChatChannel.Proofs.Bridge.Step
import ChatChannel.Proofs.Run

/-!
# ChatChannel.Proofs.Bridge.Calm

A read loop that nobody tells to end. While that is so the loop is the only one that runs, it stays
alive whatever it reads and however its dials turn out, and it can always come to read again.

* `calm_of_step`: a move that does not tell the loop to end leaves it so, and leaves the running
  flag as it is.
* `Calm.reads_again`: from every point of the loop there is a way on to reading.
-/

namespace ChatChannel.Bridge

/-- The loop has not begun to end. -/
def LoopPoint.isLive : LoopPoint → Bool
  | .ending => false
  | .endClosing _ => false
  | .ended => false
  | _ => true

/-- The operation ends no loop. -/
def Operation.sparesLoops : Operation → Bool
  | .start _ _ => false
  | .stop _ => false
  | .send _ _ => true
  | .finished _ => true

/-- The move asks for no end of the loops, and does not fire this token. -/
def Move.spares (token : Nat) : Move → Bool
  | .call (.start _) => false
  | .call .stop => false
  | .cancel other => other ≠ token
  | _ => true

/-- Loop `k` is alive, and nobody tells it to end: neither its token has fired nor a later operation
has cancelled it, no start or stop is in flight, and the other loops are over. -/
structure Calm (k token : Nat) (s : State) : Prop where
  live : ∃ l, s.loops[k]? = some l ∧ l.token = token ∧ l.cancelled = false ∧
    l.point.isLive = true
  unfired : token ∉ s.fired
  others : ∀ j l, j ≠ k → s.loops[j]? = some l → l.point = .ended
  operations : ∀ o ∈ s.operations, o.sparesLoops = true

section

variable {setup : Setup} {s s' : State} {k token : Nat}

theorem Calm.congr (h : Calm k token s) (hl : s'.loops = s.loops) (hf : s'.fired = s.fired)
    (ho : s'.operations = s.operations) : Calm k token s' :=
  ⟨hl ▸ h.live, hf ▸ h.unfired, hl ▸ h.others, ho ▸ h.operations⟩

theorem Calm.loopAt (h : Calm k token s) {point : LoopPoint} (hp : point.isLive = true) :
    Calm k token (s.loopAt k point) := by
  obtain ⟨l, hl, htoken, hcancelled, -⟩ := h.live
  refine ⟨⟨{ l with point }, ?_, htoken, hcancelled, hp⟩, h.unfired, ?_, h.operations⟩
  · simp [State.loopAt, State.onLoop, hl]
  · intro j l' hj hl'
    refine h.others j l' hj ?_
    simpa [State.loopAt, State.onLoop, List.getElem?_modify, Ne.symm hj] using hl'

theorem Calm.setOperation (h : Calm k token s) {i : Nat} {o : Operation}
    (ho : o.sparesLoops = true) : Calm k token (s.setOperation i o) := by
  refine ⟨h.live, h.unfired, h.others, fun o' ho' => ?_⟩
  rcases List.mem_or_eq_of_mem_set ho' with hmem | rfl
  · exact h.operations o' hmem
  · exact ho

theorem Calm.not_start (h : Calm k token s) {i t : Nat} {point : StartPoint} :
    s.operations[i]? ≠ some (.start t point) := fun hi =>
  Bool.false_ne_true (h.operations _ (List.mem_of_getElem? hi))

theorem Calm.not_stop (h : Calm k token s) {i : Nat} {point : StopPoint} :
    s.operations[i]? ≠ some (.stop point) := fun hi =>
  Bool.false_ne_true (h.operations _ (List.mem_of_getElem? hi))

theorem Calm.eq_of_point (h : Calm k token s) {j : Nat} {l : ReadLoop}
    (hl : s.loops[j]? = some l) (hp : l.point ≠ .ended) : j = k :=
  Classical.byContradiction fun hj => hp (h.others j l hj hl)

theorem Calm.not_isHalting (h : Calm k token s) {j : Nat} {l : ReadLoop}
    (hl : s.loops[j]? = some l) : s.isHalting l = false := by
  by_cases hj : j = k
  · subst hj
    obtain ⟨l', hl', htoken, hcancelled, -⟩ := h.live
    obtain rfl : l = l' := Option.some.inj (hl.symm.trans hl')
    simp [State.isHalting, State.isCancelled, hcancelled, htoken, h.unfired]
  · simp [State.isHalting, h.others j l hj hl]

theorem calm_of_sendStep (h : Calm k token s) {i : Nat} {m : OutboundMessage} {point : SendPoint}
    {answer : Answer} (hs : SendStep s i m point answer s') :
    Calm k token s' ∧ s'.bus.running = s.bus.running := by
  cases hs with
  | unconnected hw => exact ⟨h.setOperation rfl, rfl⟩
  | write hw => exact ⟨(h.congr rfl rfl rfl : Calm k token (s.record _)).setOperation rfl, rfl⟩
  | written => exact ⟨h.setOperation rfl, rfl⟩
  | failed => exact ⟨h.setOperation rfl, rfl⟩

theorem calm_of_loopStep (h : Calm k token s) {l : ReadLoop} (hl : s.loops[k]? = some l)
    {answer : Answer} (hs : LoopStep setup s k l.point answer s') :
    Calm k token s' ∧ s'.bus.running = s.bus.running := by
  have hlive : l.point.isLive = true := by
    obtain ⟨l', hl', -, -, hp⟩ := h.live
    exact Option.some.inj (hl.symm.trans hl') ▸ hp
  generalize l.point = point at hs hlive
  cases hs with
  | delivered => exact ⟨h.loopAt rfl, rfl⟩
  | @close socket hw =>
    have h' : Calm k token (s.dropWriter.1.record (.close socket)) := h.congr rfl rfl rfl
    exact ⟨h'.loopAt rfl, rfl⟩
  | nothing hw =>
    have h' : Calm k token s.dropWriter.1 := h.congr rfl rfl rfl
    exact ⟨h'.loopAt rfl, rfl⟩
  | closed => exact ⟨h.loopAt rfl, rfl⟩
  | dial hwake =>
    have h' : Calm k token (s.dial setup).1 := h.congr rfl rfl rfl
    exact ⟨h'.loopAt rfl, rfl⟩
  | opened =>
    have h' : Calm k token s.opened.1 := h.congr rfl rfl rfl
    exact ⟨h'.loopAt rfl, rfl⟩
  | refused =>
    have h' : Calm k token s.dialFailed := h.congr rfl rfl rfl
    exact ⟨h'.loopAt rfl, rfl⟩
  | late hlate =>
    have h' : Calm k token s.dialFailed := h.congr rfl rfl rfl
    exact ⟨h'.loopAt rfl, rfl⟩
  | @published socket =>
    have h' : Calm k token (s.publish socket) := h.congr rfl rfl rfl
    exact ⟨h'.loopAt rfl, rfl⟩
  | endClose hw => cases hlive
  | endNothing hw => cases hlive
  | endClosed => cases hlive

theorem calm_of_read (h : Calm k token s) (socket : Nat) (incoming : Incoming) :
    Calm k token (s.read k socket incoming) ∧
      (s.read k socket incoming).bus.running = s.bus.running := by
  unfold State.read
  split
  · exact ⟨h.loopAt rfl, rfl⟩
  · split
    · exact ⟨h, rfl⟩
    · rename_i m hm
      split
      · rename_i hadmits
        have h' : Calm k token { s with bus := s.bus.handle ⟨m, []⟩ } := h.congr rfl rfl rfl
        refine ⟨h'.loopAt rfl, ?_⟩
        simp [State.loopAt, State.onLoop, Bus.handle, hadmits]
      · exact ⟨h, rfl⟩

/-- A calm loop stays calm under every move that does not tell it to end, and the running flag stays
as it is. -/
theorem calm_of_step (h : Calm k token s) {m : Move} (hm : m.spares token = true)
    (hs : Step setup s m s') :
    Calm k token s' ∧ s'.bus.running = s.bus.running := by
  cases hs with
  | call c =>
    cases c with
    | start t => cases hm
    | stop => cases hm
    | send message =>
      refine ⟨⟨h.live, h.unfired, h.others, fun o ho => ?_⟩, rfl⟩
      rcases List.mem_append.1 ho with ho | ho
      · exact h.operations o ho
      · obtain rfl := List.mem_singleton.1 ho
        rfl
  -- No start and no stop is in flight.
  | start hi _ => exact absurd hi h.not_start
  | stop hi _ => exact absurd hi h.not_stop
  | send _ hs => exact calm_of_sendStep h hs
  | cancel t =>
    have ht : t ≠ token := by simpa [Move.spares] using hm
    refine ⟨⟨h.live, fun hmem => ?_, h.others, h.operations⟩, rfl⟩
    rcases List.mem_append.1 hmem with hmem | hmem
    · exact h.unfired hmem
    · exact ht (List.mem_singleton.1 hmem).symm
  | elapse _ => exact ⟨h.congr rfl rfl rfl, rfl⟩
  | @receive j socket l incoming hl hp =>
    obtain rfl := h.eq_of_point hl (by rw [hp]; simp)
    exact calm_of_read h socket incoming
  | halt hl hh => exact absurd (h.not_isHalting hl) (by simp [hh])
  | @proceed j l point answer _ hl hp hs =>
    -- The other loops are over, and no rule goes on from there.
    have hj : j = k := by
      refine h.eq_of_point hl ?_
      rintro hend
      rw [← hp, hend] at hs
      cases hs
    subst hj hp
    exact calm_of_loopStep h hl hs

theorem calm_of_run (h : Calm k token s) {moves : List Move}
    (hm : ∀ m ∈ moves, m.spares token = true) (hrun : exec setup s moves = some s') :
    Calm k token s' ∧ s'.bus.running = s.bus.running := by
  rw [exec_eq_follow] at hrun
  refine follow_invariant (P := fun t => Calm k token t ∧ t.bus.running = s.bus.running)
    (Q := fun m => m.spares token = true) ?_ ⟨h, rfl⟩ hm hrun
  intro t m t' ht hm hstep
  obtain ⟨ht', hrunning⟩ := calm_of_step ht.1 hm (step_inv hstep)
  exact ⟨ht', hrunning.trans ht.2⟩

end

/-! ## The way back to reading -/

/-- The loop is at this point. -/
def State.isAt (s : State) (k : Nat) (point : LoopPoint) : Prop :=
  ∃ l, s.loops[k]? = some l ∧ l.point = point

/-- The loop can come to read, if its own requests are answered and time passes. -/
def State.ReadsAgain (setup : Setup) (s : State) (k : Nat) : Prop :=
  ∃ moves s' socket, exec setup s moves = some s' ∧ s'.isAt k (.reading socket) ∧
    ∀ m ∈ moves, m = .proceed k .ready ∨ ∃ millis, m = .elapse millis

namespace State

variable {setup : Setup} {s s' : State} {k : Nat} {point : LoopPoint}

theorem isAt.goOn (h : s.isAt k point) (hl : s'.loops = s.loops) (next : LoopPoint) :
    (s'.loopAt k next).isAt k next := by
  obtain ⟨l, hl', -⟩ := h
  exact ⟨{ l with point := next }, by simp [loopAt, onLoop, hl, hl'], rfl⟩

theorem ReadsAgain.of_step {m : Move} (h : s'.ReadsAgain setup k)
    (hm : m = .proceed k .ready ∨ ∃ millis, m = .elapse millis)
    (hs : step setup s m = some s') : s.ReadsAgain setup k := by
  obtain ⟨moves, s₁, socket, hrun, hat, hmoves⟩ := h
  refine ⟨m :: moves, s₁, socket, ?_, hat, ?_⟩
  · simp only [exec, hs, Option.bind_some, hrun]
  · intro m' hm'
    rcases List.mem_cons.1 hm' with rfl | hm'
    · exact hm
    · exact hmoves m' hm'

theorem ReadsAgain.of_proceed (hat : s.isAt k point)
    (hs : s.proceed setup k point .ready = some s') (h : s'.ReadsAgain setup k) :
    s.ReadsAgain setup k := by
  obtain ⟨l, hl, rfl⟩ := hat
  exact h.of_step (.inl rfl) (by simp only [step, hl, hs])

variable {socket wake deadline : Nat}

theorem readsAgain_of_reading (h : s.isAt k (.reading socket)) : s.ReadsAgain setup k :=
  ⟨[], s, socket, rfl, h, fun _ hm => absurd hm List.not_mem_nil⟩

theorem readsAgain_of_publishing (h : s.isAt k (.publishing socket)) : s.ReadsAgain setup k := by
  refine .of_proceed h rfl ?_
  exact readsAgain_of_reading (h.goOn rfl _)

theorem readsAgain_of_dialing (h : s.isAt k (.dialing deadline)) : s.ReadsAgain setup k := by
  refine .of_proceed h rfl ?_
  exact readsAgain_of_publishing (h.goOn rfl _)

theorem readsAgain_of_rested (h : s.isAt k (.resting wake)) (hwake : wake ≤ s.now) :
    s.ReadsAgain setup k := by
  refine .of_proceed h (if_pos hwake) ?_
  exact readsAgain_of_dialing (h.goOn rfl _)

theorem readsAgain_of_resting (h : s.isAt k (.resting wake))
    (helapse : s.mayElapse (wake - s.now) = true) : s.ReadsAgain setup k := by
  have hs : step setup s (.elapse (wake - s.now)) =
      some { s with now := s.now + (wake - s.now) } := if_pos helapse
  refine ReadsAgain.of_step ?_ (.inr ⟨wake - s.now, rfl⟩) hs
  exact readsAgain_of_rested h (by simp only; omega)

end State

section

variable {setup : Setup} {s : State} {k token wake : Nat}

/-- A calm loop that rests is the only one that waits for a moment. -/
theorem Calm.mayElapse (h : Calm k token s) (hat : s.isAt k (.resting wake))
    (hwake : s.now ≤ wake) : s.mayElapse (wake - s.now) = true := by
  simp only [State.mayElapse, Bool.and_eq_true, List.all_eq_true]
  constructor
  · intro l hmem
    obtain ⟨j, hj⟩ := List.mem_iff_getElem?.1 hmem
    refine ⟨by simp [h.not_isHalting hj], ?_⟩
    by_cases hk : j = k
    · subst hk
      obtain ⟨l', hl', hp⟩ := hat
      obtain rfl : l = l' := Option.some.inj (hj.symm.trans hl')
      simp [hp, LoopPoint.moment?]
      omega
    · simp [h.others j l hk hj, LoopPoint.moment?]
  · intro o ho
    have hspares := h.operations o ho
    cases o with
    | start t point => cases hspares
    | stop point => rfl
    | send m point => rfl
    | finished result => rfl

theorem Calm.readsAgain_of_resting (h : Calm k token s) (hat : s.isAt k (.resting wake)) :
    s.ReadsAgain setup k := by
  by_cases hwake : wake ≤ s.now
  · exact State.readsAgain_of_rested hat hwake
  · exact State.readsAgain_of_resting hat (h.mayElapse hat (by omega))

theorem Calm.readsAgain_of_closing {socket : Nat} (h : Calm k token s)
    (hat : s.isAt k (.closing socket)) : s.ReadsAgain setup k := by
  refine .of_proceed hat rfl ?_
  exact (h.loopAt rfl).readsAgain_of_resting (hat.goOn rfl _)

theorem Calm.readsAgain_of_dropping (h : Calm k token s) (hat : s.isAt k .dropping) :
    s.ReadsAgain setup k := by
  have hdrop : Calm k token s.dropWriter.1 := h.congr rfl rfl rfl
  cases hw : s.writer with
  | none =>
    have hs : s.proceed setup k .dropping .ready =
        some (s.dropWriter.1.rest k setup.timing.errorBackoff) := by
      simp only [State.proceed, State.dropWriter, hw]
    refine .of_proceed hat hs ?_
    exact (hdrop.loopAt rfl).readsAgain_of_resting (hat.goOn rfl _)
  | some socket =>
    have hs : s.proceed setup k .dropping .ready =
        some ((s.dropWriter.1.record (.close socket)).loopAt k (.closing socket)) := by
      simp only [State.proceed, State.dropWriter, hw]
    have hclose : Calm k token (s.dropWriter.1.record (.close socket)) :=
      hdrop.congr rfl rfl rfl
    refine .of_proceed hat hs ?_
    exact (hclose.loopAt rfl).readsAgain_of_closing (hat.goOn rfl _)

/-- From every point of a loop that nobody tells to end, there is a way to reading. -/
theorem Calm.reads_again (h : Calm k token s) : s.ReadsAgain setup k := by
  obtain ⟨l, hl, -, -, hlive⟩ := h.live
  have hat : s.isAt k l.point := ⟨l, hl, rfl⟩
  generalize l.point = point at hat hlive
  cases point with
  | reading socket => exact State.readsAgain_of_reading hat
  | delivering socket => exact .of_proceed hat rfl (State.readsAgain_of_reading (hat.goOn rfl _))
  | dropping => exact h.readsAgain_of_dropping hat
  | closing socket => exact h.readsAgain_of_closing hat
  | resting wake => exact h.readsAgain_of_resting hat
  | dialing deadline => exact State.readsAgain_of_dialing hat
  | publishing socket => exact State.readsAgain_of_publishing hat
  | ending => cases hlive
  | endClosing socket => cases hlive
  | ended => cases hlive

end

end ChatChannel.Bridge
