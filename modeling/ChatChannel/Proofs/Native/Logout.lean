import ChatChannel.Proofs.Native.Dispatcher
import ChatChannel.Proofs.Run

/-!
# ChatChannel.Proofs.Native.Logout

When a transport shows that its session was revoked. Two kinds of moves decide: a dispatcher that
takes the report of a revocation, and a start that sets the connection without looking at it, which
it does at the end of its release and once it has connected to pair. `marks` notes both.

* `revoked_iff_last`: the connection shows the revocation exactly if the last of them was one.
* `sealed_of_run`: once no start is left that could overwrite it, it shows it for good.
* `revocation_lasts_iff`: both for a start with revocations under way.
* `revocation_overwritten`: a run in which a start loses one.
-/

namespace ChatChannel.Native

/-- What decides whether the connection shows a revocation. -/
inductive Mark where
  | revoked
  /-- A start has set the connection, whatever it was. -/
  | overwritten
  deriving DecidableEq

/-- The marks of a start that goes on. -/
def startMarks (s : State) : StartPoint → Answer → List Mark
  | .release point, .ready => if (s.releaseFrom point).2 = none then [.overwritten] else []
  | .connecting _ true, .ready => [.overwritten]
  | _, _ => []

/-- The marks of a move. -/
def marks (s : State) : Move → List Mark
  | .take c =>
    match s.queueOf c with
    | .loggedOut _ :: _ => [.revoked]
    | _ => []
  | .resume i answer =>
    match s.operations[i]? with
    | some (.start _ point) => startMarks s point answer
    | _ => []
  | _ => []

/-- What the connection shows after marks: the last one counts. -/
def shows (before : Bool) (ms : List Mark) : Bool :=
  match ms.getLast? with
  | some m => m = .revoked
  | none => before

theorem shows_append (before : Bool) (ms ms' : List Mark) :
    shows before (ms ++ ms') = shows (shows before ms) ms' := by
  simp only [shows, List.getLast?_append]
  cases ms'.getLast? <;> rfl

section

variable {setup : Setup} {s s' s₁ : State} {m : Move} {i token : Nat} {answer : Answer}

/-! ## The connection after a step -/

theorem becomes_loggedOut {next : ConnectionState} (hnext : next ≠ .loggedOut) :
    (s.becomes next).connection = .loggedOut ↔ s.connection = .loggedOut := by
  by_cases h : s.connection = .loggedOut
  · simp [State.becomes, ConnectionState.unlessLoggedOut, h]
  · simp [State.becomes, ConnectionState.unlessLoggedOut, h, hnext]

theorem releaseFrom_eq {point : ReleasePoint} {next : Option ReleasePoint}
    (h : ReleaseStep s point s₁ next) : s.releaseFrom point = (s₁, next) := by
  cases h with
  | noToken hd => simp only [State.releaseFrom, hd]
  | token hd => simp only [State.releaseFrom, hd]
  | noClient hh => simp only [State.releaseFrom, hh]
  | client hh => simp only [State.releaseFrom, hh]
  | disconnected => rfl

theorem connection_of_releaseStep {point : ReleasePoint} {next : Option ReleasePoint}
    (h : ReleaseStep s point s₁ next) : s₁.connection = s.connection := by
  cases h <;> rfl

theorem connection_startReleased :
    (s.startReleased setup i token).connection = .connecting := by
  unfold State.startReleased
  split <;> rfl

theorem connection_makeStoreDir {dir : String} :
    (s.makeStoreDir setup i token dir).connection = s.connection := by
  unfold State.makeStoreDir
  split <;> rfl

theorem connection_welcome {own : Option Address} :
    (s.welcome i token own).connection = s.connection := by
  unfold State.welcome
  split <;> rfl

theorem connection_of_startStep {point : StartPoint}
    (h : StartStep setup s i token point answer s') :
    s'.connection = .loggedOut ↔
      shows (s.connection = .loggedOut) (startMarks s point answer) = true := by
  have same : s'.connection = s.connection → startMarks s point answer = [] →
      (s'.connection = .loggedOut ↔
        shows (s.connection = .loggedOut) (startMarks s point answer) = true) := by
    intro hsame hnone
    simp [hsame, hnone, shows]
  have careful : ∀ next, next ≠ .loggedOut → s'.connection = (s.becomes next).connection →
      startMarks s point answer = [] → (s'.connection = .loggedOut ↔
        shows (s.connection = .loggedOut) (startMarks s point answer) = true) := by
    intro next hnext hsame hnone
    simp [hsame, hnone, shows, becomes_loggedOut hnext]
  cases h with
  | @releasing point next s₁ h =>
    have hsame : s₁.connection = s.connection := connection_of_releaseStep h
    refine same hsame ?_
    simp only [startMarks, releaseFrom_eq h, reduceCtorEq, if_false]
  | released h => simp [connection_startReleased, startMarks, releaseFrom_eq h, shows]
  | makeDir => exact same connection_makeStoreDir rfl
  | opened => exact same connection_welcome rfl
  | connected => exact careful .connected (by simp) rfl rfl
  | paired => exact careful .connected (by simp) rfl rfl
  | abandoned => exact careful .disconnected (by simp) rfl rfl
  | toPair => simp [startMarks, shows, State.startAt, State.setOperation]
  | _ => exact same rfl rfl

theorem connection_of_stopStep {point : StopPoint} (h : StopStep s i point answer s') :
    s'.connection = .loggedOut ↔ s.connection = .loggedOut := by
  cases h with
  | checked => exact Iff.rfl
  | @releasing _ _ s₁ h =>
    rw [← connection_of_releaseStep h]
    exact Iff.rfl
  | @released _ s₁ h =>
    rw [← connection_of_releaseStep h]
    exact becomes_loggedOut (s := s₁) (by simp)

theorem connection_of_sendStep {message : OutboundMessage} {point : SendPoint}
    (h : SendStep s i message point answer s') : s'.connection = s.connection := by
  cases h <;> rfl

theorem connection_of_prepareStep {c : Nat} {attempts : AttachmentKind → Attempt}
    {message : Message} (h : PrepareStep setup s c attempts message s') :
    s'.connection = s.connection := by
  cases h <;> rfl

theorem connection_of_step (h : Step setup s m s') :
    s'.connection = .loggedOut ↔
      shows (s.connection = .loggedOut) (marks s m) = true := by
  have same : s'.connection = s.connection → marks s m = [] →
      (s'.connection = .loggedOut ↔
        shows (s.connection = .loggedOut) (marks s m) = true) := by
    intro hsame hnone
    simp [hsame, hnone, shows]
  cases h with
  | call call => exact same (by cases call <;> rfl) rfl
  | start hi h => simp only [marks, hi, connection_of_startStep h]
  | @stop i _ answer _ hi h =>
    have hnone : marks s (.resume i answer) = [] := by simp only [marks, hi]
    simp [connection_of_stopStep h, hnone, shows]
  | send hi h => exact same (connection_of_sendStep h) (by simp only [marks, hi])
  | @take c d e rest hc hd hq =>
    have hqueue : s.queueOf c = e :: rest := by rw [queueOf_eq hc, hq]
    have careful : ∀ next, next ≠ .loggedOut → marks s (.take c) = [] →
        (((s.onClient c fun d => { d with queue := rest }).becomes next).connection = .loggedOut ↔
          shows (s.connection = .loggedOut) (marks s (.take c)) = true) := by
      intro next hnext hnone
      rw [becomes_loggedOut hnext, hnone]
      simp [State.onClient, shows]
    cases e with
    | message message =>
      refine same ?_ (by simp only [marks, hqueue])
      simp only [State.dispatch]
      split <;> rfl
    | connected => exact careful .connected (by simp) (by simp only [marks, hqueue])
    | disconnected => exact careful .disconnected (by simp) (by simp only [marks, hqueue])
    | loggedOut reason => simp [State.dispatch, marks, hqueue, shows]
    | history messages => exact same rfl (by simp only [marks, hqueue])
  | prepared _ _ h => exact same (connection_of_prepareStep h) rfl
  | _ => exact same rfl rfl

/-- The connection shows a revocation exactly if the last of the marks is one. -/
theorem revoked_iff_last {moves : List Move} (hrun : follow (step setup) s moves = some s') :
    s'.connection = .loggedOut ↔
      shows (s.connection = .loggedOut) (observe (step setup) marks s moves) = true := by
  induction moves generalizing s with
  | nil =>
    simp only [follow, Option.some.injEq] at hrun
    simp [observe, shows, hrun]
  | cons m rest ih =>
    obtain ⟨s₁, hm, hrest⟩ := follow_cons.1 hrun
    have hstep := connection_of_step (step_inv hm)
    have hshows : decide (s₁.connection = .loggedOut) =
        shows (s.connection = .loggedOut) (marks s m) := by
      rw [Bool.eq_iff_iff, decide_eq_true_iff, hstep]
    rw [ih hrest, observe_cons hm, shows_append, hshows]

end

/-! ## For good -/

/-- The operation is a start that may still set the connection without looking at it. -/
def Operation.overwrites : Operation → Bool
  | .start _ (.release _) => true
  | .start _ (.makeDir _) => true
  | .start _ .opening => true
  | .start _ (.pairingChannel _) => true
  | .start _ (.connecting _ true) => true
  | _ => false

/-- The connection shows a revocation, and no operation can change that. -/
structure Sealed (s : State) : Prop where
  revoked : s.connection = .loggedOut
  operations : ∀ o ∈ s.operations, o.overwrites = false

section

variable {setup : Setup} {s s' s₁ : State} {m : Move} {i token : Nat} {answer : Answer}

theorem Sealed.congr (h : Sealed s) (hconnection : s'.connection = s.connection)
    (hoperations : s'.operations = s.operations) : Sealed s' :=
  ⟨hconnection.trans h.revoked, hoperations ▸ h.operations⟩

theorem Sealed.setOperation (h : Sealed s) {o : Operation} (ho : o.overwrites = false) :
    Sealed (s.setOperation i o) := by
  refine ⟨h.revoked, fun o' ho' => ?_⟩
  rcases List.mem_or_eq_of_mem_set ho' with hmem | rfl
  · exact h.operations o' hmem
  · exact ho

theorem Sealed.becomes (h : Sealed s) (next : ConnectionState) : Sealed (s.becomes next) := by
  refine ⟨?_, h.operations⟩
  simp only [State.becomes, ConnectionState.unlessLoggedOut, h.revoked, if_true]

theorem Sealed.releaseStep (h : Sealed s) {point : ReleasePoint} {next : Option ReleasePoint}
    (hs : ReleaseStep s point s₁ next) : Sealed s₁ := by
  cases hs <;> exact h.congr rfl rfl

theorem Sealed.abandon (h : Sealed s) {c : Nat} {error : ChannelError} :
    Sealed (s.abandon i token c error) := by
  have hasked : Sealed ((s.onClient c fun d => { d with cancelled := true }).asks c .disconnect) :=
    h.congr rfl rfl
  exact hasked.setOperation (o := .start token (.abandoning c error)) rfl

theorem sealed_of_startStep (h : Sealed s) {point : StartPoint}
    (hpoint : (Operation.start token point).overwrites = false)
    (hs : StartStep setup s i token point answer s') : Sealed s' := by
  cases hs with
  | refused => exact h.setOperation rfl
  | checked hout => exact absurd h.revoked hout
  | releasing => cases hpoint
  | released => cases hpoint
  | makeDir => cases hpoint
  | opened => cases hpoint
  | notOpened => cases hpoint
  | channel => cases hpoint
  | noChannel => cases hpoint
  | toPair => cases hpoint
  | notToPair => cases hpoint
  | connected => exact (h.becomes .connected).setOperation rfl
  | notConnected => exact h.abandon
  | code => exact h.congr rfl rfl
  | paired => exact (h.becomes .connected).setOperation rfl
  | timedOut => exact h.abandon
  | rejected => exact h.abandon
  | closed => exact h.abandon
  | late => exact h.abandon
  | abandoned => exact (h.becomes .disconnected).setOperation rfl
  | @heldClient c =>
    have hheld : Sealed { s with held := some c } := h.congr rfl rfl
    exact hheld.setOperation rfl
  | @heldToken c =>
    have hheld : Sealed { s with dispatcher := some c, bus := s.bus.setRunning true } :=
      h.congr rfl rfl
    exact hheld.setOperation rfl

theorem sealed_of_stopStep (h : Sealed s) {point : StopPoint}
    (hs : StopStep s i point answer s') : Sealed s' := by
  cases hs with
  | checked =>
    have hstopped : Sealed { s with bus := s.bus.setRunning false } := h.congr rfl rfl
    exact hstopped.setOperation rfl
  | releasing hs => exact (h.releaseStep hs).setOperation rfl
  | released hs => exact ((h.releaseStep hs).becomes .disconnected).setOperation rfl

theorem sealed_of_sendStep (h : Sealed s) {message : OutboundMessage} {point : SendPoint}
    (hs : SendStep s i message point answer s') : Sealed s' := by
  cases hs with
  | @send c target =>
    have hasked : Sealed (s.asks c (.sendText target message.content)) := h.congr rfl rfl
    exact hasked.setOperation rfl
  | _ => exact h.setOperation rfl

theorem Sealed.dispatch (h : Sealed s) (c : Nat) (own : Option Address) (e : Event) :
    Sealed (s.dispatch c own e) := by
  cases e with
  | message message =>
    simp only [State.dispatch]
    split
    · exact h.congr rfl rfl
    · exact h
  | connected => exact h.becomes .connected
  | disconnected => exact h.becomes .disconnected
  | loggedOut reason => exact ⟨rfl, h.operations⟩
  | history messages => exact h

theorem sealed_of_step (h : Sealed s) (hs : Step setup s m s') : Sealed s' := by
  cases hs with
  | call call =>
    refine ⟨by cases call <;> exact h.revoked, fun o ho => ?_⟩
    cases call <;>
    · rcases List.mem_append.1 ho with ho | ho
      · exact h.operations o ho
      · obtain rfl := List.mem_singleton.1 ho
        rfl
  | start hi hs => exact sealed_of_startStep h (h.operations _ (List.mem_of_getElem? hi)) hs
  | stop _ hs => exact sealed_of_stopStep h hs
  | send _ hs => exact sealed_of_sendStep h hs
  | @take c d e rest =>
    have hrest : Sealed (s.onClient c fun d => { d with queue := rest }) := h.congr rfl rfl
    exact hrest.dispatch c d.own e
  | prepared _ _ hs => cases hs <;> exact h.congr rfl rfl
  | _ => exact h.congr rfl rfl

/-- A revocation that no start can overwrite is shown for good. -/
theorem sealed_of_run (h : Sealed s) {moves : List Move} (hrun : exec setup s moves = some s') :
    Sealed s' := by
  rw [exec_eq_follow] at hrun
  exact follow_invariant (Q := fun _ => True)
    (fun h _ hstep => sealed_of_step h (step_inv hstep)) h (fun _ _ => trivial) hrun

end

/-! ## One start -/

/-- The operation is a start in flight. -/
def Operation.isStart : Operation → Bool
  | .start _ _ => true
  | _ => false

/-- No start but operation `i` is in flight. -/
def OnlyStart (i : Nat) (s : State) : Prop :=
  ∀ j o, j ≠ i → s.operations[j]? = some o → o.isStart = false

section

variable {setup : Setup} {s s' s₁ : State} {m : Move} {i k token : Nat} {answer : Answer}

theorem OnlyStart.set (h : OnlyStart i s) {o : Operation}
    (hoperations : s'.operations = s.operations.set k o) (ho : k = i ∨ o.isStart = false) :
    OnlyStart i s' := by
  intro j o' hj hj'
  rw [hoperations, List.getElem?_set] at hj'
  split at hj'
  · rename_i hkj
    rcases ho with rfl | ho
    · exact absurd hkj.symm hj
    · split at hj'
      · cases hj'
        exact ho
      · cases hj'
  · exact h j o' hj hj'

theorem OnlyStart.congr (h : OnlyStart i s) (hoperations : s'.operations = s.operations) :
    OnlyStart i s' := by
  intro j o hj hj'
  rw [hoperations] at hj'
  exact h j o hj hj'

theorem OnlyStart.append (h : OnlyStart i s) {o : Operation}
    (hoperations : s'.operations = s.operations ++ [o]) (ho : o.isStart = false) :
    OnlyStart i s' := by
  intro j o' hj hj'
  rw [hoperations, List.getElem?_append] at hj'
  split at hj'
  · exact h j o' hj hj'
  · obtain rfl := List.mem_singleton.1 (List.mem_of_getElem? hj')
    exact ho

theorem operations_of_releaseStep {point : ReleasePoint} {next : Option ReleasePoint}
    (h : ReleaseStep s point s₁ next) : s₁.operations = s.operations := by
  cases h <;> rfl

theorem operations_of_startStep {point : StartPoint}
    (h : StartStep setup s i token point answer s') :
    s'.operations = s.operations ∨ ∃ o, s'.operations = s.operations.set i o := by
  cases h with
  | releasing h =>
    rw [← operations_of_releaseStep h]
    exact .inr ⟨_, rfl⟩
  | released h =>
    rw [← operations_of_releaseStep h]
    unfold State.startReleased
    dsimp only
    split <;> exact .inr ⟨_, rfl⟩
  | makeDir =>
    unfold State.makeStoreDir
    split <;> exact .inr ⟨_, rfl⟩
  | opened =>
    unfold State.welcome
    dsimp only
    split <;> exact .inr ⟨_, rfl⟩
  | code => exact .inl rfl
  | _ => exact .inr ⟨_, rfl⟩

theorem operations_of_stopStep {point : StopPoint} (h : StopStep s i point answer s') :
    ∃ o : Operation, s'.operations = s.operations.set i o ∧ o.isStart = false := by
  cases h with
  | checked => exact ⟨_, rfl, rfl⟩
  | releasing h =>
    rw [← operations_of_releaseStep h]
    exact ⟨_, rfl, rfl⟩
  | released h =>
    rw [← operations_of_releaseStep h]
    exact ⟨_, rfl, rfl⟩

theorem operations_of_sendStep {message : OutboundMessage} {point : SendPoint}
    (h : SendStep s i message point answer s') :
    ∃ o : Operation, s'.operations = s.operations.set i o ∧ o.isStart = false := by
  cases h <;> exact ⟨_, rfl, rfl⟩

theorem operations_dispatch (c : Nat) (own : Option Address) (e : Event) :
    (s.dispatch c own e).operations = s.operations := by
  cases e with
  | message message =>
    simp only [State.dispatch]
    split <;> rfl
  | _ => rfl

theorem onlyStart_of_step (h : OnlyStart i s ∧ i < s.operations.length)
    (hm : ∀ t, m ≠ .call (.start t)) (hs : Step setup s m s') :
    OnlyStart i s' ∧ i < s'.operations.length := by
  obtain ⟨honly, hlength⟩ := h
  have same : s'.operations = s.operations → OnlyStart i s' ∧ i < s'.operations.length := by
    intro hoperations
    exact ⟨honly.congr hoperations, hoperations ▸ hlength⟩
  have changed : ∀ k o, s'.operations = s.operations.set k o → k = i ∨ o.isStart = false →
      OnlyStart i s' ∧ i < s'.operations.length := by
    intro k o hoperations ho
    refine ⟨honly.set hoperations ho, ?_⟩
    rw [hoperations, List.length_set]
    exact hlength
  have called : ∀ o, s'.operations = s.operations ++ [o] → o.isStart = false →
      OnlyStart i s' ∧ i < s'.operations.length := by
    intro o hoperations ho
    refine ⟨honly.append hoperations ho, ?_⟩
    rw [hoperations, List.length_append]
    omega
  cases hs with
  | call call =>
    cases call with
    | start t => exact absurd rfl (hm t)
    | stop => exact called _ rfl rfl
    | send message => exact called _ rfl rfl
  | @start k _ _ _ _ hk hs =>
    have hki : k = i := by
      refine Classical.byContradiction fun hki => ?_
      cases honly k _ hki hk
    rcases operations_of_startStep hs with hoperations | ⟨o, hoperations⟩
    · exact same hoperations
    · exact changed k o hoperations (.inl hki)
  | stop _ hs =>
    obtain ⟨o, hoperations, ho⟩ := operations_of_stopStep hs
    exact changed _ o hoperations (.inr ho)
  | send _ hs =>
    obtain ⟨o, hoperations, ho⟩ := operations_of_sendStep hs
    exact changed _ o hoperations (.inr ho)
  | take => exact same (operations_dispatch _ _ _)
  | prepared _ _ hs => cases hs <;> exact same rfl
  | _ => exact same rfl

theorem sealed_of_finished (honly : OnlyStart i s) {result : Except ChannelError Unit}
    (hdone : s.operations[i]? = some (.finished result)) (hrevoked : s.connection = .loggedOut) :
    Sealed s := by
  refine ⟨hrevoked, fun o ho => ?_⟩
  obtain ⟨j, hj⟩ := List.mem_iff_getElem?.1 ho
  by_cases hji : j = i
  · rw [hji, hdone] at hj
    cases hj
    rfl
  · have hnot := honly j o hji hj
    cases o with
    | start t point => cases hnot
    | _ => rfl

/-- A start has passed its check, no other is under way, and it comes to its end after revocations
were reported. Then the connection shows the revocation exactly if the last of them came after the
last time that the start set the connection; and if it does, it does so for good. -/
theorem revocation_lasts_iff {moves : List Move} {result : Except ChannelError Unit}
    (hstart : s.operations[i]? = some (.start token (.release .token)))
    (honly : OnlyStart i s) (hcalls : ∀ m ∈ moves, ∀ t, m ≠ .call (.start t))
    (hrun : exec setup s moves = some s') (hdone : s'.operations[i]? = some (.finished result))
    (hrevoked : .revoked ∈ observe (step setup) marks s moves) :
    (s'.connection = .loggedOut ↔
      (observe (step setup) marks s moves).getLast? = some .revoked) ∧
      (s'.connection = .loggedOut → ∀ later s'', exec setup s' later = some s'' →
        s''.connection = .loggedOut) := by
  have hlength : i < s.operations.length := (List.getElem?_eq_some_iff.1 hstart).1
  rw [exec_eq_follow] at hrun
  constructor
  · -- There are marks, so what the connection showed before does not count.
    rw [revoked_iff_last hrun, shows]
    cases hlast : (observe (step setup) marks s moves).getLast? with
    | none =>
      rw [List.getLast?_eq_none_iff.1 hlast] at hrevoked
      cases hrevoked
    | some m => simp
  · -- No other start has come up, and this one is over.
    intro hshown later s'' hlater
    have honly' := follow_invariant
      (fun h hm hstep => onlyStart_of_step h hm (step_inv hstep)) ⟨honly, hlength⟩ hcalls hrun
    exact (sealed_of_run (sealed_of_finished honly'.1 hdone hshown) hlater).revoked

end

/-- A transport whose first start has just passed its check. -/
def startChecked : State :=
  { State.initial (.new channelName []) .empty with operations := [.start 0 (.release .token)] }

/-- The session of a paired client is revoked while it connects. -/
def revokedLast : List Move :=
  [.resume 0 .ready, .resume 0 .ready, .resume 0 (.opened (some (.ofAccount "me" "s"))),
    .emit 0 (.loggedOut "revoked"), .take 0, .resume 0 .ready, .resume 0 .ready, .resume 0 .ready]

/-- The session of a client without an account is revoked while it connects to pair. -/
def revokedThenPaired : List Move :=
  [.resume 0 .ready, .resume 0 .ready, .resume 0 (.opened none), .resume 0 .ready,
    .emit 0 (.loggedOut "revoked"), .take 0, .resume 0 .ready, .resume 0 (.pairing .success),
    .resume 0 .ready, .resume 0 .ready]

theorem onlyStart_startChecked : OnlyStart 0 startChecked := by
  intro j o hj hj'
  obtain ⟨j, rfl⟩ := Nat.exists_eq_succ_of_ne_zero hj
  simp [startChecked] at hj'

theorem revokedLast_lasts : ∃ s', exec plainSetup startChecked revokedLast = some s' ∧
    ∀ later s'', exec plainSetup s' later = some s'' → s''.connection = .loggedOut := by
  have hcalls : ∀ m ∈ revokedLast, ∀ t, m ≠ .call (.start t) := by simp [revokedLast]
  have hmarks : .revoked ∈ observe (step plainSetup) marks startChecked revokedLast := by
    decide +kernel
  have hlast : (observe (step plainSetup) marks startChecked revokedLast).getLast? =
      some .revoked := by decide +kernel
  refine ⟨_, rfl, ?_⟩
  have hstart : startChecked.operations[0]? = some (.start 0 (.release .token)) := rfl
  have hlasts := revocation_lasts_iff hstart onlyStart_startChecked hcalls rfl rfl hmarks
  exact hlasts.2 (hlasts.1.2 hlast)

/-- A start can lose a revocation that came after its check. -/
theorem revocation_overwritten : ∃ s', exec plainSetup startChecked revokedThenPaired = some s' ∧
    s'.operations[0]? = some (.finished (.ok ())) ∧
    .revoked ∈ observe (step plainSetup) marks startChecked revokedThenPaired ∧
    s'.connection = .connected := by
  have hmarks : .revoked ∈ observe (step plainSetup) marks startChecked revokedThenPaired := by
    decide +kernel
  exact ⟨_, rfl, rfl, hmarks, rfl⟩

end ChatChannel.Native
