import ChatChannel.Proofs.Native.Logout

/-!
# ChatChannel.Proofs.Native.FailedStart

What a start leaves behind when it fails. Revocations aside, the connection shows what a
dispatcher, a stop or a start has set it to last (`statuses`). A start lets go of the held client
first, and then sets the connection to connecting; it sets it back only if it fails with a client of
its own.

* `status_of_run`: the connection shows the last status, if it does not show a revocation.
* `underway_of_step`: a start that has let go of the held client holds none before it succeeds.
* `failed_start_clean_iff`: when a failed start leaves the connection as it should be.
* `failed_start_connecting`: a run in which it does not.
-/

namespace ChatChannel.Native

/-- What a start that goes on sets the connection to. -/
def startStatuses (s : State) : StartPoint → Answer → List ConnectionState
  | .release point, .ready => if (s.releaseFrom point).2 = none then [.connecting] else []
  | .connecting _ false, .ready => [.connected]
  | .connecting _ true, .ready => [.awaitingPairing]
  | .pairing _ _, .pairing .success => [.connected]
  | .abandoning _ _, .ready => [.disconnected]
  | _, _ => []

/-- What a move sets the connection to, revocations aside. -/
def statuses (s : State) : Move → List ConnectionState
  | .take c =>
    match s.queueOf c with
    | .connected :: _ => [.connected]
    | .disconnected :: _ => [.disconnected]
    | _ => []
  | .resume i answer =>
    match s.operations[i]?, answer with
    | some (.start _ point), answer => startStatuses s point answer
    | some (.stop (.release point)), .ready =>
      if (s.releaseFrom point).2 = none then [.disconnected] else []
    | _, _ => []
  | _ => []

section

variable {setup : Setup} {s s' s₁ : State} {m : Move} {i token : Nat} {answer : Answer}

/-! ## The connection shows the last status -/

theorem becomes_shown {next : ConnectionState} (h : (s.becomes next).connection ≠ .loggedOut) :
    (s.becomes next).connection = next := by
  by_cases hs : s.connection = .loggedOut
  · exact absurd (by simp [State.becomes, ConnectionState.unlessLoggedOut, hs]) h
  · simp [State.becomes, ConnectionState.unlessLoggedOut, hs]

theorem becomes_eq (s : State) (next : ConnectionState) :
    (s.becomes next).connection = next ∨ (s.becomes next).connection = .loggedOut := by
  by_cases h : (s.becomes next).connection = .loggedOut
  · exact .inr h
  · exact .inl (becomes_shown h)

theorem status_of_startStep {point : StartPoint} (h : StartStep setup s i token point answer s')
    (hshown : s'.connection ≠ .loggedOut) :
    s'.connection = (startStatuses s point answer).getLast?.getD s.connection := by
  cases h with
  | releasing h =>
    rw [← connection_of_releaseStep h]
    simp only [startStatuses, releaseFrom_eq h, reduceCtorEq, if_false]
    rfl
  | released h =>
    rw [connection_startReleased]
    simp only [startStatuses, releaseFrom_eq h, if_true]
    rfl
  | makeDir => exact connection_makeStoreDir
  | opened => exact connection_welcome
  | connected => exact becomes_shown hshown
  | paired => exact becomes_shown hshown
  | abandoned => exact becomes_shown hshown
  | _ => rfl

theorem status_of_stopStep {point : StopPoint} (hi : s.operations[i]? = some (.stop point))
    (h : StopStep s i point answer s') (hshown : s'.connection ≠ .loggedOut) :
    s'.connection = (statuses s (.resume i answer)).getLast?.getD s.connection := by
  simp only [statuses, hi]
  cases h with
  | checked => rfl
  | releasing h =>
    rw [← connection_of_releaseStep h]
    simp only [releaseFrom_eq h, reduceCtorEq, if_false]
    rfl
  | released h =>
    simp only [releaseFrom_eq h, if_true]
    exact becomes_shown hshown

theorem status_of_step (h : Step setup s m s') (hshown : s'.connection ≠ .loggedOut) :
    s'.connection = (statuses s m).getLast?.getD s.connection := by
  cases h with
  | call call => cases call <;> rfl
  | start hi h => simp only [statuses, hi, status_of_startStep h hshown]
  | stop hi h => exact status_of_stopStep hi h hshown
  | send hi h =>
    simp only [statuses, hi]
    exact connection_of_sendStep h
  | @take c d e rest hc _ hq =>
    have hqueue : s.queueOf c = e :: rest := by rw [queueOf_eq hc, hq]
    simp only [statuses, hqueue]
    cases e with
    | message message =>
      simp only [State.dispatch]
      split <;> rfl
    | connected => exact becomes_shown hshown
    | disconnected => exact becomes_shown hshown
    | loggedOut reason => exact absurd rfl hshown
    | history messages => rfl
  | prepared _ _ h => exact connection_of_prepareStep h
  | _ => rfl

/-- The connection shows the last status of a run, if it does not show a revocation. -/
theorem status_of_run {moves : List Move} (hrun : follow (step setup) s moves = some s')
    (hshown : s'.connection ≠ .loggedOut) :
    s'.connection = (observe (step setup) statuses s moves).getLast?.getD s.connection := by
  induction moves generalizing s with
  | nil =>
    simp only [follow, Option.some.injEq] at hrun
    simp [observe, hrun]
  | cons m rest ih =>
    obtain ⟨s₁, hm, hrest⟩ := follow_cons.1 hrun
    have hlater := ih hrest
    rw [observe_cons hm, List.getLast?_append]
    cases hlast : (observe (step setup) statuses s₁ rest).getLast? with
    | some status => simpa [hlast] using hlater
    | none =>
      -- Nothing was set later, so the step has set what is shown.
      have hsame : s'.connection = s₁.connection := by simpa [hlast] using hlater
      rw [hsame] at hshown ⊢
      exact status_of_step (step_inv hm) hshown

/-! ## The course of a start -/

/-- The start has let go of the client that was held, and it has not got one of its own to hold. -/
def StartPoint.isReleased : StartPoint → Bool
  | .check => false
  | .release (.disconnecting _) => true
  | .release _ => false
  | .holdToken _ => false
  | _ => true

/-- Operation `i` is past its check if it is a start, and there is no other start in flight. -/
structure Underway (i : Nat) (s : State) : Prop where
  only : OnlyStart i s
  known : i < s.operations.length
  checked : ∀ token, s.operations[i]? ≠ some (.start token .check)
  released : ∀ token point, s.operations[i]? = some (.start token point) →
    point.isReleased = true → s.held = none

theorem held_of_releaseStep {point : ReleasePoint} {next : Option ReleasePoint}
    (h : ReleaseStep s point s₁ next) : s₁.held = s.held ∨ s₁.held = none := by
  cases h with
  | client => exact .inr rfl
  | _ => exact .inl rfl

theorem held_of_released {point : ReleasePoint} (h : ReleaseStep s point s₁ none)
    (hreleased : (StartPoint.release point).isReleased = true → s.held = none) :
    s₁.held = none := by
  cases h with
  | noClient hh => exact hh
  | disconnected => exact hreleased rfl

theorem held_startReleased : (s.startReleased setup i token).held = s.held := by
  unfold State.startReleased
  split <;> rfl

theorem held_makeStoreDir {dir : String} : (s.makeStoreDir setup i token dir).held = s.held := by
  unfold State.makeStoreDir
  split <;> rfl

theorem held_welcome {own : Option Address} : (s.welcome i token own).held = s.held := by
  unfold State.welcome
  split <;> rfl

/-- Operation `i` is changed to something else than a start before its check. -/
def ChangedTo (i : Nat) (s s' : State) (o : Operation) : Prop :=
  s'.operations = s.operations.set i o ∧ ∀ t, o ≠ .start t .check

theorem placed_startReleased (setup : Setup) (s : State) (i token : Nat) : ∃ p,
    (s.startReleased setup i token).operations = s.operations.set i (.start token p) ∧
      p.isReleased = true := by
  unfold State.startReleased
  dsimp only
  split <;> exact ⟨_, rfl, rfl⟩

theorem changed_makeStoreDir {dir : String} :
    ∃ o, ChangedTo i s (s.makeStoreDir setup i token dir) o := by
  unfold State.makeStoreDir
  split <;> exact ⟨_, rfl, by simp⟩

theorem placed_welcome (s : State) (i token : Nat) (own : Option Address) : ∃ p,
    (s.welcome i token own).operations = s.operations.set i (.start token p) ∧
      p.isReleased = true := by
  unfold State.welcome
  dsimp only
  split <;> exact ⟨_, rfl, rfl⟩

theorem not_check_of_released {p : StartPoint} (hp : p.isReleased = true) (t : Nat) :
    Operation.start token p ≠ .start t .check := by
  rintro ⟨⟩
  cases hp

/-- A start does not come back to its check, and holds no client at the points where it has let go
of the one that was held. -/
theorem released_of_startStep {point : StartPoint}
    (h : StartStep setup s i token point answer s')
    (hreleased : point.isReleased = true → s.held = none) :
    (s'.operations = s.operations ∧ s'.held = s.held) ∨
      ∃ o, ChangedTo i s s' o ∧
        ∀ t p, o = .start t p → p.isReleased = true → s'.held = none := by
  have keep : (∃ o, ChangedTo i s s' o) → s'.held = s.held → point.isReleased = true →
      (s'.operations = s.operations ∧ s'.held = s.held) ∨
        ∃ o, ChangedTo i s s' o ∧
          ∀ t p, o = .start t p → p.isReleased = true → s'.held = none := by
    rintro ⟨o, ho⟩ hheld hpoint
    exact .inr ⟨o, ho, fun _ _ _ _ => hheld.trans (hreleased hpoint)⟩
  cases h with
  | refused => exact .inr ⟨_, ⟨rfl, by simp⟩, by simp⟩
  | checked => exact .inr ⟨_, ⟨rfl, by simp⟩, by rintro t p ⟨⟩ ⟨⟩⟩
  | @releasing point next s₁ h =>
    refine .inr ⟨.start token (.release next), ⟨?_, by simp⟩, ?_⟩
    · rw [← operations_of_releaseStep h]
      rfl
    · rintro t p ⟨⟩ hp
      cases h with
      | noToken => cases hp
      | token => cases hp
      | client => rfl
  | @released point s₁ h =>
    have hheld : (s₁.startReleased setup i token).held = none :=
      held_startReleased.trans (held_of_released h hreleased)
    obtain ⟨p, hp, hafter⟩ := placed_startReleased setup s₁ i token
    rw [operations_of_releaseStep h] at hp
    exact .inr ⟨_, ⟨hp, not_check_of_released hafter⟩, fun _ _ _ _ => hheld⟩
  | makeDir => exact keep changed_makeStoreDir held_makeStoreDir rfl
  | opened =>
    obtain ⟨p, hp, hafter⟩ := placed_welcome s i token _
    exact keep ⟨_, hp, not_check_of_released hafter⟩ held_welcome rfl
  | code => exact .inl ⟨rfl, rfl⟩
  | heldClient => exact .inr ⟨_, ⟨rfl, by simp⟩, by rintro t p ⟨⟩ ⟨⟩⟩
  | heldToken => exact .inr ⟨_, ⟨rfl, by simp⟩, by simp⟩
  | _ => exact keep ⟨_, rfl, by simp⟩ rfl rfl

theorem held_of_stopStep {point : StopPoint} (h : StopStep s i point answer s') :
    s'.held = s.held ∨ s'.held = none := by
  cases h with
  | checked => exact .inl rfl
  | releasing h =>
    have hheld := held_of_releaseStep h
    exact hheld
  | released h =>
    have hheld := held_of_releaseStep h
    exact hheld

theorem held_dispatch (c : Nat) (own : Option Address) (e : Event) :
    (s.dispatch c own e).held = s.held := by
  cases e with
  | message message =>
    simp only [State.dispatch]
    split <;> rfl
  | _ => rfl

theorem start_of_set {k : Nat} {o : Operation} {point : StartPoint} (ho : o.isStart = false)
    (h : (s.operations.set k o)[i]? = some (.start token point)) :
    s.operations[i]? = some (.start token point) := by
  rw [List.getElem?_set] at h
  split at h
  · split at h
    · cases h
      cases ho
    · cases h
  · exact h

/-- Where the only start in flight comes from: it has made the step itself, or the step was made by
something else, which cannot get a client. -/
theorem start_origin (h : Underway i s) (hm : ∀ t, m ≠ .call (.start t))
    (hs : Step setup s m s') {point : StartPoint}
    (hi' : s'.operations[i]? = some (.start token point)) :
    (s.operations[i]? = some (.start token point) ∧ (s'.held = s.held ∨ s'.held = none)) ∨
      ∃ t p answer, s.operations[i]? = some (.start t p) ∧ StartStep setup s i t p answer s' := by
  cases hs with
  | call call =>
    refine .inl ⟨?_, .inl (by cases call <;> rfl)⟩
    cases call with
    | start t => exact absurd rfl (hm t)
    | stop => rwa [State.begin, List.getElem?_append_left h.known] at hi'
    | send message => rwa [State.begin, List.getElem?_append_left h.known] at hi'
  | @start k t p answer _ hk hs =>
    have hki : k = i := by
      refine Classical.byContradiction fun hki => ?_
      cases h.only k _ hki hk
    subst hki
    exact .inr ⟨t, p, answer, hk, hs⟩
  | stop _ hs =>
    obtain ⟨o, hoperations, ho⟩ := operations_of_stopStep hs
    rw [hoperations] at hi'
    exact .inl ⟨start_of_set ho hi', held_of_stopStep hs⟩
  | send _ hs =>
    obtain ⟨o, hoperations, ho⟩ := operations_of_sendStep hs
    rw [hoperations] at hi'
    exact .inl ⟨start_of_set ho hi', .inl (by cases hs <;> rfl)⟩
  | take =>
    rw [operations_dispatch] at hi'
    exact .inl ⟨hi', .inl (held_dispatch _ _ _)⟩
  | prepared _ _ hs => cases hs <;> exact .inl ⟨hi', .inl rfl⟩
  | _ => exact .inl ⟨hi', .inl rfl⟩

theorem operation_of_changed (hknown : i < s.operations.length) {o o' : Operation}
    (ho : ChangedTo i s s' o) (hi' : s'.operations[i]? = some o') : o' = o := by
  rw [ho.1, List.getElem?_set_self hknown] at hi'
  exact (Option.some.inj hi').symm

/-- A start that has let go of the held client holds none before it succeeds, whatever dispatchers,
stops and sends do. -/
theorem underway_of_step (h : Underway i s) (hm : ∀ t, m ≠ .call (.start t))
    (hs : Step setup s m s') : Underway i s' := by
  obtain ⟨honly, hknown⟩ := onlyStart_of_step ⟨h.only, h.known⟩ hm hs
  have hstart : ∀ t p, s'.operations[i]? = some (.start t p) →
      p ≠ .check ∧ (p.isReleased = true → s'.held = none) := by
    intro t p hi'
    rcases start_origin h hm hs hi' with ⟨hi, hheld⟩ | ⟨t₀, p₀, answer, hi, hstep⟩
    · refine ⟨fun hp => h.checked t (hp ▸ hi), fun hp => ?_⟩
      rcases hheld with hheld | hheld
      · exact hheld.trans (h.released t p hi hp)
      · exact hheld
    · rcases released_of_startStep hstep (h.released t₀ p₀ hi) with
        ⟨hoperations, hheld⟩ | ⟨o, ho, hreleased⟩
      · rw [hoperations] at hi'
        exact ⟨fun hp => h.checked t (hp ▸ hi'),
          fun hp => hheld.trans (h.released t p hi' hp)⟩
      · obtain rfl := operation_of_changed h.known ho hi'
        exact ⟨fun hp => ho.2 t (by rw [hp]), hreleased t p rfl⟩
  exact ⟨honly, hknown, fun t hi' => (hstart t _ hi').1 rfl, fun t p hi' => (hstart t p hi').2⟩

theorem underway_of_run (h : Underway i s) {moves : List Move}
    (hcalls : ∀ m ∈ moves, ∀ t, m ≠ .call (.start t))
    (hrun : follow (step setup) s moves = some s') : Underway i s' :=
  follow_invariant (fun h hm hstep => underway_of_step h hm (step_inv hstep)) h hcalls hrun

/-! ## The end of a start -/

/-- An operation is where it was unless it goes on itself. -/
theorem operation_of_step {o : Operation} (hi : s.operations[i]? = some o)
    (hm : ∀ answer, m ≠ .resume i answer) (hs : Step setup s m s') :
    s'.operations[i]? = some o := by
  have other : ∀ k o', k ≠ i → s'.operations = s.operations.set k o' →
      s'.operations[i]? = some o := by
    intro k o' hk hoperations
    rwa [hoperations, List.getElem?_set_ne hk]
  have resumed : ∀ k answer, m = .resume k answer → k ≠ i := by
    rintro k answer hk rfl
    exact hm answer hk
  cases hs with
  | call call =>
    have hknown : i < s.operations.length := (List.getElem?_eq_some_iff.1 hi).1
    cases call <;> rwa [State.begin, List.getElem?_append_left hknown]
  | start hk hs =>
    rcases operations_of_startStep hs with hoperations | ⟨o', hoperations⟩
    · rwa [hoperations]
    · exact other _ o' (resumed _ _ rfl) hoperations
  | stop hk hs =>
    obtain ⟨o', hoperations, -⟩ := operations_of_stopStep hs
    exact other _ o' (resumed _ _ rfl) hoperations
  | send hk hs =>
    obtain ⟨o', hoperations, -⟩ := operations_of_sendStep hs
    exact other _ o' (resumed _ _ rfl) hoperations
  | take => rwa [operations_dispatch]
  | prepared _ _ hs => cases hs <;> exact hi
  | _ => exact hi

/-- A start is where it was unless it makes a step of its own. -/
theorem kept_or_startStep {point : StartPoint}
    (hi : s.operations[i]? = some (.start token point)) (hs : Step setup s m s') :
    s'.operations[i]? = some (.start token point) ∨
      ∃ answer, m = .resume i answer ∧ StartStep setup s i token point answer s' := by
  by_cases hm : ∃ answer, m = .resume i answer
  · obtain ⟨answer, rfl⟩ := hm
    refine .inr ⟨answer, rfl, ?_⟩
    cases hs with
    | start hk hs => rw [hi] at hk; cases hk; exact hs
    | stop hk _ => rw [hi] at hk; cases hk
    | send hk _ => rw [hi] at hk; cases hk
  · exact .inl (operation_of_step hi (fun answer h => hm ⟨answer, h⟩) hs)

/-- A start that fails after its check gives the connection back only if it had a client of its
own. -/
theorem failure_of_startStep {point : StartPoint} {error : ChannelError}
    (hi : s.operations[i]? = some (.start token point)) (hcheck : point ≠ .check)
    (h : StartStep setup s i token point answer s')
    (hfailed : s'.operations[i]? = some (.finished (.error error))) :
    (point.isReleased = true ∧ ∀ p, point ≠ .release p) ∧ s'.held = s.held ∧
      (((∃ c, point = .abandoning c error) ∧
          s'.connection = (s.becomes .disconnected).connection) ∨
        ((∀ c, point ≠ .abandoning c error) ∧ s'.connection = s.connection)) := by
  have hknown : i < s.operations.length := (List.getElem?_eq_some_iff.1 hi).1
  have notFailed : ∀ o, s'.operations = s.operations.set i o →
      (∀ e, o ≠ .finished (.error e)) → False := by
    intro o hoperations ho
    rw [hoperations, List.getElem?_set_self hknown] at hfailed
    exact ho error (Option.some.inj hfailed)
  cases h with
  | refused => exact absurd rfl hcheck
  | checked => exact absurd rfl hcheck
  | releasing h =>
    rw [← operations_of_releaseStep h] at notFailed
    exact (notFailed _ rfl (by simp)).elim
  | @released _ s₁ h =>
    rw [← operations_of_releaseStep h] at notFailed
    obtain ⟨p, hp, -⟩ := placed_startReleased setup s₁ i token
    exact (notFailed _ hp (by simp)).elim
  | makeDir => exact ⟨⟨rfl, by simp⟩, held_makeStoreDir, .inr ⟨by simp, connection_makeStoreDir⟩⟩
  | opened =>
    obtain ⟨p, hp, -⟩ := placed_welcome s i token _
    exact (notFailed _ hp (by simp)).elim
  | notOpened => exact ⟨⟨rfl, by simp⟩, rfl, .inr ⟨by simp, rfl⟩⟩
  | code => rw [State.record, hi] at hfailed; cases hfailed
  | @abandoned c e =>
    rw [State.finish, State.setOperation, State.becomes, List.getElem?_set_self hknown] at hfailed
    cases hfailed
    exact ⟨⟨rfl, by simp⟩, rfl, .inl ⟨⟨c, rfl⟩, rfl⟩⟩
  | _ => exact (notFailed _ rfl (by simp)).elim

/-- A start that has gone on from its release has made the notes that the end of a release makes. -/
theorem noted_of_left {α : Type} (note : State → Move → List α)
    (hnote : ∀ {t t₁ : State} {token : Nat} {p : ReleasePoint},
      t.operations[i]? = some (.start token (.release p)) → ReleaseStep t p t₁ none →
        note t (.resume i .ready) ≠ [])
    {moves : List Move} {p : ReleasePoint} {token' : Nat} {point : StartPoint}
    (hstart : s.operations[i]? = some (.start token (.release p)))
    (hrun : follow (step setup) s moves = some s')
    (hend : s'.operations[i]? = some (.start token' point)) (hleft : ∀ p, point ≠ .release p) :
    observe (step setup) note s moves ≠ [] := by
  intro hnone
  have hkeep : ∃ token p, s'.operations[i]? = some (.start token (.release p)) := by
    refine follow_unbarred
      (P := fun t : State => ∃ token p, t.operations[i]? = some (.start token (.release p)))
      note ?_ ⟨token, p, hstart⟩ hnone hrun
    rintro t m t' ⟨token, p, hi⟩ hunnoted hstep
    rcases kept_or_startStep hi (step_inv hstep) with hkept | ⟨answer, rfl, hs⟩
    · exact ⟨token, p, hkept⟩
    · have hknown : i < t.operations.length := (List.getElem?_eq_some_iff.1 hi).1
      cases hs with
      | @releasing _ next t₁ h =>
        rw [← operations_of_releaseStep h] at hknown
        exact ⟨token, next, List.getElem?_set_self hknown⟩
      | released h => exact absurd hunnoted (hnote hi h)
  obtain ⟨t, p, hi⟩ := hkeep
  rw [hend] at hi
  cases hi
  exact hleft p rfl

theorem shows_of_ne_nil {before : Bool} {ms : List Mark} (h : ms ≠ []) :
    shows before ms = true ↔ ms.getLast? = some .revoked := by
  unfold shows
  cases hlast : ms.getLast? with
  | none => exact absurd (List.getLast?_eq_none_iff.1 hlast) h
  | some m => simp

/-- A start that has passed its check fails, with no other start under way. Then no client is held;
and the connection shows a revocation that was reported meanwhile, or else that it is disconnected,
exactly if the last revocation was not overwritten, and without one if the start had opened a client
or a dispatcher or a stop was the last to set the connection, to disconnected. -/
theorem failed_start_clean_iff {moves : List Move} {token' : Nat} {point : StartPoint}
    {error : ChannelError}
    (hstart : s.operations[i]? = some (.start token (.release .token)))
    (honly : OnlyStart i s) (hcalls : ∀ m ∈ moves, ∀ t, m ≠ .call (.start t))
    (hrun : exec setup s moves = some s₁)
    (hpoint : s₁.operations[i]? = some (.start token' point))
    (hlast : step setup s₁ m = some s')
    (hfailed : s'.operations[i]? = some (.finished (.error error))) :
    s'.held = none ∧
      ((s'.connection = if .revoked ∈ observe (step setup) marks s moves then .loggedOut
          else .disconnected) ↔
        if .revoked ∈ observe (step setup) marks s moves then
          (observe (step setup) marks s moves).getLast? = some .revoked
        else (∃ c, point = .abandoning c error) ∨
          (observe (step setup) statuses s moves).getLast? = some .disconnected) ∧
      ((∃ c, point = .abandoning c error) →
        s'.connection = .disconnected ∨ s'.connection = .loggedOut) := by
  rw [exec_eq_follow] at hrun
  have hunder : Underway i s₁ := by
    refine underway_of_run ⟨honly, (List.getElem?_eq_some_iff.1 hstart).1, ?_, ?_⟩ hcalls hrun
    · simp [hstart]
    · rintro t p hi hp
      rw [hstart] at hi
      cases hi
      cases hp
  obtain ⟨answer, rfl, hstep⟩ : ∃ answer, m = .resume i answer ∧
      StartStep setup s₁ i token' point answer s' := by
    rcases kept_or_startStep hpoint (step_inv hlast) with hkept | hstep
    · rw [hfailed] at hkept
      cases hkept
    · exact hstep
  have hcheck : point ≠ .check := fun h => hunder.checked token' (h ▸ hpoint)
  obtain ⟨⟨hreleased, hleft⟩, hheld, hend⟩ :=
    failure_of_startStep hpoint hcheck hstep hfailed
  have hmarked : observe (step setup) marks s moves ≠ [] := by
    refine noted_of_left marks ?_ hstart hrun hpoint hleft
    intro t t₁ token p hi h
    simp [marks, hi, startMarks, releaseFrom_eq h]
  have hset : observe (step setup) statuses s moves ≠ [] := by
    refine noted_of_left statuses ?_ hstart hrun hpoint hleft
    intro t t₁ token p hi h
    simp [statuses, hi, startStatuses, releaseFrom_eq h]
  have hrevoked : s₁.connection = .loggedOut ↔
      (observe (step setup) marks s moves).getLast? = some .revoked := by
    rw [revoked_iff_last hrun, shows_of_ne_nil hmarked]
  have hstatus : s₁.connection ≠ .loggedOut →
      (observe (step setup) statuses s moves).getLast? = some s₁.connection := by
    intro hshown
    obtain ⟨status, hstatus⟩ := Option.isSome_iff_exists.1 (List.getLast?_isSome.2 hset)
    rw [hstatus, status_of_run hrun hshown, hstatus, Option.getD_some]
  have hout : s'.connection = .loggedOut ↔ s₁.connection = .loggedOut := by
    rcases hend with ⟨-, hconnection⟩ | ⟨-, hconnection⟩
    · rw [hconnection]
      exact becomes_loggedOut (by simp)
    · rw [hconnection]
  have habandoned : (∃ c, point = .abandoning c error) →
      s'.connection = .disconnected ∨ s'.connection = .loggedOut := by
    intro hpoint
    rcases hend with ⟨-, hconnection⟩ | ⟨hnot, -⟩
    · by_cases hshown : s'.connection = .loggedOut
      · exact .inr hshown
      · rw [hconnection] at hshown ⊢
        exact .inl (becomes_shown hshown)
    · obtain ⟨c, hc⟩ := hpoint
      exact absurd hc (hnot c)
  refine ⟨hheld.trans (hunder.released token' point hpoint hreleased), ?_, habandoned⟩
  by_cases hreport : .revoked ∈ observe (step setup) marks s moves
  · rw [if_pos hreport, if_pos hreport, hout, hrevoked]
  · have hshown : s₁.connection ≠ .loggedOut := fun h =>
      hreport (List.mem_of_getLast? (hrevoked.1 h))
    rw [if_neg hreport, if_neg hreport]
    rcases hend with ⟨hpoint, -⟩ | ⟨hnot, hconnection⟩
    · have hgiven : s'.connection = .disconnected :=
        (habandoned hpoint).resolve_right fun h => hshown (hout.1 h)
      simp [hgiven, hpoint]
    · have hnone : ¬∃ c, point = .abandoning c error := by
        rintro ⟨c, hc⟩
        exact hnot c hc
      simp [hconnection, hstatus hshown, hnone]

end

/-- A start of a paired client whose connect fails, while the client reports to be connected. -/
def connectFails : List Move :=
  [.resume 0 .ready, .resume 0 .ready, .resume 0 (.opened (some (.ofAccount "me" "s"))),
    .emit 0 .connected, .take 0, .resume 0 (.failed "network down")]

/-- A start whose session store cannot be opened. -/
def openFails : List Move :=
  [.resume 0 .ready, .resume 0 .ready]

theorem connectFails_clean : ∃ s₁ s', exec plainSetup startChecked connectFails = some s₁ ∧
    step plainSetup s₁ (.resume 0 .ready) = some s' ∧ s'.held = none ∧
    s'.connection = .disconnected := by
  have hstart : startChecked.operations[0]? = some (.start 0 (.release .token)) := rfl
  have hcalls : ∀ m ∈ connectFails, ∀ t, m ≠ .call (.start t) := by simp [connectFails]
  have hreport : .revoked ∉ observe (step plainSetup) marks startChecked connectFails := by
    decide +kernel
  have hrun : exec plainSetup startChecked connectFails = some _ := rfl
  obtain ⟨hheld, hclean, -⟩ := failed_start_clean_iff hstart onlyStart_startChecked hcalls hrun rfl
    (m := .resume 0 .ready) rfl rfl
  rw [if_neg hreport, if_neg hreport] at hclean
  exact ⟨_, _, hrun, rfl, hheld, hclean.2 (.inl ⟨0, rfl⟩)⟩

/-- A start that fails before it has a client leaves the connection as connecting. -/
theorem failed_start_connecting : ∃ s₁ s', exec plainSetup startChecked openFails = some s₁ ∧
    step plainSetup s₁ (.resume 0 (.failed "corrupt")) = some s' ∧
    s'.operations[0]? =
      some (.finished (.error (.external "open whatsapp session store" "corrupt"))) ∧
    s'.connection = .connecting :=
  ⟨_, _, rfl, rfl, rfl, rfl⟩

end ChatChannel.Native
