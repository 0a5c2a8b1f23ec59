import ChatChannel.Proofs.Native.FailedStart
import ChatChannel.Proofs.Native.Running

/-!
# ChatChannel.Proofs.Native.Sequence

Starts and stops that come one after the other. If none is called while another one is in flight,
then between them the milestones tell whether a client is held, just as they tell whether the
channel reports to be running (`running_of_run`): a start that succeeds leaves a client held, and a
start that fails leaves none, as a stop does.

* `tenure_of_run`: where the one start or stop in flight is with the held client.
* `running_holds_iff`: so a channel that reports to be running holds a client, unless a start has
  failed since the one that made it running.
* `running_without_client`: a run in which that happens.
-/

namespace ChatChannel.Native

/-- The operation is a start or a stop in flight. -/
def Operation.isTransition : Operation → Bool
  | .start _ _ => true
  | .stop _ => true
  | .send _ _ => false
  | .finished _ => false

/-- The starts and stops in flight. -/
def State.transitions (s : State) : List Operation :=
  s.operations.filter Operation.isTransition

/-- The starts and stops that are called while another one is in flight. -/
def overlaps (s : State) : Move → List Call
  | .call (.send _) => []
  | .call c => if s.transitions.isEmpty then [] else [c]
  | _ => []

/-- Whether a milestone leaves a client held. -/
def Milestone.held? : Milestone → Option Bool
  | .started => some true
  | .failed => some false
  | .stopped => some false
  | .revoked => none

/-- Whether a client is held after milestones, if nothing is in flight. -/
def holding (before : Bool) (ms : List Milestone) : Bool :=
  (ms.filterMap Milestone.held?).getLast?.getD before

/-- Where an operation is with the held client. `kept` tells whether there was one before it. -/
def Tenure (kept : Bool) (held : Option Nat) : Operation → Prop
  | .start _ .check => held.isSome = kept
  | .start _ (.release .token) => held.isSome = kept
  | .start _ (.release .client) => held.isSome = kept
  | .start _ (.holdToken c) => held = some c
  | .start _ _ => held = none
  | .stop .check => held.isSome = kept
  | .stop (.release (.disconnecting _)) => kept = false ∧ held = none
  | .stop (.release _) => kept = false
  | .send _ _ => held.isSome = kept
  | .finished _ => held.isSome = kept

/-- At most one start or stop is in flight, and it is with the held client as it has to be after
these milestones. -/
inductive OneByOne (past : List Milestone) (s : State) : Prop where
  | rest (hnone : s.transitions = []) (hheld : s.held.isSome = holding false past)
  | one {o : Operation} (hone : s.transitions = [o])
      (htenure : Tenure (holding false past) s.held o)

theorem holding_append (before : Bool) (ms ms' : List Milestone) :
    holding before (ms ++ ms') = holding (holding before ms) ms' := by
  simp only [holding, List.filterMap_append, List.getLast?_append]
  cases (ms'.filterMap Milestone.held?).getLast? <;> rfl

section Filter

variable {α : Type} {l : List α} {p : α → Bool} {a b c : α} {i : Nat}

/-- A list has one element of a kind, and it is changed. -/
theorem filter_set_of_sole (hsole : l.filter p = [c]) (hi : l[i]? = some a) (ha : p a = true) :
    a = c ∧ (l.set i b).filter p = if p b then [b] else [] := by
  induction l generalizing i with
  | nil => cases hi
  | cons x xs ih =>
    rw [List.filter_cons] at hsole
    cases i with
    | zero =>
      obtain rfl : x = a := by simpa using hi
      rw [if_pos ha] at hsole
      obtain ⟨rfl, hrest⟩ := List.cons.inj hsole
      refine ⟨rfl, ?_⟩
      rw [List.set_cons_zero, List.filter_cons, hrest]
    | succ i =>
      have hi : xs[i]? = some a := by simpa using hi
      split at hsole
      · -- Then there would be two.
        obtain ⟨-, hrest⟩ := List.cons.inj hsole
        have hmem : a ∈ xs.filter p := List.mem_filter.2 ⟨List.mem_of_getElem? hi, ha⟩
        rw [hrest] at hmem
        cases hmem
      · rename_i hx
        obtain ⟨heq, hset⟩ := ih hsole hi
        refine ⟨heq, ?_⟩
        rw [List.set_cons_succ, List.filter_cons, if_neg hx, hset]

/-- An element of another kind is changed to one of another kind. -/
theorem filter_set_of_other (hi : l[i]? = some a) (ha : p a = false) (hb : p b = false) :
    (l.set i b).filter p = l.filter p := by
  induction l generalizing i with
  | nil => cases hi
  | cons x xs ih =>
    cases i with
    | zero =>
      obtain rfl : x = a := by simpa using hi
      simp [ha, hb]
    | succ i =>
      have hi : xs[i]? = some a := by simpa using hi
      rw [List.set_cons_succ, List.filter_cons, List.filter_cons, ih hi]

theorem set_of_getElem? (hi : l[i]? = some a) : l.set i a = l := by
  obtain ⟨hlt, rfl⟩ := List.getElem?_eq_some_iff.1 hi
  exact List.set_getElem_self hlt

end Filter

section

variable {setup : Setup} {s s' s₁ : State} {m : Move} {i token : Nat} {answer : Answer}
  {kept : Bool} {past : List Milestone}

theorem tenure_of_released {held : Option Nat} {p : StartPoint} (hp : p.isReleased = true) :
    Tenure kept held (.start token p) ↔ held = none := by
  cases p with
  | check => cases hp
  | release point =>
    cases point with
    | token => cases hp
    | client => cases hp
    | disconnecting c => exact Iff.rfl
  | holdToken c => cases hp
  | _ => exact Iff.rfl

/-- A step of a start keeps to what its milestones say. -/
theorem tenure_of_startStep {point : StartPoint}
    (hi : s.operations[i]? = some (.start token point))
    (h : StartStep setup s i token point answer s')
    (htenure : Tenure kept s.held (.start token point)) :
    ∃ o, s'.operations = s.operations.set i o ∧
      Tenure (holding kept (startMilestones s point answer)) s'.held o := by
  cases h with
  | refused => exact ⟨_, rfl, htenure⟩
  | checked => exact ⟨_, rfl, htenure⟩
  | releasing h =>
    refine ⟨_, congrArg (List.set · i _) (operations_of_releaseStep h), ?_⟩
    cases h with
    | noToken => exact htenure
    | token => exact htenure
    | client => rfl
  | @released point s₁ h =>
    have hheld : s₁.held = none := held_of_released h fun hp => (tenure_of_released hp).1 htenure
    obtain ⟨p, hp, hafter⟩ := placed_startReleased setup s₁ i token
    rw [operations_of_releaseStep h] at hp
    exact ⟨_, hp, (tenure_of_released hafter).2 (held_startReleased.trans hheld)⟩
  | @makeDir dir =>
    have hheld : s.held = none := htenure
    cases hmake : s.fs.makeDirectories dir 0o700 with
    | mk result fs =>
      simp only [State.makeStoreDir, startMilestones, hmake]
      cases result with
      | ok _ => exact ⟨_, rfl, hheld⟩
      | error _ => exact ⟨_, rfl, congrArg Option.isSome hheld⟩
  | opened =>
    obtain ⟨p, hp, hafter⟩ := placed_welcome s i token _
    exact ⟨_, hp, (tenure_of_released hafter).2 (held_welcome.trans htenure)⟩
  | notOpened => exact ⟨_, rfl, congrArg Option.isSome htenure⟩
  | code => exact ⟨_, (set_of_getElem? hi).symm, htenure⟩
  | abandoned => exact ⟨_, rfl, congrArg Option.isSome htenure⟩
  | heldClient => exact ⟨_, rfl, rfl⟩
  | heldToken => exact ⟨_, rfl, congrArg Option.isSome htenure⟩
  | _ => exact ⟨_, rfl, htenure⟩

/-- A step of a stop keeps to what its milestones say. -/
theorem tenure_of_stopStep {point : StopPoint} (hi : s.operations[i]? = some (.stop point))
    (h : StopStep s i point answer s') (htenure : Tenure kept s.held (.stop point)) :
    ∃ o, s'.operations = s.operations.set i o ∧
      Tenure (holding kept (milestones s (.resume i answer))) s'.held o := by
  simp only [milestones, hi]
  cases h with
  | checked => exact ⟨_, rfl, rfl⟩
  | releasing h =>
    refine ⟨_, congrArg (List.set · i _) (operations_of_releaseStep h), ?_⟩
    cases h with
    | noToken => exact htenure
    | token => exact htenure
    | client => exact ⟨htenure, rfl⟩
  | @released point s₁ h =>
    have hoperations : s₁.operations = s.operations := operations_of_releaseStep h
    refine ⟨.finished (.ok ()), congrArg (List.set · i _) hoperations, ?_⟩
    cases h with
    | noClient hh =>
      have hkept : kept = false := htenure
      rw [hkept]
      exact congrArg Option.isSome hh
    | disconnected =>
      obtain ⟨rfl, hheld⟩ : kept = false ∧ s.held = none := htenure
      exact congrArg Option.isSome hheld

theorem OneByOne.congr (h : OneByOne past s) (htransitions : s'.transitions = s.transitions)
    (hheld : s'.held = s.held) {ms : List Milestone} (hms : ms.filterMap Milestone.held? = []) :
    OneByOne (past ++ ms) s' := by
  have hsame : holding false (past ++ ms) = holding false past := by
    rw [holding_append, holding, hms]
    rfl
  cases h with
  | rest hnone hrest => exact .rest (htransitions.trans hnone) (by rw [hheld, hsame, hrest])
  | one hone htenure => exact .one (htransitions.trans hone) (by rw [hheld, hsame]; exact htenure)

/-- The one operation in flight goes on. -/
theorem OneByOne.goOn (h : OneByOne past s) {o : Operation} (hi : s.operations[i]? = some o)
    (ho : o.isTransition = true) {ms : List Milestone}
    (hstep : ∀ {kept : Bool}, Tenure kept s.held o →
      ∃ o', s'.operations = s.operations.set i o' ∧ Tenure (holding kept ms) s'.held o') :
    OneByOne (past ++ ms) s' := by
  cases h with
  | rest hnone _ =>
    have hmem : o ∈ s.transitions := List.mem_filter.2 ⟨List.mem_of_getElem? hi, ho⟩
    rw [hnone] at hmem
    cases hmem
  | @one o₁ hone htenure =>
    obtain ⟨heq, -⟩ := filter_set_of_sole (b := o) hone hi ho
    subst heq
    obtain ⟨o', hoperations, htenure'⟩ := hstep htenure
    obtain ⟨-, hset⟩ := filter_set_of_sole (b := o') hone hi ho
    rw [← hoperations] at hset
    rw [← holding_append] at htenure'
    cases o' with
    | start t p => exact .one hset htenure'
    | stop p => exact .one hset htenure'
    | send m p => exact .rest hset htenure'
    | finished r => exact .rest hset htenure'

theorem oneByOne_of_call (h : OneByOne past s) {call : Call}
    (halone : overlaps s (.call call) = []) :
    OneByOne (past ++ milestones s (.call call)) (s.begin call) := by
  have begun : ∀ o : Operation, (s.begin call).operations = s.operations ++ [o] →
      (s.begin call).transitions = s.transitions ++ [o].filter Operation.isTransition := by
    intro o hoperations
    rw [State.transitions, hoperations, List.filter_append]
    rfl
  have free : s.transitions.isEmpty = true →
      s.transitions = [] ∧ s.held.isSome = holding false past := by
    intro hempty
    have hnone : s.transitions = [] := List.isEmpty_iff.1 hempty
    cases h with
    | rest _ hheld => exact ⟨hnone, hheld⟩
    | one hone _ => rw [hone] at hnone; cases hnone
  have hnone : milestones s (.call call) = [] := rfl
  rw [hnone, List.append_nil]
  cases call with
  | start t =>
    obtain ⟨hnone, hheld⟩ := free (by simpa [overlaps] using halone)
    have hone := begun (.start t .check) rfl
    rw [hnone] at hone
    exact .one hone hheld
  | stop =>
    obtain ⟨hnone, hheld⟩ := free (by simpa [overlaps] using halone)
    have hone := begun (.stop .check) rfl
    rw [hnone] at hone
    exact .one hone hheld
  | send message =>
    have hsame := begun (.send message .check) rfl
    rw [List.filter_cons_of_neg (by simp [Operation.isTransition]), List.filter_nil,
      List.append_nil] at hsame
    have hnotes : ([] : List Milestone).filterMap Milestone.held? = [] := rfl
    have h' := h.congr hsame rfl hnotes
    rwa [List.append_nil] at h'

theorem transitions_of_sendStep {message : OutboundMessage} {point : SendPoint}
    (hi : s.operations[i]? = some (.send message point))
    (h : SendStep s i message point answer s') : s'.transitions = s.transitions := by
  cases h <;> exact filter_set_of_other hi rfl rfl

theorem oneByOne_of_step (h : OneByOne past s) (halone : overlaps s m = [])
    (hs : Step setup s m s') : OneByOne (past ++ milestones s m) s' := by
  have same : s'.transitions = s.transitions → s'.held = s.held →
      (milestones s m).filterMap Milestone.held? = [] → OneByOne (past ++ milestones s m) s' :=
    fun htransitions hheld hms => h.congr htransitions hheld hms
  cases hs with
  | call call => exact oneByOne_of_call h halone
  | start hi hs =>
    simp only [milestones, hi]
    exact h.goOn hi rfl (tenure_of_startStep hi hs)
  | stop hi hs => exact h.goOn hi rfl (tenure_of_stopStep hi hs)
  | send hi hs =>
    exact same (transitions_of_sendStep hi hs) (by cases hs <;> rfl) (by simp [milestones, hi])
  | @take c d e rest hc hd hq =>
    have hqueue : s.queueOf c = e :: rest := by rw [queueOf_eq hc, hq]
    refine same ?_ (held_dispatch _ _ _) ?_
    · rw [State.transitions, operations_dispatch]
      rfl
    · simp only [milestones, hqueue]
      cases e <;> rfl
  | prepared _ _ hs => cases hs <;> exact same rfl rfl rfl
  | _ => exact same rfl rfl rfl

/-- A transport that was never started is used, and no start or stop is called while another one is
in flight. -/
theorem tenure_of_run {bus : Bus} {fs : FileSystem} {moves : List Move}
    (halone : observe (step setup) overlaps (.initial bus fs) moves = [])
    (hrun : follow (step setup) (.initial bus fs) moves = some s') :
    OneByOne (observe (step setup) milestones (.initial bus fs) moves) s' :=
  follow_history (I := OneByOne) milestones overlaps
    (fun h halone hstep => oneByOne_of_step h halone (step_inv hstep)) [] (.rest rfl rfl) halone
    hrun

end

/-! ## Running and held -/

/-- If the flag was last set by a start, then a client is held unless a start has failed since. -/
theorem holding_of_running {ms : List Milestone}
    (hlast : (ms.filterMap Milestone.running?).getLast? = some true) :
    holding false ms = true ↔ ms.getLast? ≠ some .failed := by
  rcases List.eq_nil_or_concat ms with rfl | ⟨past, x, rfl⟩
  · cases hlast
  · rw [List.concat_eq_append] at hlast ⊢
    rw [holding_append, List.getLast?_concat]
    rw [List.filterMap_append, List.getLast?_append] at hlast
    cases x with
    | started => simp [holding, Milestone.held?]
    | failed => simp [holding, Milestone.held?]
    | stopped => simp [Milestone.running?] at hlast
    | revoked => simp [Milestone.running?] at hlast

/-- A transport that was never started is used, no start or stop is called while another one is in
flight, and none is in flight now. Then a channel that reports to be running holds a client, unless
the last milestone is a start that has failed and the last that counts for the flag is one that has
succeeded. -/
theorem running_holds_iff {setup : Setup} {bus : Bus} {fs : FileSystem} {moves : List Move}
    {s' : State} (hidle : bus.running = false)
    (hrun : exec setup (.initial bus fs) moves = some s')
    (halone : observe (step setup) overlaps (.initial bus fs) moves = [])
    (hrest : s'.transitions = []) :
    (s'.bus.running = true → s'.held ≠ none) ↔
      ¬((observe (step setup) milestones (.initial bus fs) moves).getLast? = some .failed ∧
        ((observe (step setup) milestones (.initial bus fs) moves).filterMap
          Milestone.running?).getLast? = some true) := by
  rw [exec_eq_follow] at hrun
  have hheld : s'.held.isSome =
      holding false (observe (step setup) milestones (.initial bus fs) moves) := by
    cases tenure_of_run halone hrun with
    | rest _ hheld => exact hheld
    | one hone _ => rw [hrest] at hone; cases hone
  rw [running_iff_last hidle hrun, not_and']
  refine forall_congr' fun hlast => ?_
  rw [← Option.isSome_iff_ne_none, hheld, holding_of_running hlast]

/-- A paired client is started, and then the channel is started again with a client that connects to
the end, or not. -/
def restart (connected : Answer) : List Move :=
  let me : Address := .ofAccount "me" "s"
  [.call (.start 0), .resume 0 .ready, .resume 0 .ready, .resume 0 .ready,
    .resume 0 (.opened (some me)), .resume 0 .ready, .resume 0 .ready, .resume 0 .ready,
    .call (.start 1), .resume 1 .ready, .resume 1 .ready, .resume 1 .ready, .resume 1 .ready,
    .resume 1 (.opened (some me)), .resume 1 connected, .resume 1 .ready]

theorem restart_holds : ∃ s', exec plainSetup (.initial (.new channelName []) .empty)
      (restart .ready ++ [.resume 1 .ready]) = some s' ∧
    s'.bus.running = true ∧ s'.held ≠ none := by
  let bus : Bus := .new channelName []
  let moves : List Move := restart .ready ++ [.resume 1 .ready]
  have hidle : bus.running = false := rfl
  have hend : (exec plainSetup (.initial bus .empty) moves).any
      (fun s' => s'.transitions.isEmpty && s'.bus.running) = true := by decide +kernel
  obtain ⟨hsome, hs'⟩ := (Option.any_eq_true_iff_get _ _).1 hend
  obtain ⟨hrest, hrunning⟩ := Bool.and_eq_true_iff.1 hs'
  have hrun := (Option.some_get hsome).symm
  have halone : observe (step plainSetup) overlaps (.initial bus .empty) moves = [] := by
    decide +kernel
  have hlast : (observe (step plainSetup) milestones (.initial bus .empty) moves).getLast? ≠
      some .failed := by decide +kernel
  exact ⟨_, hrun, hrunning, (running_holds_iff hidle hrun halone (List.isEmpty_iff.1 hrest)).2
    (fun h => hlast h.1) hrunning⟩

/-- A channel can report to be running with no client, once a start has failed. -/
theorem running_without_client : ∃ s', exec plainSetup (.initial (.new channelName []) .empty)
      (restart (.failed "network down")) = some s' ∧
    observe (step plainSetup) overlaps (.initial (.new channelName []) .empty)
      (restart (.failed "network down")) = [] ∧
    s'.transitions = [] ∧ s'.bus.running = true ∧ s'.held = none :=
  ⟨_, rfl, by decide +kernel, rfl, rfl, rfl⟩

end ChatChannel.Native
