import ChatChannel.Proofs.Native.Sequence

/-!
# ChatChannel.Proofs.Native.Terminal

A native channel whose callers wait for each start and stop before the next one, and whose client
reports nothing while a start is in flight (`untimely` notes what breaks either rule). Between the
end of a successful start and the next start or stop, the connection shows what was reported last
(`settled`). Once a revocation is reported, the channel is laid up for good: no operation can do
more than end with an error, but for a stop, which lets go of the held client.

* `atRest_of_step`: the connection after the signs of a run.
* `laidUp_of_step`, `letsGo_of_step`: what stays so after a revocation, and how a stop goes on then.
* `terminal_of_laidUp`: what operations come to, whatever is done.
* `logout_at_rest_terminal`: both, for every run.
-/

namespace ChatChannel.Native

/-- The starts and stops that are called, and the events that are dispatched, at the wrong time. -/
def untimely (s : State) : Move → List Move
  | .call c => (overlaps s (.call c)).map .call
  | .take c => if s.operations.any Operation.isStart then [.take c] else []
  | _ => []

/-- What counts for the connection of a channel that is used in turn. -/
inductive Sign where
  | called
  | started
  | reported (c : ConnectionState)
  deriving DecidableEq

def signs (s : State) : Move → List Sign
  | .call (.send _) => []
  | .call _ => [.called]
  | .take c => (statuses s (.take c)).map .reported
  | .resume i answer => if .started ∈ milestones s (.resume i answer) then [.started] else []
  | _ => []

/-- What the connection has to show; nothing is said unless a start has succeeded and no start or
stop was called since. -/
def Sign.settle : Option ConnectionState → Sign → Option ConnectionState
  | _, .called => none
  | _, .started => some .connected
  | shown, .reported c => shown.map fun _ => c

def settled (ss : List Sign) : Option ConnectionState :=
  ss.foldl Sign.settle none

/-- The start has set the connection to connected, and has only to hold its client. -/
def StartPoint.isLinked : StartPoint → Bool
  | .holdClient _ => true
  | .holdToken _ => true
  | _ => false

/-- The connection is as the signs so far tell, unless a revocation is shown. -/
structure AtRest (past : List Sign) (s : State) : Prop where
  sole : s.transitions = [] ∨ ∃ o, s.transitions = [o]
  linked : ∀ token point, .start token point ∈ s.transitions → point.isLinked = true →
    s.connection = .connected ∨ s.connection = .loggedOut
  shown : ∀ c, settled past = some c →
    s.transitions = [] ∧ (s.connection = c ∨ s.connection = .loggedOut)

def Entry.disconnect? : Entry → Option Nat
  | .client c .disconnect => some c
  | _ => none

/-- The clients that were asked to disconnect so far. -/
def State.disconnects (s : State) : List Nat :=
  s.log.filterMap Entry.disconnect?

/-- A revocation is shown, and no start is past its check. -/
structure LaidUp (s : State) : Prop where
  revoked : s.connection = .loggedOut
  idle : s.bus.running = false
  starts : ∀ token point, .start token point ∈ s.operations → point = .check

/-- Where a stop is with the held client, if no start can bring one. -/
def LetsGo (held : Option Nat) : Operation → Prop
  | .stop (.release (.disconnecting _)) => held = none
  | .stop _ => True
  | .finished result => result = .ok () ∧ held = none
  | _ => False

/-- All that can happen to a channel whose session was revoked. -/
structure Terminal (setup : Setup) (s : State) : Prop where
  revoked : s.connection = .loggedOut
  idle : s.bus.running = false
  /-- The only step of a start, in which no directory is made and no store is opened. -/
  starts : ∀ (i : Nat) token point, s.operations[i]? = some (.start token point) → ∀ answer,
    step setup s (.resume i answer) = if answer = .ready then some (s.finish i
      (.error (.loggedOut
        "whatsapp session was revoked, clear the session store and pair again"))) else none
  /-- The only step of a send that is not past its check, in which no client is called. -/
  sends : ∀ (i : Nat) message, s.operations[i]? = some (.send message .check) → ∀ answer,
    step setup s (.resume i answer) = if answer = .ready then some (s.finish i
      (.error (.loggedOut "whatsapp session was revoked"))) else none
  /-- A stop never waits for more than to be resumed. -/
  stopsEnd : ∀ (i : Nat) point, s.operations[i]? = some (.stop point) →
    ∃ (n : Nat) (s' : State), exec setup s (.replicate n (.resume i .ready)) = some s' ∧
      s'.operations[i]? = some (.finished (.ok ()))
  /-- When a stop has come to its end, whatever was done meanwhile, the client that was held at its
  begin was asked to disconnect once, and no other. -/
  stops : ∀ i : Nat, s.operations[i]? = some (.stop .check) →
    ∀ (moves : List Move) (s' : State) (result : Except ChannelError Unit),
      exec setup s moves = some s' → s'.operations[i]? = some (.finished result) →
        result = .ok () ∧ s'.held = none ∧ s'.disconnects = s.disconnects ++ s.held.toList

section

variable {setup : Setup} {s s' : State} {m : Move} {i token : Nat} {answer : Answer}
  {o : Operation} {past : List Sign}

/-! ## Before a revocation -/

/-- A start comes to hold its client only with the connection set to connected. -/
theorem linked_of_startStep {point : StartPoint}
    (hi : s.operations[i]? = some (.start token point))
    (hlinked : point.isLinked = true → s.connection = .connected ∨ s.connection = .loggedOut)
    (h : StartStep setup s i token point answer s') :
    ∃ o, s'.operations = s.operations.set i o ∧ ∀ t p, o = .start t p → p.isLinked = true →
      s'.connection = .connected ∨ s'.connection = .loggedOut := by
  cases h with
  | connected => exact ⟨_, rfl, fun _ _ _ _ => becomes_eq s .connected⟩
  | paired => exact ⟨_, rfl, fun _ _ _ _ => becomes_eq s .connected⟩
  | heldClient => exact ⟨_, rfl, fun _ _ _ _ => hlinked rfl⟩
  | releasing h =>
    exact ⟨_, congrArg (List.set · i _) (operations_of_releaseStep h), by rintro t p ⟨⟩ ⟨⟩⟩
  | released h =>
    rw [← operations_of_releaseStep h]
    unfold State.startReleased
    dsimp only
    split <;> exact ⟨_, rfl, by rintro t p ⟨⟩ ⟨⟩⟩
  | makeDir =>
    unfold State.makeStoreDir
    split
    · exact ⟨_, rfl, by rintro t p ⟨⟩ ⟨⟩⟩
    · exact ⟨_, rfl, by rintro t p ⟨⟩⟩
  | opened =>
    unfold State.welcome
    dsimp only
    split <;> exact ⟨_, rfl, by rintro t p ⟨⟩ ⟨⟩⟩
  | code => exact ⟨_, (set_of_getElem? hi).symm, by rintro t p ⟨⟩ ⟨⟩⟩
  | refused => exact ⟨_, rfl, by rintro t p ⟨⟩⟩
  | notOpened => exact ⟨_, rfl, by rintro t p ⟨⟩⟩
  | abandoned => exact ⟨_, rfl, by rintro t p ⟨⟩⟩
  | heldToken => exact ⟨_, rfl, by rintro t p ⟨⟩⟩
  | _ => exact ⟨_, rfl, by rintro t p ⟨⟩ ⟨⟩⟩

/-- The one step of a start that counts is its last one, which leaves the connection as it is. -/
theorem started_of_startStep {point : StartPoint}
    (h : StartStep setup s i token point answer s')
    (hstarted : .started ∈ startMilestones s point answer) :
    point.isLinked = true ∧ s'.connection = s.connection ∧
      s'.operations = s.operations.set i (.finished (.ok ())) := by
  cases h with
  | heldToken => exact ⟨rfl, rfl, rfl⟩
  | makeDir =>
    simp only [startMilestones] at hstarted
    split at hstarted <;> simp at hstarted
  | _ => simp [startMilestones] at hstarted

theorem settled_append (ss ss' : List Sign) :
    settled (ss ++ ss') = ss'.foldl Sign.settle (settled ss) := by
  simp [settled]

theorem mem_transitions (hi : s.operations[i]? = some o) (ho : o.isTransition = true) :
    o ∈ s.transitions :=
  List.mem_filter.2 ⟨List.mem_of_getElem? hi, ho⟩

/-- While a start or a stop is in flight, nothing is said of the connection. -/
theorem AtRest.unsettled (h : AtRest past s) (hi : s.operations[i]? = some o)
    (ho : o.isTransition = true) : settled past = none := by
  refine Option.eq_none_iff_forall_ne_some.2 fun c hc => ?_
  have hmem := mem_transitions hi ho
  rw [(h.shown c hc).1] at hmem
  cases hmem

theorem AtRest.transitions_set (h : AtRest past s) (hi : s.operations[i]? = some o)
    (ho : o.isTransition = true) {o' : Operation}
    (hset : s'.operations = s.operations.set i o') :
    s'.transitions = if o'.isTransition then [o'] else [] := by
  have hmem := mem_transitions hi ho
  rcases h.sole with hnone | ⟨o₁, hone⟩
  · rw [hnone] at hmem
    cases hmem
  · rw [State.transitions, hset]
    exact (filter_set_of_sole hone hi ho).2

/-- The one start or stop in flight goes on. -/
theorem AtRest.goOn (h : AtRest past s) (hi : s.operations[i]? = some o)
    (ho : o.isTransition = true) {o' : Operation} (hset : s'.operations = s.operations.set i o')
    (hlinked : ∀ t p, o' = .start t p → p.isLinked = true →
      s'.connection = .connected ∨ s'.connection = .loggedOut)
    {ss : List Sign} (hshown : ∀ c, settled (past ++ ss) = some c →
      o'.isTransition = false ∧ (s'.connection = c ∨ s'.connection = .loggedOut)) :
    AtRest (past ++ ss) s' := by
  have htransitions := h.transitions_set hi ho hset
  refine ⟨?_, fun t p hmem hp => ?_, fun c hc => ?_⟩
  · rw [htransitions]
    split
    · exact .inr ⟨o', rfl⟩
    · exact .inl rfl
  · rw [htransitions] at hmem
    split at hmem
    · exact hlinked t p (List.mem_singleton.1 hmem).symm hp
    · cases hmem
  · obtain ⟨hdone, hconnection⟩ := hshown c hc
    rw [htransitions, hdone]
    exact ⟨rfl, hconnection⟩

theorem AtRest.congr (h : AtRest past s) (htransitions : s'.transitions = s.transitions)
    (hconnection : s'.connection = s.connection) : AtRest past s' := by
  refine ⟨htransitions ▸ h.sole, ?_, ?_⟩
  · rw [htransitions, hconnection]
    exact h.linked
  · rw [htransitions, hconnection]
    exact h.shown

theorem atRest_of_start {point : StartPoint} (h : AtRest past s)
    (hi : s.operations[i]? = some (.start token point))
    (hs : StartStep setup s i token point answer s') :
    AtRest (past ++ signs s (.resume i answer)) s' := by
  have hlinked : point.isLinked = true → s.connection = .connected ∨ s.connection = .loggedOut :=
    h.linked token point (mem_transitions hi rfl)
  have hunsettled := h.unsettled hi rfl
  have hsigns : signs s (.resume i answer) =
      if .started ∈ startMilestones s point answer then [.started] else [] := by
    simp only [signs, milestones, hi]
  rw [hsigns]
  split
  · rename_i hstarted
    obtain ⟨hpoint, hconnection, hset⟩ := started_of_startStep hs hstarted
    refine h.goOn hi rfl hset (by rintro t p ⟨⟩) fun c hc => ⟨rfl, ?_⟩
    obtain rfl : .connected = c := by simpa [settled_append, Sign.settle] using hc
    exact hconnection ▸ hlinked hpoint
  · obtain ⟨o', hset, hlinked'⟩ := linked_of_startStep hi hlinked hs
    refine h.goOn hi rfl hset hlinked' fun c hc => ?_
    rw [List.append_nil, hunsettled] at hc
    cases hc

theorem atRest_of_stop {point : StopPoint} (h : AtRest past s)
    (hi : s.operations[i]? = some (.stop point)) (hs : StopStep s i point answer s') :
    AtRest (past ++ signs s (.resume i answer)) s' := by
  have hsigns : signs s (.resume i answer) = [] := by
    simp only [signs, milestones, hi]
    cases hs <;> simp
  obtain ⟨o', hset, ho'⟩ := operations_of_stopStep hs
  rw [hsigns]
  refine h.goOn hi rfl hset (by rintro t p rfl; cases ho') fun c hc => ?_
  rw [List.append_nil, h.unsettled hi rfl] at hc
  cases hc

theorem atRest_of_call (h : AtRest past s) {call : Call} (htimely : untimely s (.call call) = []) :
    AtRest (past ++ signs s (.call call)) (s.begin call) := by
  have begun : ∀ o : Operation, (s.begin call).operations = s.operations ++ [o] →
      (s.begin call).transitions = s.transitions ++ [o].filter Operation.isTransition := by
    intro o hoperations
    rw [State.transitions, hoperations, List.filter_append]
    rfl
  have alone : ∀ o : Operation, (∀ t p, o = .start t p → p = .check) →
      (s.begin call).operations = s.operations ++ [o] → o.isTransition = true →
      s.transitions = [] → signs s (.call call) = [.called] →
      AtRest (past ++ signs s (.call call)) (s.begin call) := by
    intro o hcheck hoperations ho hnone hsigns
    have hone := begun o hoperations
    rw [hnone, List.filter_cons_of_pos ho, List.filter_nil, List.nil_append] at hone
    refine ⟨.inr ⟨o, hone⟩, fun t p hmem hp => ?_, fun c hc => ?_⟩
    · rw [hone] at hmem
      rw [hcheck t p (List.mem_singleton.1 hmem).symm] at hp
      cases hp
    · rw [hsigns, settled_append] at hc
      cases hc
  cases call with
  | start t =>
    have hnone : s.transitions = [] := by simpa [untimely, overlaps] using htimely
    exact alone (.start t .check) (by rintro _ _ ⟨⟩; rfl) rfl rfl hnone rfl
  | stop =>
    have hnone : s.transitions = [] := by simpa [untimely, overlaps] using htimely
    exact alone (.stop .check) (by rintro _ _ ⟨⟩) rfl rfl hnone rfl
  | send message =>
    have hsame := begun (.send message .check) rfl
    rw [List.filter_cons_of_neg (by simp [Operation.isTransition]), List.filter_nil,
      List.append_nil] at hsame
    have hnone : signs s (.call (.send message)) = [] := rfl
    rw [hnone, List.append_nil]
    exact h.congr hsame rfl

theorem not_starting (htimely : untimely s (.take i) = []) {t : Nat} {p : StartPoint} :
    .start t p ∉ s.operations := by
  intro hmem
  have hany : s.operations.any Operation.isStart = true := List.any_eq_true.2 ⟨_, hmem, rfl⟩
  simp [untimely, hany] at htimely

theorem atRest_of_take (h : AtRest past s) {c : Nat} (htimely : untimely s (.take c) = [])
    (hs : Step setup s (.take c) s') : AtRest (past ++ signs s (.take c)) s' := by
  have htransitions : s'.transitions = s.transitions := by
    cases hs with
    | take => rw [State.transitions, operations_dispatch]; rfl
  -- No start is in flight, so that only what has to be shown is left to prove.
  have taken : (∀ c', settled (past ++ signs s (.take c)) = some c' → settled past ≠ none ∧
      (s'.connection = c' ∨ s'.connection = .loggedOut)) →
      AtRest (past ++ signs s (.take c)) s' := by
    intro hshown
    refine ⟨htransitions ▸ h.sole, fun t p hmem _ => ?_, fun c' hc' => ?_⟩
    · rw [htransitions] at hmem
      exact absurd (List.mem_filter.1 hmem).1 (not_starting htimely)
    · obtain ⟨hsome, hconnection⟩ := hshown c' hc'
      obtain ⟨c₀, hc₀⟩ := Option.ne_none_iff_exists'.1 hsome
      exact ⟨htransitions.trans (h.shown c₀ hc₀).1, hconnection⟩
  have kept : signs s (.take c) = [] → s'.connection = s.connection ∨ s'.connection = .loggedOut →
      AtRest (past ++ signs s (.take c)) s' := by
    intro hnone hconnection
    refine taken fun c' hc' => ?_
    rw [hnone, List.append_nil] at hc'
    refine ⟨by simp [hc'], ?_⟩
    rcases hconnection with hsame | hout
    · exact hsame ▸ (h.shown c' hc').2
    · exact .inr hout
  have reported : ∀ c₀, signs s (.take c) = [.reported c₀] →
      s'.connection = c₀ ∨ s'.connection = .loggedOut →
      AtRest (past ++ signs s (.take c)) s' := by
    intro c₀ hone hconnection
    refine taken fun c' hc' => ?_
    rw [hone, settled_append] at hc'
    obtain ⟨c₁, hc₁, rfl⟩ := Option.map_eq_some_iff.1 hc'
    exact ⟨by simp [hc₁], hconnection⟩
  cases hs with
  | @take _ d e rest _ _ hq =>
    have hqueue : s.queueOf c = e :: rest := by rw [queueOf_eq ‹_›, hq]
    cases e with
    | message message =>
      refine kept (by simp only [signs, statuses, hqueue, List.map_nil]) (.inl ?_)
      simp only [State.dispatch]
      split <;> rfl
    | connected =>
      refine reported .connected ?_ (becomes_eq _ _)
      simp only [signs, statuses, hqueue, List.map_cons, List.map_nil]
    | disconnected =>
      refine reported .disconnected ?_ (becomes_eq _ _)
      simp only [signs, statuses, hqueue, List.map_cons, List.map_nil]
    | loggedOut reason =>
      exact kept (by simp only [signs, statuses, hqueue, List.map_nil]) (.inr rfl)
    | history messages =>
      exact kept (by simp only [signs, statuses, hqueue, List.map_nil]) (.inl rfl)

theorem atRest_of_step (h : AtRest past s) (htimely : untimely s m = []) (hs : Step setup s m s') :
    AtRest (past ++ signs s m) s' := by
  have same : signs s m = [] → s'.transitions = s.transitions → s'.connection = s.connection →
      AtRest (past ++ signs s m) s' := by
    intro hnone htransitions hconnection
    rw [hnone, List.append_nil]
    exact h.congr htransitions hconnection
  cases hs with
  | call call => exact atRest_of_call h htimely
  | start hi hs => exact atRest_of_start h hi hs
  | stop hi hs => exact atRest_of_stop h hi hs
  | send hi hs =>
    refine same ?_ (transitions_of_sendStep hi hs) (connection_of_sendStep hs)
    simp [signs, milestones, hi]
  | @take c _ _ _ hc hd hq =>
    have taken : Step setup s (.take c) _ := .take hc hd hq
    exact atRest_of_take h htimely taken
  | prepared _ _ hs => exact same rfl (by cases hs <;> rfl) (connection_of_prepareStep hs)
  | _ => exact same rfl rfl rfl

/-! ## After a revocation -/

theorem LaidUp.sealed (h : LaidUp s) : Sealed s := by
  refine ⟨h.revoked, fun o ho => ?_⟩
  cases o with
  | start t p => rw [h.starts t p ho]; rfl
  | _ => rfl

/-- The only thing that a start can do is to be refused. -/
theorem LaidUp.refused (h : LaidUp s) {point : StartPoint}
    (hi : s.operations[i]? = some (.start token point))
    (hs : StartStep setup s i token point answer s') :
    s' = s.finish i (.error (.loggedOut
      "whatsapp session was revoked, clear the session store and pair again")) := by
  obtain rfl : point = .check := h.starts token point (List.mem_of_getElem? hi)
  cases hs with
  | refused => rfl
  | checked hin => exact absurd h.revoked hin

theorem LaidUp.running_of_step (h : LaidUp s) (hs : Step setup s m s') :
    s'.bus.running = false := by
  have hmilestones : ∀ b ∈ (milestones s m).filterMap Milestone.running?, b = false := by
    cases hs with
    | @start i _ point answer _ hi hs =>
      obtain rfl : point = .check := h.starts _ _ (List.mem_of_getElem? hi)
      simp [milestones, hi, startMilestones]
    | stop hi hs => cases hs <;> simp [milestones, hi, Milestone.running?]
    | send hi hs => simp [milestones, hi]
    | @take c d e rest hc _ hq =>
      have hqueue : s.queueOf c = e :: rest := by rw [queueOf_eq hc, hq]
      cases e <;> simp [milestones, hqueue, Milestone.running?]
    | _ => simp [milestones]
  rw [Native.running_of_step hs]
  cases hlast : ((milestones s m).filterMap Milestone.running?).getLast? with
  | none => exact h.idle
  | some b => exact hmilestones b (List.mem_of_getLast? hlast)

theorem LaidUp.starts_of_step (h : LaidUp s) (hs : Step setup s m s') {t : Nat} {p : StartPoint}
    (hmem : .start t p ∈ s'.operations) : p = .check := by
  have changed : ∀ k o, s'.operations = s.operations.set k o → (∀ p, o ≠ .start t p) →
      p = .check := by
    intro k o hoperations ho
    rw [hoperations] at hmem
    rcases List.mem_or_eq_of_mem_set hmem with hmem | heq
    · exact h.starts t p hmem
    · exact absurd heq.symm (ho p)
  cases hs with
  | call call =>
    cases call <;>
    · rcases List.mem_append.1 hmem with hmem | hmem
      · exact h.starts t p hmem
      · cases List.mem_singleton.1 hmem <;> rfl
  | start hi hs =>
    obtain rfl := h.refused hi hs
    exact changed _ _ rfl (by simp)
  | stop _ hs =>
    obtain ⟨o, hoperations, ho⟩ := operations_of_stopStep hs
    exact changed _ o hoperations (by rintro p rfl; cases ho)
  | send _ hs =>
    obtain ⟨o, hoperations, ho⟩ := operations_of_sendStep hs
    exact changed _ o hoperations (by rintro p rfl; cases ho)
  | take =>
    rw [operations_dispatch] at hmem
    exact h.starts t p hmem
  | prepared _ _ hs => cases hs <;> exact h.starts t p hmem
  | _ => exact h.starts t p hmem

theorem laidUp_of_step (h : LaidUp s) (hs : Step setup s m s') : LaidUp s' :=
  ⟨(sealed_of_step h.sealed hs).revoked, h.running_of_step hs,
    fun _ _ hmem => h.starts_of_step hs hmem⟩

/-- A revocation that is reported while no start is in flight lays the channel up. -/
theorem laidUp_of_revoked (htimely : untimely s m = []) (hrevoked : .revoked ∈ marks s m)
    (hs : Step setup s m s') : LaidUp s' := by
  cases hs with
  | @take c d e rest hc _ hq =>
    have hqueue : s.queueOf c = e :: rest := by rw [queueOf_eq hc, hq]
    cases e with
    | loggedOut reason =>
      exact ⟨rfl, rfl, fun t p hmem => absurd hmem (not_starting htimely)⟩
    | _ => simp [marks, hqueue] at hrevoked
  | @start i _ point answer _ hi hs =>
    -- A start overwrites revocations, and marks none.
    simp only [marks, hi] at hrevoked
    unfold startMarks at hrevoked
    split at hrevoked
    · split at hrevoked <;> simp at hrevoked
    · simp at hrevoked
    · simp at hrevoked
  | stop hi => simp [marks, hi] at hrevoked
  | send hi => simp [marks, hi] at hrevoked
  | _ => simp [marks] at hrevoked

theorem laidUp_of_run (h : LaidUp s) {moves : List Move} (hrun : exec setup s moves = some s') :
    LaidUp s' := by
  rw [exec_eq_follow] at hrun
  exact follow_invariant (Q := fun _ => True)
    (fun h _ hstep => laidUp_of_step h (step_inv hstep)) h (fun _ _ => trivial) hrun

/-! ### Stops -/

theorem disconnects_record (s : State) (entries : List Entry) :
    (s.record entries).disconnects = s.disconnects ++ entries.filterMap Entry.disconnect? :=
  List.filterMap_append

theorem disconnects_entriesOf (c : Nat) (draft : Draft) :
    (entriesOf c draft).filterMap Entry.disconnect? = [] := by
  refine List.filterMap_eq_nil_iff.2 fun e he => ?_
  rcases List.mem_append.1 he with he | he <;>
  · obtain ⟨_, -, rfl⟩ := List.mem_map.1 he
    rfl

theorem log_dispatch (c : Nat) (own : Option Address) (e : Event) :
    (s.dispatch c own e).log = s.log := by
  cases e with
  | message message =>
    simp only [State.dispatch]
    split <;> rfl
  | _ => rfl

/-- A client is asked to disconnect when it is let go of, and stays held otherwise. -/
def LedgerKept (s s' : State) : Prop :=
  (s'.held = s.held ∨ s'.held = none) ∧
    s'.disconnects ++ s'.held.toList = s.disconnects ++ s.held.toList

theorem LedgerKept.same (hheld : s'.held = s.held) (hlog : s'.log = s.log) : LedgerKept s s' :=
  ⟨.inl hheld, by rw [State.disconnects, State.disconnects, hlog, hheld]⟩

theorem ledger_of_releaseStep {s₁ : State} {point : ReleasePoint} {next : Option ReleasePoint}
    (h : ReleaseStep s point s₁ next) : LedgerKept s s₁ := by
  cases h with
  | @client c hh =>
    refine ⟨.inr rfl, ?_⟩
    rw [hh]
    exact (List.append_nil _).trans (disconnects_record _ _)
  | _ => exact .same rfl rfl

theorem ledger_of_stopStep {point : StopPoint} (h : StopStep s i point answer s') :
    LedgerKept s s' := by
  cases h with
  | checked => exact .same rfl rfl
  | releasing h =>
    have hledger := ledger_of_releaseStep h
    exact hledger
  | released h =>
    have hledger := ledger_of_releaseStep h
    exact hledger

theorem LaidUp.ledger_of_step (h : LaidUp s) (hs : Step setup s m s') : LedgerKept s s' := by
  have quiet : ∀ entries : List Entry, entries.filterMap Entry.disconnect? = [] →
      s'.held = s.held → s'.log = s.log ++ entries → LedgerKept s s' := by
    intro entries hquiet hheld hlog
    refine ⟨.inl hheld, ?_⟩
    rw [State.disconnects, hlog, List.filterMap_append, hquiet, List.append_nil, hheld]
    rfl
  cases hs with
  | call call => cases call <;> exact .same rfl rfl
  | start hi hs =>
    obtain rfl := h.refused hi hs
    exact .same rfl rfl
  | stop _ hs => exact ledger_of_stopStep hs
  | send _ hs =>
    cases hs with
    | @send c target => exact quiet [.client c (.sendText target _)] rfl rfl rfl
    | _ => exact .same rfl rfl
  | take => exact .same (held_dispatch _ _ _) (log_dispatch _ _ _)
  | prepared _ _ hs => cases hs <;> exact quiet _ (disconnects_entriesOf _ _) rfl rfl
  | _ => exact .same rfl rfl

theorem LetsGo.mono {held held' : Option Nat} (ho : LetsGo held o)
    (hheld : held' = held ∨ held' = none) : LetsGo held' o := by
  rcases hheld with rfl | rfl
  · exact ho
  · unfold LetsGo at ho ⊢
    split <;> simp_all

theorem letsGo_of_stopStep {point : StopPoint} (ho : LetsGo s.held (.stop point))
    (hi : s.operations[i]? = some (.stop point)) (hs : StopStep s i point answer s') :
    ∃ o', s'.operations[i]? = some o' ∧ LetsGo s'.held o' := by
  have hknown : i < s.operations.length := (List.getElem?_eq_some_iff.1 hi).1
  cases hs with
  | checked => exact ⟨_, List.getElem?_set_self hknown, trivial⟩
  | @releasing _ next s₁ hs =>
    rw [← operations_of_releaseStep hs] at hknown
    refine ⟨_, List.getElem?_set_self hknown, ?_⟩
    cases hs with
    | client => rfl
    | noToken => exact trivial
    | token => exact trivial
  | @released _ s₁ hs =>
    rw [← operations_of_releaseStep hs] at hknown
    refine ⟨_, List.getElem?_set_self hknown, rfl, ?_⟩
    cases hs with
    | noClient hh => exact hh
    | disconnected => exact ho

/-- Once a revocation is shown, a stop that comes to its end has let go of the held client. -/
theorem letsGo_of_step (h : LaidUp s) (hi : s.operations[i]? = some o) (ho : LetsGo s.held o)
    (hs : Step setup s m s') : ∃ o', s'.operations[i]? = some o' ∧ LetsGo s'.held o' := by
  by_cases hm : ∃ answer, m = .resume i answer
  · obtain ⟨answer, rfl⟩ := hm
    cases hs with
    | start hi' _ => rw [hi] at hi'; cases hi'; exact ho.elim
    | send hi' _ => rw [hi] at hi'; cases hi'; exact ho.elim
    | stop hi' hs => rw [hi] at hi'; cases hi'; exact letsGo_of_stopStep ho hi hs
  · refine ⟨o, operation_of_step hi (fun answer h => hm ⟨answer, h⟩) hs, ?_⟩
    exact ho.mono (h.ledger_of_step hs).1

theorem letsGo_of_run (h : LaidUp s) (hi : s.operations[i]? = some o) (ho : LetsGo s.held o)
    {moves : List Move} (hrun : exec setup s moves = some s') :
    (∃ o', s'.operations[i]? = some o' ∧ LetsGo s'.held o') ∧
      s'.disconnects ++ s'.held.toList = s.disconnects ++ s.held.toList := by
  rw [exec_eq_follow] at hrun
  have hkeep : LaidUp s' ∧ (∃ o', s'.operations[i]? = some o' ∧ LetsGo s'.held o') ∧
      s'.disconnects ++ s'.held.toList = s.disconnects ++ s.held.toList := by
    refine follow_invariant (Q := fun _ => True)
      (P := fun t => LaidUp t ∧ (∃ o', t.operations[i]? = some o' ∧ LetsGo t.held o') ∧
        t.disconnects ++ t.held.toList = s.disconnects ++ s.held.toList)
      ?_ ⟨h, ⟨o, hi, ho⟩, rfl⟩ (fun _ _ => trivial) hrun
    rintro t m t' ⟨hlaid, ⟨o', hi', ho'⟩, hledger⟩ - hstep
    have hs := step_inv hstep
    exact ⟨laidUp_of_step hlaid hs, letsGo_of_step hlaid hi' ho' hs,
      (hlaid.ledger_of_step hs).2.trans hledger⟩
  exact hkeep.2

/-- The steps that a stop has before it at most, but one. -/
def StopPoint.left : StopPoint → Nat
  | .check => 3
  | .release .token => 2
  | .release .client => 1
  | .release (.disconnecting _) => 0

theorem stop_goes_on (setup : Setup) {point : StopPoint}
    (hi : s.operations[i]? = some (.stop point)) :
    ∃ s', step setup s (.resume i .ready) = some s' ∧
      (s'.operations[i]? = some (.finished (.ok ())) ∨
        ∃ next, s'.operations[i]? = some (.stop next) ∧ next.left < point.left) := by
  have hknown : i < s.operations.length := (List.getElem?_eq_some_iff.1 hi).1
  have hstep : step setup s (.resume i .ready) = s.resumeStop i point .ready := by
    simp only [step, State.resume, hi]
  cases point with
  | check =>
    exact ⟨_, hstep, .inr ⟨.release .token, List.getElem?_set_self hknown, by decide⟩⟩
  | release point =>
    cases hrelease : s.releaseFrom point with
    | mk s₁ next =>
      have hr := releaseFrom_inv hrelease
      rw [← operations_of_releaseStep hr] at hknown
      simp only [State.resumeStop, hrelease] at hstep
      cases next with
      | none => exact ⟨_, hstep, .inl (List.getElem?_set_self hknown)⟩
      | some next =>
        refine ⟨_, hstep, .inr ⟨.release next, List.getElem?_set_self hknown, ?_⟩⟩
        cases hr <;> exact Nat.lt_succ_self _

theorem stop_ends (setup : Setup) {point : StopPoint}
    (hi : s.operations[i]? = some (.stop point)) :
    ∃ n s', exec setup s (.replicate n (.resume i .ready)) = some s' ∧
      s'.operations[i]? = some (.finished (.ok ())) := by
  induction hleft : point.left using Nat.strongRecOn generalizing s point with
  | _ left ih =>
    obtain ⟨s₁, hstep, hdone | ⟨next, hnext, hlt⟩⟩ := stop_goes_on setup hi
    · exact ⟨1, s₁, by simp [List.replicate, exec, hstep], hdone⟩
    · obtain ⟨n, s', hrun, hdone⟩ := ih next.left (hleft ▸ hlt) hnext rfl
      exact ⟨n + 1, s', by simp [List.replicate_succ, exec, hstep, hrun], hdone⟩

/-! ### All operations -/

theorem terminal_of_laidUp (setup : Setup) (h : LaidUp s) : Terminal setup s := by
  refine ⟨h.revoked, h.idle, ?_, ?_, fun _ _ hi => stop_ends setup hi, ?_⟩
  · intro i token point hi answer
    obtain rfl : point = .check := h.starts token point (List.mem_of_getElem? hi)
    cases answer <;> simp [step, State.resume, hi, State.resumeStart, h.revoked]
  · intro i message hi answer
    cases answer <;> simp [step, State.resume, hi, State.resumeSend, h.revoked]
  · intro i hi moves s' result hrun hdone
    have hcheck : LetsGo s.held (.stop .check) := trivial
    obtain ⟨⟨o, ho, hgone⟩, hledger⟩ := letsGo_of_run h hi hcheck hrun
    obtain rfl : o = .finished result := by
      rw [hdone] at ho
      exact (Option.some.inj ho).symm
    obtain ⟨hok, hheld⟩ := hgone
    rw [hheld] at hledger
    exact ⟨hok, hheld, by simpa using hledger⟩

/-- A channel that was never started is used in turn, and nothing is reported while a start is in
flight. Without a revocation, what was reported last is shown between the end of a successful start
and the next start or stop. With one, the channel is terminal, and stays so whatever is done. -/
theorem logout_at_rest_terminal {name : String} {allow : List String} {fs : FileSystem}
    {moves : List Move} (hrun : exec setup (.initial (.new name allow) fs) moves = some s')
    (htimely : observe (step setup) untimely (.initial (.new name allow) fs) moves = []) :
    (.revoked ∉ observe (step setup) marks (.initial (.new name allow) fs) moves →
      ∀ c, settled (observe (step setup) signs (.initial (.new name allow) fs) moves) = some c →
        s'.connection = c) ∧
    (.revoked ∈ observe (step setup) marks (.initial (.new name allow) fs) moves →
      ∀ later s'', exec setup s' later = some s'' → Terminal setup s'') := by
  rw [exec_eq_follow] at hrun
  constructor
  · intro hnone c hc
    have hrest := follow_history (I := AtRest) signs untimely
      (fun h htimely hstep => atRest_of_step h htimely (step_inv hstep)) []
      ⟨.inl rfl, by rintro _ _ ⟨⟩, by rintro _ ⟨⟩⟩ htimely hrun
    have hshown : s'.connection ≠ .loggedOut := by
      intro hshown
      have hlast := (revoked_iff_last hrun).1 hshown
      have hinitial : decide ((State.initial (.new name allow) fs).connection = .loggedOut) =
          false := rfl
      rw [hinitial, shows_false_iff] at hlast
      exact hnone (List.mem_of_getLast? hlast)
    exact (hrest.shown c hc).2.resolve_right hshown
  · intro hrevoked later s'' hlater
    -- From the first revocation on, the channel is laid up.
    have hlaid := follow_history (I := fun past s => .revoked ∈ past → LaidUp s) marks untimely
      ?_ [] (by simp) htimely hrun
    · exact terminal_of_laidUp setup (laidUp_of_run (hlaid hrevoked) hlater)
    · intro past s m s' h htimely hstep hmem
      rcases List.mem_append.1 hmem with hmem | hmem
      · exact laidUp_of_step (h hmem) (step_inv hstep)
      · exact laidUp_of_revoked htimely hmem (step_inv hstep)

end

/-- A paired client is started, and reports that the link is up and then that it is down. -/
def linkLost : List Move :=
  [.call (.start 0), .resume 0 .ready, .resume 0 .ready, .resume 0 .ready,
    .resume 0 (.opened (some (.ofAccount "me" "s"))), .resume 0 .ready, .resume 0 .ready,
    .resume 0 .ready, .emit 0 .connected, .emit 0 .disconnected, .take 0, .take 0]

/-- Its session is revoked. -/
def revokedAfterwards : List Move :=
  [.emit 0 (.loggedOut "revoked"), .take 0]

/-- The channel is being stopped, and then started again. -/
def stoppedAndStarted : List Move :=
  [.call .stop, .resume 1 .ready, .resume 1 .ready, .call (.start 1)]

theorem linkLost_terminal :
    (∃ s', exec plainSetup (.initial (.new channelName []) .empty) linkLost = some s' ∧
      s'.connection = .disconnected) ∧
    ∃ s' s'', exec plainSetup (.initial (.new channelName []) .empty)
        (linkLost ++ revokedAfterwards) = some s' ∧
      exec plainSetup s' stoppedAndStarted = some s'' ∧ Terminal plainSetup s'' := by
  let start : State := .initial (.new channelName []) .empty
  have hrun : exec plainSetup start linkLost = some _ := rfl
  have htimely : observe (step plainSetup) untimely start linkLost = [] := by decide +kernel
  have hnone : .revoked ∉ observe (step plainSetup) marks start linkLost := by decide +kernel
  have hsettled : settled (observe (step plainSetup) signs start linkLost) =
      some .disconnected := by decide +kernel
  have hrun' : exec plainSetup start (linkLost ++ revokedAfterwards) = some _ := rfl
  have htimely' : observe (step plainSetup) untimely start (linkLost ++ revokedAfterwards) =
      [] := by decide +kernel
  have hrevoked : .revoked ∈ observe (step plainSetup) marks start
      (linkLost ++ revokedAfterwards) := by decide +kernel
  refine ⟨⟨_, hrun, (logout_at_rest_terminal hrun htimely).1 hnone _ hsettled⟩, ?_⟩
  exact ⟨_, _, hrun', rfl,
    (logout_at_rest_terminal hrun' htimely').2 hrevoked stoppedAndStarted _ rfl⟩

end ChatChannel.Native
