import ChatChannel.Proofs.FileSystem
import ChatChannel.Proofs.Native.Step

/-!
# ChatChannel.Proofs.Native.Dispatcher

One dispatcher among the moves of all. What a dispatcher has to do is told by the events that it
has not taken (`queueOf`) and by its stage (`stageOf`); operations and other dispatchers leave both
alone.

* `turn_of_step`: what a move does to one dispatcher.
-/

namespace ChatChannel.Native

namespace State

/-- The events that the dispatcher of a client has not taken. -/
def queueOf (s : State) (c : Nat) : List Event :=
  (s.clients[c]?.map Client.queue).getD []

/-- Where the dispatcher of a client is. -/
def stageOf (s : State) (c : Nat) : Stage :=
  (s.clients[c]?.map Client.stage).getD .waiting

/-- The address of the account that is paired with a client. -/
def ownOf (s : State) (c : Nat) : Option Address :=
  s.clients[c]?.bind Client.own

/-- The client has been opened, and its dispatcher is not over. -/
def hears (s : State) (c : Nat) : Bool :=
  s.clients[c]?.any fun d => d.stage ≠ .ended

end State

/-- The client whose events or dispatcher the move is about. -/
def Move.dispatcher? : Move → Option Nat
  | .emit c _ => some c
  | .take c => some c
  | .halt c => some c
  | .prepared c _ => some c
  | .handled c => some c
  | _ => none

/-- A message that an event brings for the bus, to a client of this account. -/
def foreign? (own : Option Address) : Event → Option Message
  | .message m => if m.isForeign own then some m else none
  | _ => none

/-- A transport with its session in the working directory, and a folder that is not there yet. -/
def plainSetup : Setup :=
  ⟨"session.db", ⟨60000⟩, ⟨⟨"/media", mediaStem⟩, .silent⟩⟩

section Views

variable {s s' : State} {c k : Nat} {d : Client} {f : Client → Client}

theorem queueOf_eq (hc : s.clients[c]? = some d) : s.queueOf c = d.queue := by
  simp [State.queueOf, hc]

theorem stageOf_eq (hc : s.clients[c]? = some d) : s.stageOf c = d.stage := by
  simp [State.stageOf, hc]

theorem ownOf_eq (hc : s.clients[c]? = some d) : s.ownOf c = d.own := by
  simp [State.ownOf, hc]

theorem client_modify (h : s'.clients = s.clients.modify c f) (hc : s.clients[c]? = some d) :
    s'.clients[c]? = some (f d) := by
  simp [h, hc]

theorem client_onClient (hc : s.clients[c]? = some d) :
    (s.onClient c f).clients[c]? = some (f d) :=
  client_modify rfl hc

/-- The dispatcher of client `c` has the same to do in both states. -/
structure SameWork (c : Nat) (s s' : State) : Prop where
  queue : s'.queueOf c = s.queueOf c
  stage : s'.stageOf c = s.stageOf c

theorem SameWork.of_clients (h : s'.clients = s.clients) : SameWork c s s' := by
  constructor <;> simp only [State.queueOf, State.stageOf, h]

theorem SameWork.trans {s₁ : State} (h : SameWork c s s₁) (h' : SameWork c s₁ s') :
    SameWork c s s' :=
  ⟨h'.queue.trans h.queue, h'.stage.trans h.stage⟩

theorem SameWork.modify_ne (h : s'.clients = s.clients.modify k f) (hk : k ≠ c) :
    SameWork c s s' := by
  have hc : s'.clients[c]? = s.clients[c]? := by simp [h, hk]
  constructor <;> simp only [State.queueOf, State.stageOf, hc]

theorem SameWork.modify (h : s'.clients = s.clients.modify k f)
    (hqueue : ∀ d, (f d).queue = d.queue) (hstage : ∀ d, (f d).stage = d.stage) :
    SameWork c s s' := by
  by_cases hk : k = c
  · subst hk
    cases hc : s.clients[k]? with
    | none =>
      have hc' : s'.clients[k]? = none := by simp [h, hc]
      constructor <;> simp only [State.queueOf, State.stageOf, hc, hc']
    | some d =>
      have hc' : s'.clients[k]? = some (f d) := client_modify h hc
      constructor
      · rw [queueOf_eq hc', queueOf_eq hc, hqueue]
      · rw [stageOf_eq hc', stageOf_eq hc, hstage]
  · exact .modify_ne h hk

theorem SameWork.newClient (h : s'.clients = s.clients ++ [d]) (hqueue : d.queue = [])
    (hstage : d.stage = .waiting) : SameWork c s s' := by
  rcases Nat.lt_trichotomy c s.clients.length with hlt | rfl | hgt
  · have hc : s'.clients[c]? = s.clients[c]? := by rw [h, List.getElem?_append_left hlt]
    constructor <;> simp only [State.queueOf, State.stageOf, hc]
  · constructor <;> simp [State.queueOf, State.stageOf, h, hqueue, hstage]
  · have hc : s.clients[c]? = none := List.getElem?_eq_none (Nat.le_of_lt hgt)
    have hc' : s'.clients[c]? = none := by simp [h]; omega
    constructor <;> simp only [State.queueOf, State.stageOf, hc, hc']

end Views

/-! ## Operations -/

/-- All dispatchers have the same to do in both states, the bus has the same messages, and the file
system has lost nothing. -/
structure Undisturbed (s s' : State) : Prop where
  work : ∀ c, SameWork c s s'
  allow : s'.bus.allow = s.bus.allow
  delivered : s'.bus.delivered = s.bus.delivered
  files : s.fs.Extends s'.fs

section Operations

variable {setup : Setup} {s s' s₁ : State} {i token c : Nat} {answer : Answer}

theorem Undisturbed.trans (h : Undisturbed s s₁) (h' : Undisturbed s₁ s') : Undisturbed s s' :=
  ⟨fun c => (h.work c).trans (h'.work c), h'.allow.trans h.allow, h'.delivered.trans h.delivered,
    h.files.trans h'.files⟩

theorem Undisturbed.of_clients (hclients : s'.clients = s.clients)
    (hallow : s'.bus.allow = s.bus.allow) (hdelivered : s'.bus.delivered = s.bus.delivered)
    (hfs : s'.fs = s.fs) : Undisturbed s s' :=
  ⟨fun _ => .of_clients hclients, hallow, hdelivered, hfs ▸ .refl⟩

theorem undisturbed_startReleased : Undisturbed s (s.startReleased setup i token) := by
  unfold State.startReleased
  split <;> exact .of_clients rfl rfl rfl rfl

theorem undisturbed_makeStoreDir {dir : String} :
    Undisturbed s (s.makeStoreDir setup i token dir) := by
  have hgrows := FileSystem.grows_makeDirectories s.fs dir 0o700
  unfold State.makeStoreDir
  split
  · rename_i fs hmake
    rw [hmake] at hgrows
    exact ⟨fun _ => .of_clients rfl, rfl, rfl, hgrows.extends⟩
  · rename_i fault fs hmake
    rw [hmake] at hgrows
    exact ⟨fun _ => .of_clients rfl, rfl, rfl, hgrows.extends⟩

theorem undisturbed_welcome {own : Option Address} :
    Undisturbed s (s.welcome i token own) := by
  have hwelcome : (s.welcome i token own).clients =
      s.clients ++ [⟨own, false, token, false, [], .waiting⟩] := by
    unfold State.welcome
    split <;> rfl
  have hbus : (s.welcome i token own).bus = s.bus := by
    unfold State.welcome
    split <;> rfl
  have hfs : (s.welcome i token own).fs = s.fs := by
    unfold State.welcome
    split <;> rfl
  exact ⟨fun _ => .newClient hwelcome rfl rfl, by rw [hbus], by rw [hbus], hfs ▸ .refl⟩

theorem undisturbed_abandon {k : Nat} {error : ChannelError} :
    Undisturbed s (s.abandon i token k error) :=
  ⟨fun _ => .modify rfl (fun _ => rfl) (fun _ => rfl), rfl, rfl, .refl⟩

theorem undisturbed_of_releaseStep {point : ReleasePoint} {next : Option ReleasePoint}
    (h : ReleaseStep s point s₁ next) : Undisturbed s s₁ := by
  cases h with
  | token hd => exact ⟨fun _ => .modify rfl (fun _ => rfl) (fun _ => rfl), rfl, rfl, .refl⟩
  | _ => exact .of_clients rfl rfl rfl rfl

theorem undisturbed_of_startStep {point : StartPoint}
    (h : StartStep setup s i token point answer s') : Undisturbed s s' := by
  cases h with
  | releasing h => exact (undisturbed_of_releaseStep h).trans (.of_clients rfl rfl rfl rfl)
  | released h => exact (undisturbed_of_releaseStep h).trans undisturbed_startReleased
  | makeDir => exact undisturbed_makeStoreDir
  | opened => exact undisturbed_welcome
  | noChannel => exact undisturbed_abandon
  | notConnected => exact undisturbed_abandon
  | notToPair => exact undisturbed_abandon
  | timedOut => exact undisturbed_abandon
  | rejected => exact undisturbed_abandon
  | closed => exact undisturbed_abandon
  | late _ => exact undisturbed_abandon
  | _ => exact .of_clients rfl rfl rfl rfl

theorem undisturbed_of_stopStep {point : StopPoint} (h : StopStep s i point answer s') :
    Undisturbed s s' := by
  cases h with
  | checked => exact .of_clients rfl rfl rfl rfl
  | releasing h => exact (undisturbed_of_releaseStep h).trans (.of_clients rfl rfl rfl rfl)
  | released h => exact (undisturbed_of_releaseStep h).trans (.of_clients rfl rfl rfl rfl)

theorem undisturbed_of_sendStep {m : OutboundMessage} {point : SendPoint}
    (h : SendStep s i m point answer s') : Undisturbed s s' := by
  cases h <;> exact .of_clients rfl rfl rfl rfl

end Operations

/-! ## The turns of a dispatcher -/

/-- Where a dispatcher is once it has taken an event. -/
def stageAfter : Option Message → Stage
  | some m => .preparing m
  | none => .waiting

/-- What a move can do to the dispatcher of client `c`. -/
inductive Turn (c : Nat) (s s' : State) : Move → Prop where
  | other {m : Move} (hm : m.dispatcher? ≠ some c) (h : SameWork c s s') : Turn c s s' m
  | emit (e : Event) (hqueue : s'.queueOf c = s.queueOf c ++ if s.hears c then [e] else [])
      (hstage : s'.stageOf c = s.stageOf c) : Turn c s s' (.emit c e)
  | take {e : Event} (hwaiting : s.stageOf c = .waiting)
      (hqueue : s.queueOf c = e :: s'.queueOf c)
      (hstage : s'.stageOf c = stageAfter (foreign? (s.ownOf c) e)) : Turn c s s' (.take c)
  | halt (hwaiting : s.stageOf c = .waiting) (hqueue : s'.queueOf c = [])
      (hstage : s'.stageOf c = .ended) : Turn c s s' (.halt c)
  | prepared {attempts : AttachmentKind → Attempt} {m : Message}
      (hpreparing : s.stageOf c = .preparing m) (hqueue : s'.queueOf c = s.queueOf c)
      (hstage : s'.stageOf c = .waiting ∨ ∃ media, s'.stageOf c = .delivering media) :
      Turn c s s' (.prepared c attempts)
  | handled {media : Media.Transient} (hdelivering : s.stageOf c = .delivering media)
      (hqueue : s'.queueOf c = s.queueOf c) (hstage : s'.stageOf c = .waiting) :
      Turn c s s' (.handled c)

section Turns

variable {setup : Setup} {s s' : State} {c k : Nat} {d : Client}

theorem turn_emit (e : Event) : Turn c s (s.onClient c fun d => d.receive e) (.emit c e) := by
  cases hc : s.clients[c]? with
  | none =>
    refine .emit e ?_ ?_
    · simp [State.queueOf, State.onClient, State.hears, hc]
    · simp [State.stageOf, State.onClient, hc]
  | some d =>
    have hc' : (s.onClient c fun d => d.receive e).clients[c]? = some (d.receive e) :=
      client_onClient hc
    refine .emit e ?_ ?_
    · rw [queueOf_eq hc', queueOf_eq hc, Client.receive, State.hears, hc]
      by_cases hend : d.stage = .ended <;> simp [hend]
    · rw [stageOf_eq hc', stageOf_eq hc, Client.receive]
      split <;> rfl

theorem client_dispatch (own : Option Address) (e : Event) (hc : s.clients[c]? = some d)
    (hd : d.stage = .waiting) :
    (s.dispatch c own e).clients[c]? = some { d with stage := stageAfter (foreign? own e) } := by
  have hsame : { d with stage := .waiting } = d := by rw [← hd]
  cases e with
  | message m =>
    simp only [State.dispatch, foreign?]
    split
    · exact client_onClient hc
    · simp only [stageAfter, hsame, hc]
  | connected => simp only [State.dispatch, State.becomes, foreign?, stageAfter, hsame, hc]
  | disconnected => simp only [State.dispatch, State.becomes, foreign?, stageAfter, hsame, hc]
  | loggedOut reason => simp only [State.dispatch, foreign?, stageAfter, hsame, hc]
  | history messages => simp only [State.dispatch, foreign?, stageAfter, hsame, hc]

theorem turn_take {e : Event} {rest : List Event} (hc : s.clients[c]? = some d)
    (hd : d.stage = .waiting) (hq : d.queue = e :: rest) :
    Turn c s ((s.onClient c fun d => { d with queue := rest }).dispatch c d.own e) (.take c) := by
  have hrest : (s.onClient c fun d => { d with queue := rest }).clients[c]? =
      some { d with queue := rest } := client_onClient hc
  have hc' := client_dispatch d.own e hrest hd
  refine .take (e := e) ?_ ?_ ?_
  · rw [stageOf_eq hc, hd]
  · rw [queueOf_eq hc, queueOf_eq hc', hq]
  · rw [stageOf_eq hc', ownOf_eq hc]

theorem sameWork_dispatch_ne (own : Option Address) (e : Event) (hk : k ≠ c) :
    SameWork c s (s.dispatch k own e) := by
  cases e with
  | message m =>
    simp only [State.dispatch]
    split
    · exact .modify_ne rfl hk
    · exact .of_clients rfl
  | _ => exact .of_clients rfl

theorem clients_of_prepareStep {attempts : AttachmentKind → Attempt} {m : Message}
    (h : PrepareStep setup s c attempts m s') :
    ∃ stage : Stage, s'.clients = s.clients.modify c (fun d => { d with stage }) ∧
      (stage = .waiting ∨ ∃ media, stage = .delivering media) := by
  cases h with
  | dropped => exact ⟨.waiting, rfl, .inl rfl⟩
  | @admitted _ draft => exact ⟨.delivering draft.media, rfl, .inr ⟨_, rfl⟩⟩
  | denied => exact ⟨.waiting, rfl, .inl rfl⟩

theorem turn_prepared {attempts : AttachmentKind → Attempt} {m : Message}
    (hc : s.clients[c]? = some d) (hd : d.stage = .preparing m)
    (h : PrepareStep setup s c attempts m s') : Turn c s s' (.prepared c attempts) := by
  obtain ⟨stage, hclients, hstage⟩ := clients_of_prepareStep h
  have hc' : s'.clients[c]? = some { d with stage } := client_modify hclients hc
  refine .prepared (m := m) ?_ ?_ ?_
  · rw [stageOf_eq hc, hd]
  · rw [queueOf_eq hc', queueOf_eq hc]
  · rw [stageOf_eq hc']
    exact hstage

theorem turn_halt (hc : s.clients[c]? = some d) (hd : d.stage = .waiting) :
    Turn c s (s.onClient c fun d => { d with stage := .ended, queue := [] }) (.halt c) := by
  have hc' : (s.onClient c fun d => { d with stage := .ended, queue := [] }).clients[c]? =
      some { d with stage := .ended, queue := [] } := client_onClient hc
  exact .halt (by rw [stageOf_eq hc, hd]) (queueOf_eq hc') (stageOf_eq hc')

theorem turn_handled {media : Media.Transient} (hc : s.clients[c]? = some d)
    (hd : d.stage = .delivering media) :
    Turn c s ({ s with fs := media.release s.fs }.onClient c fun d => { d with stage := .waiting })
      (.handled c) := by
  have hc' : ({ s with fs := media.release s.fs }.onClient c
      fun d => { d with stage := .waiting }).clients[c]? = some { d with stage := .waiting } :=
    client_onClient hc
  have hstage : s.stageOf c = .delivering media := by rw [stageOf_eq hc, hd]
  refine .handled hstage ?_ (stageOf_eq hc')
  rw [queueOf_eq hc', queueOf_eq hc]

/-- What a move does to the dispatcher of client `c`. -/
theorem turn_of_step {m : Move} (h : Step setup s m s') (c : Nat) : Turn c s s' m := by
  have operation : ∀ {i answer}, m = .resume i answer → SameWork c s s' → Turn c s s' m := by
    rintro i answer rfl hsame
    exact .other (by simp [Move.dispatcher?]) hsame
  -- A move of another dispatcher.
  have foreign : ∀ {k}, m.dispatcher? = some k → k ≠ c → SameWork c s s' → Turn c s s' m := by
    intro k hm hk hsame
    exact .other (by simpa [hm] using hk) hsame
  cases h with
  | call call => exact .other (by simp [Move.dispatcher?]) (by cases call <;> exact .of_clients rfl)
  | start _ h => exact operation rfl ((undisturbed_of_startStep h).work c)
  | stop _ h => exact operation rfl ((undisturbed_of_stopStep h).work c)
  | send _ h => exact operation rfl ((undisturbed_of_sendStep h).work c)
  | cancel token => exact .other (by simp [Move.dispatcher?]) (.of_clients rfl)
  | elapse _ => exact .other (by simp [Move.dispatcher?]) (.of_clients rfl)
  | setLinked k linked =>
    exact .other (by simp [Move.dispatcher?]) (.modify rfl (fun _ => rfl) (fun _ => rfl))
  | setOwn k own =>
    exact .other (by simp [Move.dispatcher?]) (.modify rfl (fun _ => rfl) (fun _ => rfl))
  | emit k e =>
    by_cases hk : k = c
    · exact hk ▸ turn_emit e
    · exact foreign rfl hk (.modify_ne rfl hk)
  | @take k d e rest hc hd hq =>
    by_cases hk : k = c
    · exact hk ▸ turn_take hc hd hq
    · refine foreign rfl hk (.trans ?_ (sameWork_dispatch_ne d.own e hk))
      exact .modify_ne rfl hk
  | @halt k d hc hd _ =>
    by_cases hk : k = c
    · exact hk ▸ turn_halt hc hd
    · exact foreign rfl hk (.modify_ne rfl hk)
  | @prepared k d m attempts s' hc hd h =>
    by_cases hk : k = c
    · subst hk
      exact turn_prepared hc hd h
    · obtain ⟨stage, hclients, -⟩ := clients_of_prepareStep h
      exact foreign rfl hk (.modify_ne hclients hk)
  | @handled k d media hc hd =>
    by_cases hk : k = c
    · exact hk ▸ turn_handled hc hd
    · exact foreign rfl hk (.modify_ne rfl hk)

end Turns

/-! ## What a dispatcher can do -/

section Progress

variable {setup : Setup} {s s' : State} {c : Nat}

theorem client_of_queue (h : s.queueOf c ≠ []) : ∃ d, s.clients[c]? = some d := by
  cases hc : s.clients[c]? with
  | none => simp [State.queueOf, hc] at h
  | some d => exact ⟨d, rfl⟩

theorem client_of_stage (h : s.stageOf c ≠ .waiting) : ∃ d, s.clients[c]? = some d := by
  cases hc : s.clients[c]? with
  | none => simp [State.stageOf, hc] at h
  | some d => exact ⟨d, rfl⟩

theorem can_take (setup : Setup) {e : Event} {rest : List Event}
    (hwaiting : s.stageOf c = .waiting) (hqueue : s.queueOf c = e :: rest) :
    ∃ s', step setup s (.take c) = some s' := by
  obtain ⟨d, hc⟩ := client_of_queue (s := s) (c := c) (by simp [hqueue])
  rw [stageOf_eq hc] at hwaiting
  rw [queueOf_eq hc] at hqueue
  refine Option.isSome_iff_exists.1 ?_
  simp only [step, hc, hwaiting, hqueue, Option.isSome_some]

theorem can_prepare (setup : Setup) (attempts : AttachmentKind → Attempt) {m : Message}
    (hpreparing : s.stageOf c = .preparing m) :
    ∃ s', step setup s (.prepared c attempts) = some s' := by
  obtain ⟨d, hc⟩ := client_of_stage (s := s) (c := c) (by simp [hpreparing])
  rw [stageOf_eq hc] at hpreparing
  refine Option.isSome_iff_exists.1 ?_
  simp only [step, hc, hpreparing, Option.isSome_some]

theorem can_finish (setup : Setup) {media : Media.Transient}
    (hdelivering : s.stageOf c = .delivering media) :
    ∃ s', step setup s (.handled c) = some s' := by
  obtain ⟨d, hc⟩ := client_of_stage (s := s) (c := c) (by simp [hdelivering])
  rw [stageOf_eq hc] at hdelivering
  refine Option.isSome_iff_exists.1 ?_
  simp only [step, hc, hdelivering, Option.isSome_some]

end Progress

end ChatChannel.Native
