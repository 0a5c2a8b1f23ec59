import ChatChannel.Proofs.Bridge.Backoff
import ChatChannel.Proofs.Bridge.Delivery
import ChatChannel.Proofs.Bridge.Overlap
import Mathlib.Data.List.Chain

/-!
# ChatChannel.Proofs.Bridge.Reconnect

The schedule by which a read loop that nobody tells to end gets its connection back. What the loop
does about it are its beats, each with its time: a socket is lost and released, a dial begins, and
it fails or gives a new socket. `Follows` says which beat comes after which one, and when; `After`
says what the channel shows from one beat up to the next one.

* `inTime_of_step`: a move makes no beat, or the one that has to come.
* `onSchedule_of_run`: hence a run makes them in order, each in its time.
* `After.dialsAt`: the dial that is due does come.
* `reconnects_on_schedule`: all of it, for every run, with the end of a loop whose token fires
  while it waits for its next dial.
-/

namespace ChatChannel.Bridge

/-- What happens to the connection of a read loop, and when. -/
inductive Beat where
  /-- A read fails: the peer has closed the connection, or it is broken. -/
  | lost (time : Nat)
  /-- The published socket is taken back. -/
  | released (time : Nat)
  | dialed (time : Nat)
  | failed (time : Nat) (fault : DialFault)
  /-- The dial gives a socket that is not published yet. -/
  | opened (time socket : Nat)
  | connected (time socket : Nat)
  deriving DecidableEq, Repr

/-- The beat that loop `k` makes with a move. -/
def beats (k : Nat) (s : State) : Move → List Beat
  | .receive j .lost => if j = k then [.lost s.now] else []
  | .proceed j answer =>
    if j = k then
      match s.pointOf? k, answer with
      | some .dropping, .ready => [.released s.now]
      | some (.resting _), .ready => [.dialed s.now]
      | some (.dialing _), .ready => [.opened s.now s.sockets]
      | some (.dialing _), .failed text => [.failed s.now (.refused text)]
      | some (.dialing _), .expired => [.failed s.now .late]
      | some (.publishing socket), .ready => [.connected s.now socket]
      | _, _ => []
    else []
  | _ => []

/-- The loop has nothing to wait for: it takes its socket back or publishes one. That the peer
agrees to the close of a socket is taken to need no time either. -/
def LoopPoint.isBrief : LoopPoint → Bool
  | .dropping => true
  | .closing _ => true
  | .publishing _ => true
  | _ => false

/-- Time passes while loop `k` has only to go on. -/
def State.dawdles (s : State) (k : Nat) : Move → Bool
  | .elapse millis => millis ≠ 0 && (s.pointOf? k).any LoopPoint.isBrief
  | _ => false

/-- What disturbs loop `k`: moves that ask for its end, and the time that it loses. -/
def disturbances (k token : Nat) (s : State) (m : Move) : List Move :=
  if m.spares token && !s.dawdles k m then [] else [m]

/-- The time at which the dial begins that comes after a beat. -/
def Beat.due? (timing : BridgeTiming) : Beat → Option Nat
  | .released time => some (time + timing.errorBackoff.toNat)
  | .failed time _ => some (time + timing.idleBackoff.toNat)
  | _ => none

/-- Which beat comes after which one, and when. -/
inductive Follows (timing : BridgeTiming) : Beat → Beat → Prop where
  | release {time : Nat} : Follows timing (.lost time) (.released time)
  | retry {time : Nat} :
      Follows timing (.released time) (.dialed (time + timing.errorBackoff.toNat))
  | refused {time now : Nat} {text : String} (h : time ≤ now)
      (hdue : now ≤ time + timing.handshakeTimeout.toNat) :
      Follows timing (.dialed time) (.failed now (.refused text))
  | late {time : Nat} :
      Follows timing (.dialed time) (.failed (time + timing.handshakeTimeout.toNat) .late)
  | opened {time now socket : Nat} (h : time ≤ now)
      (hdue : now ≤ time + timing.handshakeTimeout.toNat) :
      Follows timing (.dialed time) (.opened now socket)
  | connect {time socket : Nat} : Follows timing (.opened time socket) (.connected time socket)
  | again {time : Nat} {fault : DialFault} :
      Follows timing (.failed time fault) (.dialed (time + timing.idleBackoff.toNat))
  | lose {time now socket : Nat} (h : time ≤ now) :
      Follows timing (.connected time socket) (.lost now)

/-- There is no socket to write to yet. -/
structure Dialing (s : State) : Prop where
  writer : s.writer = none
  connection : s.connection = .connecting

/-- This is the socket to write to, and the channel shows that there is one. -/
structure Up (s : State) (socket : Nat) : Prop where
  writer : s.writer = some socket
  connection : s.connection = .connected

/-- How things are with loop `k` after a beat, up to the next one. -/
inductive After (timing : BridgeTiming) (k : Nat) (s : State) : Beat → Prop where
  | lost (hp : s.pointOf? k = some .dropping) : After timing k s (.lost s.now)
  | closing {socket : Nat} (hp : s.pointOf? k = some (.closing socket)) (hdown : Down s) :
      After timing k s (.released s.now)
  | released {time : Nat}
      (hp : s.pointOf? k = some (.resting (time + timing.errorBackoff.toNat)))
      (hdown : Down s) (hdue : s.now ≤ time + timing.errorBackoff.toNat) :
      After timing k s (.released time)
  | dialed {time : Nat}
      (hp : s.pointOf? k = some (.dialing (time + timing.handshakeTimeout.toNat)))
      (hdialing : Dialing s) (h : time ≤ s.now)
      (hdue : s.now ≤ time + timing.handshakeTimeout.toNat) : After timing k s (.dialed time)
  | opened {socket : Nat} (hp : s.pointOf? k = some (.publishing socket))
      (hw : s.writer = none) (hlatest : socket + 1 = s.sockets) :
      After timing k s (.opened s.now socket)
  | failed {time : Nat} {fault : DialFault}
      (hp : s.pointOf? k = some (.resting (time + timing.idleBackoff.toNat)))
      (hdown : Down s) (hdue : s.now ≤ time + timing.idleBackoff.toNat) :
      After timing k s (.failed time fault)
  | connected {time socket : Nat} {p : LoopPoint} (hp : s.pointOf? k = some p)
      (hreads : p.socket? = some socket) (hup : Up s socket) (h : time ≤ s.now) :
      After timing k s (.connected time socket)

/-- A loop that nobody tells to end has kept to its schedule so far. -/
structure OnSchedule (setup : Setup) (k token : Nat) (past : List Beat) (s : State) : Prop where
  calm : Calm k token s
  orderly : Orderly s
  faithful : Faithful s
  chain : past.IsChain (Follows setup.timing)
  after : ∀ beat ∈ past.getLast?, After setup.timing k s beat

def Beat.dial? : Beat → Option Nat
  | .dialed time => some time
  | _ => none

/-- Loop `k` can come to dial at this time; nothing disturbs it up to there, and this is its next
beat. -/
def State.DialsAt (setup : Setup) (s : State) (k token due : Nat) : Prop :=
  ∃ later s', exec setup s later = some s' ∧
    observe (step setup) (disturbances k token) s later = [] ∧
    observe (step setup) (beats k) s later = [.dialed due]

section

variable {setup : Setup} {s s' : State} {m : Move} {k token : Nat} {p : LoopPoint} {beat : Beat}
  {answer : Answer}

/-! ## One move -/

theorem Calm.pointOf? (h : Calm k token s) :
    ∃ p, s.pointOf? k = some p ∧ p.isLive = true := by
  obtain ⟨l, hl, -, -, hlive⟩ := h.live
  exact ⟨l.point, pointOf?_eq hl, hlive⟩

theorem undisturbed_iff :
    disturbances k token s m = [] ↔ m.spares token = true ∧ s.dawdles k m = false := by
  unfold disturbances
  split <;> simp_all

/-- A move that leaves alone what a beat has brought about. -/
theorem After.congr (h : After setup.timing k s beat) (hp : s'.pointOf? k = s.pointOf? k)
    (hw : s'.writer = s.writer) (hc : s'.connection = s.connection)
    (hsockets : s'.sockets = s.sockets) (hnow : s'.now = s.now) :
    After setup.timing k s' beat := by
  have down : Down s → Down s' := fun hd => ⟨hw.trans hd.writer, hc.trans hd.connection⟩
  have dialing : Dialing s → Dialing s' := fun hd => ⟨hw.trans hd.writer, hc.trans hd.connection⟩
  cases h with
  | lost hp' => exact hnow ▸ .lost (hp.trans hp')
  | closing hp' hd => exact hnow ▸ .closing (hp.trans hp') (down hd)
  | released hp' hd hdue => exact .released (hp.trans hp') (down hd) (hnow ▸ hdue)
  | dialed hp' hd h hdue => exact .dialed (hp.trans hp') (dialing hd) (hnow ▸ h) (hnow ▸ hdue)
  | opened hp' hw' hlatest =>
    exact hnow ▸ .opened (hp.trans hp') (hw.trans hw') (hlatest.trans hsockets.symm)
  | failed hp' hd hdue => exact .failed (hp.trans hp') (down hd) (hnow ▸ hdue)
  | connected hp' hreads hup h =>
    have hup' : Up s' _ := ⟨hw.trans hup.writer, hc.trans hup.connection⟩
    exact .connected (hp.trans hp') hreads hup' (hnow ▸ h)

/-- Time does not pass the moment that the loop waits for. -/
theorem within_of_mayElapse {millis moment : Nat} (h : s.mayElapse millis = true)
    (hp : s.pointOf? k = some p) (hmoment : p.moment? = some moment) :
    s.now + millis ≤ moment := by
  obtain ⟨l, hl, rfl⟩ := Option.map_eq_some_iff.1 hp
  simp only [State.mayElapse, Bool.and_eq_true, List.all_eq_true] at h
  have hwithin := (h.1 l (List.mem_of_getElem? hl)).2
  simpa [hmoment] using hwithin

theorem After.elapse {millis : Nat} (h : After setup.timing k s beat)
    (helapse : s.mayElapse millis = true) (hbrief : s.dawdles k (.elapse millis) = false) :
    After setup.timing k { s with now := s.now + millis } beat := by
  have brief : ∀ {q : LoopPoint}, s.pointOf? k = some q → q.isBrief = true →
      After setup.timing k { s with now := s.now + millis } beat := by
    intro q hq hbriefly
    obtain rfl : millis = 0 := by simpa [State.dawdles, hq, hbriefly] using hbrief
    exact h.congr rfl rfl rfl rfl rfl
  cases h with
  | lost hp => exact brief hp rfl
  | closing hp hd => exact brief hp rfl
  | released hp hd hdue =>
    exact .released hp ⟨hd.writer, hd.connection⟩ (within_of_mayElapse helapse hp rfl)
  | dialed hp hd h hdue =>
    refine .dialed hp ⟨hd.writer, hd.connection⟩ ?_ (within_of_mayElapse helapse hp rfl)
    exact Nat.le_add_right_of_le h
  | opened hp hw hlatest => exact brief hp rfl
  | failed hp hd hdue =>
    exact .failed hp ⟨hd.writer, hd.connection⟩ (within_of_mayElapse helapse hp rfl)
  | connected hp hreads hup h =>
    exact .connected hp hreads ⟨hup.writer, hup.connection⟩ (Nat.le_add_right_of_le h)

/-- What the point of a loop tells about its last beat. -/
def LoopPoint.Recalls (timing : BridgeTiming) (s : State) (beat : Beat) : LoopPoint → Prop
  | .dropping => beat = .lost s.now
  | .closing _ => beat = .released s.now ∧ Down s
  | .resting wake => beat.due? timing = some wake ∧ s.now ≤ wake ∧ Down s
  | .dialing deadline => ∃ time, beat = .dialed time ∧
      deadline = time + timing.handshakeTimeout.toNat ∧ time ≤ s.now ∧ s.now ≤ deadline ∧
      Dialing s
  | .publishing socket => beat = .opened s.now socket
  | .reading socket => ∃ time, beat = .connected time socket ∧ time ≤ s.now ∧ Up s socket
  | .delivering socket => ∃ time, beat = .connected time socket ∧ time ≤ s.now ∧ Up s socket
  | _ => False

theorem After.recalls (h : After setup.timing k s beat) (hp : s.pointOf? k = some p) :
    p.Recalls setup.timing s beat := by
  cases h with
  | lost hp' => cases hp'.symm.trans hp; rfl
  | closing hp' hd => cases hp'.symm.trans hp; exact ⟨rfl, hd⟩
  | released hp' hd hdue => cases hp'.symm.trans hp; exact ⟨rfl, hdue, hd⟩
  | dialed hp' hd h hdue => cases hp'.symm.trans hp; exact ⟨_, rfl, rfl, h, hdue, hd⟩
  | opened hp' hw hlatest => cases hp'.symm.trans hp; rfl
  | failed hp' hd hdue => cases hp'.symm.trans hp; exact ⟨rfl, hdue, hd⟩
  | @connected time socket q hp' hreads hup h =>
    obtain rfl : q = p := Option.some.inj (hp'.symm.trans hp)
    cases q with
    | reading => cases hreads; exact ⟨_, rfl, h, hup⟩
    | delivering => cases hreads; exact ⟨_, rfl, h, hup⟩
    | _ => cases hreads

theorem follows_of_due {timing : BridgeTiming} {wake : Nat} (h : beat.due? timing = some wake) :
    Follows timing beat (.dialed wake) := by
  cases beat with
  | released time => cases h; exact .retry
  | failed time fault => cases h; exact .again
  | _ => cases h

/-- A move makes no beat and leaves alone what the last one has brought about, or it makes the beat
that has to come. -/
inductive InTime (setup : Setup) (k : Nat) (s s' : State) (made : List Beat) : Prop where
  | quiet (hmade : made = [])
      (hafter : ∀ beat, After setup.timing k s beat → After setup.timing k s' beat)
  | beat {next : Beat} (hmade : made = [next]) (hafter : After setup.timing k s' next)
      (hfollows : ∀ beat, After setup.timing k s beat → Follows setup.timing beat next)

theorem InTime.same {made : List Beat} (hmade : made = []) (hp : s'.pointOf? k = s.pointOf? k)
    (hw : s'.writer = s.writer) (hc : s'.connection = s.connection)
    (hsockets : s'.sockets = s.sockets) (hnow : s'.now = s.now) : InTime setup k s s' made :=
  .quiet hmade fun _ h => h.congr hp hw hc hsockets hnow

theorem inTime_of_loopStep (ho : Orderly s) (hf : Faithful s) (hp : s.pointOf? k = some p)
    (hlive : p.isLive = true) (hs : LoopStep setup s k p answer s') :
    InTime setup k s s' (beats k s (.proceed k answer)) := by
  have at_next : ∀ {t : State} (p' : LoopPoint), t.loops = s.loops →
      (t.loopAt k p').pointOf? k = some p' := fun p' hl =>
    pointOf?_loopAt ((pointOf?_congr hl k).trans hp)
  have no_writer : p.hasSocket = false → s.writer = none :=
    hf.no_writer ho hp (goes_on_of_loopStep hs).1
  simp only [beats, if_true, hp]
  cases hs with
  | delivered =>
    refine .quiet rfl fun beat h => ?_
    obtain ⟨time, rfl, hnow, hup⟩ := h.recalls hp
    exact .connected (at_next _ rfl) rfl ⟨hup.writer, hup.connection⟩ hnow
  | close =>
    refine .beat rfl (.closing (at_next _ rfl) ⟨rfl, rfl⟩) fun beat h => ?_
    obtain rfl := h.recalls hp
    exact .release
  | nothing =>
    refine .beat rfl (.released (at_next _ rfl) ⟨rfl, rfl⟩ (Nat.le_add_right _ _)) fun beat h => ?_
    obtain rfl := h.recalls hp
    exact .release
  | closed =>
    refine .quiet (by cases answer <;> rfl) fun beat h => ?_
    obtain ⟨rfl, hdown⟩ := h.recalls hp
    exact .released (at_next _ rfl) ⟨hdown.writer, hdown.connection⟩ (Nat.le_add_right _ _)
  | dial hwake =>
    refine .beat rfl (.dialed (at_next _ rfl) ⟨no_writer rfl, rfl⟩ (Nat.le_refl _)
      (Nat.le_add_right _ _)) fun beat h => ?_
    obtain ⟨hdue, hnow, -⟩ := h.recalls hp
    exact Nat.le_antisymm hwake hnow ▸ follows_of_due hdue
  | opened =>
    refine .beat rfl (.opened (at_next _ rfl) (no_writer rfl) rfl) fun beat h => ?_
    obtain ⟨time, rfl, rfl, hnow, hdue, -⟩ := h.recalls hp
    exact .opened hnow hdue
  | refused =>
    refine .beat rfl (.failed (at_next _ rfl) ⟨no_writer rfl, rfl⟩ (Nat.le_add_right _ _))
      fun beat h => ?_
    obtain ⟨time, rfl, rfl, hnow, hdue, -⟩ := h.recalls hp
    exact .refused hnow hdue
  | late hlate =>
    refine .beat rfl (.failed (at_next _ rfl) ⟨no_writer rfl, rfl⟩ (Nat.le_add_right _ _))
      fun beat h => ?_
    obtain ⟨time, rfl, rfl, hnow, hdue, -⟩ := h.recalls hp
    exact Nat.le_antisymm hdue hlate ▸ .late
  | published =>
    refine .beat rfl (.connected (at_next _ rfl) rfl ⟨rfl, rfl⟩ (Nat.le_refl _)) fun beat h => ?_
    obtain rfl := h.recalls hp
    exact .connect
  | endClose => cases hlive
  | endNothing => cases hlive
  | endClosed => cases hlive

theorem inTime_of_receive {socket : Nat} (hp : s.pointOf? k = some (.reading socket))
    (incoming : Incoming) :
    InTime setup k s (s.read k socket incoming) (beats k s (.receive k incoming)) := by
  generalize hread : s.read k socket incoming = s₁
  cases read_inv hread with
  | lost =>
    refine .beat (if_pos rfl) (.lost (pointOf?_loopAt hp)) fun beat h => ?_
    obtain ⟨time, rfl, hnow, -⟩ := h.recalls hp
    exact .lose hnow
  | skipped hlost =>
    refine .same ?_ rfl rfl rfl rfl rfl
    cases incoming <;> first | rfl | exact absurd rfl hlost
  | @delivered _ message hlost hadmits =>
    refine .quiet ?_ fun beat h => ?_
    · cases incoming <;> first | rfl | exact absurd rfl hlost
    · obtain ⟨time, rfl, hnow, hup⟩ := h.recalls hp
      have hhandled : ({ s with bus := s.bus.handle ⟨message, []⟩ } : State).pointOf? k =
          some (.reading socket) := hp
      exact .connected (pointOf?_loopAt hhandled) rfl ⟨hup.writer, hup.connection⟩ hnow

/-- A loop that is not disturbed keeps to its schedule with every move. -/
theorem inTime_of_step (h : Calm k token s) (ho : Orderly s) (hf : Faithful s)
    (hm : disturbances k token s m = []) (hs : Step setup s m s') :
    InTime setup k s s' (beats k s m) := by
  obtain ⟨hspares, hbrief⟩ := undisturbed_iff.1 hm
  cases hs with
  | call c => cases c <;> exact .same rfl rfl rfl rfl rfl rfl
  -- No start and no stop is in flight.
  | start hi _ => exact absurd hi h.not_start
  | stop hi _ => exact absurd hi h.not_stop
  | send _ hs => cases hs <;> exact .same rfl rfl rfl rfl rfl rfl
  | cancel t => exact .same rfl rfl rfl rfl rfl rfl
  | elapse helapse => exact .quiet rfl fun _ hbeat => hbeat.elapse helapse hbrief
  | @receive j socket l incoming hl hp =>
    obtain rfl := h.eq_of_point hl (by rw [hp]; simp)
    exact inTime_of_receive (hp ▸ pointOf?_eq hl) incoming
  | halt hl hh => exact absurd (h.not_isHalting hl) (by simp [hh])
  | @proceed j l point answer _ hl hp hs =>
    obtain rfl := h.eq_of_point hl (hp ▸ (goes_on_of_loopStep hs).1)
    have hpoint : s.pointOf? j = some point := hp ▸ pointOf?_eq hl
    obtain ⟨q, hq, hlive⟩ := h.pointOf?
    obtain rfl : q = point := Option.some.inj (hq.symm.trans hpoint)
    exact inTime_of_loopStep ho hf hpoint hlive hs

/-! ## All moves -/

theorem OnSchedule.next {past made : List Beat} (h : OnSchedule setup k token past s)
    (hcalm : Calm k token s') (ho : Orderly s') (hf : Faithful s')
    (hmade : InTime setup k s s' made) : OnSchedule setup k token (past ++ made) s' := by
  cases hmade with
  | quiet hmade hafter =>
    subst hmade
    rw [List.append_nil]
    exact ⟨hcalm, ho, hf, h.chain, fun beat hbeat => hafter beat (h.after beat hbeat)⟩
  | @beat next hmade hafter hfollows =>
    subst hmade
    refine ⟨hcalm, ho, hf, ?_, fun beat hbeat => ?_⟩
    · refine List.isChain_append.2 ⟨h.chain, .singleton _, fun beat hbeat y hy => ?_⟩
      obtain rfl : next = y := by simpa using hy
      exact hfollows beat (h.after beat hbeat)
    · obtain rfl : next = beat := by simpa using hbeat
      exact hafter

theorem onSchedule_of_step {past : List Beat} (h : OnSchedule setup k token past s)
    (hm : disturbances k token s m = []) (hs : step setup s m = some s') :
    OnSchedule setup k token (past ++ beats k s m) s' := by
  have hstep : Step setup s m s' := step_inv hs
  exact h.next (calm_of_step h.calm (undisturbed_iff.1 hm).1 hstep).1
    (orderly_of_step h.orderly hstep) (faithful_of_step h.faithful h.orderly hstep)
    (inTime_of_step h.calm h.orderly h.faithful hm hstep)

theorem onSchedule_of_run {past : List Beat} {moves : List Move}
    (h : OnSchedule setup k token past s)
    (hm : observe (step setup) (disturbances k token) s moves = [])
    (hrun : follow (step setup) s moves = some s') :
    OnSchedule setup k token (past ++ observe (step setup) (beats k) s moves) s' :=
  follow_history (beats k) (disturbances k token) (fun h hm hs => onSchedule_of_step h hm hs) past
    h hm hrun

/-! ## The next dial -/

theorem dials_of_loopStep (hp : s.pointOf? k = some p) (hs : LoopStep setup s k p answer s') :
    s'.dials = s.dials ++ (beats k s (.proceed k answer)).filterMap Beat.dial? := by
  simp only [beats, if_true, hp]
  cases hs with
  | close => simp [State.dials, State.loopAt, State.onLoop, State.record, State.dropWriter,
      List.filterMap_cons, Entry.dial?, Beat.dial?]
  | dial => simp [State.dials, State.redial, State.loopAt, State.onLoop, State.record, State.dial,
      Entry.dial?, Beat.dial?]
  | endClose => simp [State.dials, State.loopAt, State.onLoop, State.record, State.dropWriter,
      Entry.dial?]
  | closed => cases answer <;> exact (List.append_nil _).symm
  | endClosed => cases answer <;> exact (List.append_nil _).symm
  | _ => exact (List.append_nil _).symm

/-- While nobody tells the loop to end, all dials are its own. -/
theorem dials_of_step (h : Calm k token s) (hs : Step setup s m s') :
    s'.dials = s.dials ++ (beats k s m).filterMap Beat.dial? := by
  have same : s'.log = s.log → (beats k s m).filterMap Beat.dial? = [] →
      s'.dials = s.dials ++ (beats k s m).filterMap Beat.dial? := by
    intro hlog hnone
    rw [hnone, List.append_nil, State.dials, hlog, State.dials]
  cases hs with
  | call c => cases c <;> exact same rfl rfl
  | start hi _ => exact absurd hi h.not_start
  | stop hi _ => exact absurd hi h.not_stop
  | send _ hs =>
    cases hs with
    | write => simp [State.dials, State.setOperation, State.record, Entry.dial?, beats]
    | _ => exact same rfl rfl
  | @receive j socket l incoming =>
    have hnone : (beats k s (.receive j incoming)).filterMap Beat.dial? = [] := by
      unfold beats
      split <;> first | rfl | (split <;> rfl) | simp_all
    generalize hread : s.read j socket incoming = s₁ at same ⊢
    cases read_inv hread <;> exact same rfl hnone
  | @proceed j l point answer _ hl hp hs =>
    obtain rfl := h.eq_of_point hl (hp ▸ (goes_on_of_loopStep hs).1)
    exact dials_of_loopStep (hp ▸ pointOf?_eq hl) hs
  | _ => exact same rfl rfl

theorem State.DialsAt.of_step {due : Nat} (hs : step setup s m = some s')
    (hm : disturbances k token s m = []) (hbeats : beats k s m = [])
    (h : s'.DialsAt setup k token due) : s.DialsAt setup k token due := by
  obtain ⟨later, s₁, hrun, hcalm, hdialed⟩ := h
  refine ⟨m :: later, s₁, ?_, ?_, ?_⟩
  · simp only [exec, hs, Option.bind_some, hrun]
  · rw [observe_cons hs, hm, hcalm, List.nil_append]
  · rw [observe_cons hs, hbeats, hdialed, List.nil_append]

theorem dialsAt_of_rested (hp : s.pointOf? k = some (.resting s.now)) :
    s.DialsAt setup k token s.now := by
  obtain ⟨l, hl, hpoint⟩ := Option.map_eq_some_iff.1 hp
  have hdial : step setup s (.proceed k .ready) = some (s.redial setup k) := by
    simp only [step, hl, hpoint, State.proceed, Nat.le_refl, if_true]
  refine ⟨[.proceed k .ready], s.redial setup k, ?_, ?_, ?_⟩
  · simp only [exec, hdial, Option.bind_some]
  · rw [observe_cons hdial, undisturbed_iff.2 ⟨rfl, rfl⟩]
    rfl
  · rw [observe_cons hdial]
    simp [beats, hp, observe]

theorem Calm.dialsAt (h : Calm k token s) {wake : Nat}
    (hp : s.pointOf? k = some (.resting wake)) (hnow : s.now ≤ wake) :
    s.DialsAt setup k token wake := by
  obtain ⟨l, hl, hpoint⟩ := Option.map_eq_some_iff.1 hp
  obtain ⟨rest, rfl⟩ := Nat.exists_eq_add_of_le hnow
  have hmay := h.mayElapse ⟨l, hl, hpoint⟩ hnow
  rw [Nat.add_sub_cancel_left] at hmay
  have helapse : step setup s (.elapse rest) = some { s with now := s.now + rest } := if_pos hmay
  refine .of_step helapse (undisturbed_iff.2 ⟨rfl, ?_⟩) rfl (dialsAt_of_rested hp)
  simp [State.dawdles, hp, LoopPoint.isBrief]

/-- The dial that is due after a beat does come, if the loop is left alone. -/
theorem After.dialsAt (h : Calm k token s) (hafter : After setup.timing k s beat) {due : Nat}
    (hdue : beat.due? setup.timing = some due) : s.DialsAt setup k token due := by
  cases hafter with
  | released hp _ hnow => cases hdue; exact h.dialsAt hp hnow
  | failed hp _ hnow => cases hdue; exact h.dialsAt hp hnow
  | @closing socket hp =>
    cases hdue
    obtain ⟨l, hl, hpoint⟩ := Option.map_eq_some_iff.1 hp
    have hclose : step setup s (.proceed k .ready) =
        some (s.rest k setup.timing.errorBackoff) := by
      simp only [step, hl, hpoint, State.proceed]
    have hcalm : Calm k token (s.rest k setup.timing.errorBackoff) := h.loopAt rfl
    refine .of_step hclose (undisturbed_iff.2 ⟨rfl, rfl⟩) (by simp [beats, hp]) ?_
    exact hcalm.dialsAt (pointOf?_loopAt hp) (Nat.le_add_right _ _)
  | _ => cases hdue

/-! ## The schedule -/

/-- What a loop that nobody disturbs leaves alone, and the dials of the transport meanwhile. -/
theorem undisturbed_run {moves : List Move} (h : Calm k token s)
    (hm : observe (step setup) (disturbances k token) s moves = [])
    (hrun : follow (step setup) s moves = some s') :
    (Calm k token s' ∧ s'.bus.running = s.bus.running) ∧
      s'.dials = s.dials ++ (observe (step setup) (beats k) s moves).filterMap Beat.dial? := by
  refine follow_history
    (I := fun past t => (Calm k token t ∧ t.bus.running = s.bus.running) ∧
      t.dials = s.dials ++ past.filterMap Beat.dial?)
    (beats k) (disturbances k token) ?_ [] ⟨⟨h, rfl⟩, (List.append_nil _).symm⟩ hm hrun
  intro past t m t' ⟨⟨ht, hrunning⟩, hdials⟩ hm hstep
  have hs : Step setup t m t' := step_inv hstep
  obtain ⟨ht', hsame⟩ := calm_of_step ht (undisturbed_iff.1 hm).1 hs
  refine ⟨⟨ht', hsame.trans hrunning⟩, ?_⟩
  rw [dials_of_step ht hs, hdials, List.filterMap_append, List.append_assoc]

/-- A loop that nobody tells to end gets its connection back on schedule: its beats follow each
other in time, what the channel shows goes with them, and nobody else dials. It is there for the
next beat, and the running flag stays as it is. If its token fires while it waits for its next dial,
it ends without it. -/
theorem reconnects_on_schedule {name : String} {allow : List String} {before moves : List Move}
    (hbefore : exec setup (.initial (.new name allow)) before = some s) (h : Calm k token s)
    (hm : observe (step setup) (disturbances k token) s moves = [])
    (hrun : exec setup s moves = some s') :
    (observe (step setup) (beats k) s moves).IsChain (Follows setup.timing) ∧
      (∀ beat ∈ (observe (step setup) (beats k) s moves).getLast?,
        After setup.timing k s' beat ∧
          ∀ due, beat.due? setup.timing = some due → s'.DialsAt setup k token due) ∧
      s'.dials = s.dials ++ (observe (step setup) (beats k) s moves).filterMap Beat.dial? ∧
      (Calm k token s' ∧ s'.bus.running = s.bus.running ∧ s'.ReadsAgain setup k) ∧
      ∀ wake, s'.pointOf? k = some (.resting wake) → s'.now < wake →
        ∀ later s'', (∀ m ∈ later, m.callsNoOther = true) →
          exec setup s' (.cancel token :: later) = some s'' →
          EndsUndialed setup k ((later.filterMap Move.loop?).count k) s' s'' := by
  have hall : exec setup (.initial (.new name allow)) (before ++ moves) = some s' := by
    rw [exec_eq_follow] at hbefore hrun ⊢
    exact follow_append hbefore hrun
  obtain ⟨ho, hf⟩ := wired_of_run rfl hbefore
  obtain ⟨ho', hf'⟩ := wired_of_run rfl hall
  have hloss : s'.ShowsLoss := showsLoss_of_run hall
  rw [exec_eq_follow] at hrun
  have hschedule : OnSchedule setup k token ([] ++ observe (step setup) (beats k) s moves) s' :=
    onSchedule_of_run ⟨h, ho, hf, .nil, nofun⟩ hm hrun
  rw [List.nil_append] at hschedule
  obtain ⟨⟨hcalm, hrunning⟩, hdials⟩ := undisturbed_run h hm hrun
  refine ⟨hschedule.chain, fun beat hbeat => ?_, hdials, ⟨hcalm, hrunning, hcalm.reads_again⟩,
    fun wake hp hwake later s'' hlater hend => ?_⟩
  · have hafter : After setup.timing k s' beat := hschedule.after beat hbeat
    exact ⟨hafter, fun due hdue => hafter.dialsAt hcalm hdue⟩
  · exact hcalm.ends_undialed ho' hf' hloss hp hwake hlater hend

end

/-- A socket is lost, one dial is refused, the next one succeeds after a while, and its socket is
lost as well. -/
def twoLosses : List Move :=
  [.elapse 500, .receive 0 .lost, .proceed 0 .ready, .proceed 0 .ready, .elapse 2000,
    .proceed 0 .ready, .proceed 0 (.failed "refused"), .elapse 1000, .proceed 0 .ready, .elapse 40,
    .proceed 0 .ready, .proceed 0 .ready, .elapse 60, .receive 0 .lost, .proceed 0 .ready,
    .proceed 0 .ready, .elapse 1999]

theorem twoLosses_on_schedule :
    ∃ s' s'', exec ⟨"ws://bridge", .usual⟩ (listening (.new channelName []) 7) twoLosses = some s' ∧
      observe (step ⟨"ws://bridge", .usual⟩) (beats 0) (listening (.new channelName []) 7)
          twoLosses =
        [.lost 500, .released 500, .dialed 2500, .failed 2500 (.refused "refused"), .dialed 3500,
          .opened 3540 1, .connected 3540 1, .lost 3600, .released 3600] ∧
      s'.dials = [0, 2500, 3500] ∧ s'.DialsAt ⟨"ws://bridge", .usual⟩ 0 7 5600 ∧
      exec ⟨"ws://bridge", .usual⟩ s' [.cancel 7, .halt 0, .proceed 0 .ready] = some s'' ∧
      s''.dials = [0, 2500, 3500] ∧ Down s'' ∧ s''.pointOf? 0 = some .ended ∧
      s''.bus.running = false := by
  have hbefore := exec_start ⟨"ws://bridge", .usual⟩ (.new channelName []) 7
  have hcalm : Calm 0 7 (listening (.new channelName []) 7) := calm_listening _ 7
  have hm : observe (step ⟨"ws://bridge", .usual⟩) (disturbances 0 7)
      (listening (.new channelName []) 7) twoLosses = [] := by decide +kernel
  have hbeats : observe (step ⟨"ws://bridge", .usual⟩) (beats 0) (listening (.new channelName []) 7)
      twoLosses =
        [.lost 500, .released 500, .dialed 2500, .failed 2500 (.refused "refused"), .dialed 3500,
          .opened 3540 1, .connected 3540 1, .lost 3600, .released 3600] := by decide +kernel
  obtain ⟨s', s'', hrun, hp, hnow, hend⟩ : ∃ s' s'',
      exec ⟨"ws://bridge", .usual⟩ (listening (.new channelName []) 7) twoLosses = some s' ∧
      s'.pointOf? 0 = some (.resting 5600) ∧ s'.now < 5600 ∧
      exec ⟨"ws://bridge", .usual⟩ s' [.cancel 7, .halt 0, .proceed 0 .ready] = some s'' :=
    ⟨_, _, rfl, rfl, by decide, rfl⟩
  obtain ⟨-, hlast, hdials, -, hcancel⟩ := reconnects_on_schedule hbefore hcalm hm hrun
  rw [hbeats] at hlast hdials
  have hdials : s'.dials = [0, 2500, 3500] := hdials
  have hended := hcancel 5600 hp hnow [.halt 0, .proceed 0 .ready] s'' (by decide) hend
  obtain ⟨hover, hidle⟩ := hended.ended (by decide)
  exact ⟨s', s'', hrun, hbeats, hdials, (hlast _ rfl).2 5600 rfl, hend, hended.dials.trans hdials,
    hended.down, hover, hidle⟩

end ChatChannel.Bridge
