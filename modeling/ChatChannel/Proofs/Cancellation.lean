import ChatChannel.Proofs.Bridge.Delivery
import ChatChannel.Proofs.Bridge.Sockets
import ChatChannel.Proofs.Native.Finality

/-!
# ChatChannel.Proofs.Cancellation

How the two background loops end, the dispatcher of a client and the read loop of the bridge. Where
a loop waits it notices that it was told to end, but it may as well take what is there for it to
handle: nothing prefers one to the other. `Worker` is what both loops have in common.

* `Worker.Lawful`: what each step of a loop keeps; `lawful_of_loop`: both loops are so.
* `Worker.Lawful.takes_none_iff`: a loop takes no more exactly if it notices that it was told at the
  first point where it could do either.
* `told_loop_quits_iff`: this and what else holds of a loop that was told to end.
* `told_and_takes_more`: runs in which it takes more.
-/

namespace ChatChannel

/-! ## What stands at a place of a list -/

section

variable {α : Type} {xs : List α} {j k : Nat} {p : α → Prop}

theorem at_modify {f : α → α} (h : ∃ x, xs[k]? = some x ∧ p x) (hf : ∀ x, p x → p (f x)) :
    ∃ x, (xs.modify j f)[k]? = some x ∧ p x := by
  obtain ⟨x, hx, hp⟩ := h
  rw [List.getElem?_modify, hx]
  by_cases hj : j = k
  · exact ⟨f x, by simp [hj], hf x hp⟩
  · exact ⟨x, by simp [hj], hp⟩

theorem at_append {ys : List α} (h : ∃ x, xs[k]? = some x ∧ p x) :
    ∃ x, (xs ++ ys)[k]? = some x ∧ p x := by
  obtain ⟨x, hx, hp⟩ := h
  have hk : k < xs.length := (List.getElem?_eq_some_iff.1 hx).1
  exact ⟨x, by rw [List.getElem?_append_left hk, hx], hp⟩

end

/-! ## The dispatcher -/

namespace Native

/-- The dispatcher of a client was told to end, by the transport or by the caller. -/
def State.Told (s : State) (c : Nat) : Prop :=
  ∃ d, s.clients[c]? = some d ∧ s.isCancelled d = true

/-- The dispatcher has a message in hand. -/
def Stage.isBusy : Stage → Bool
  | .preparing _ => true
  | .delivering _ => true
  | .waiting => false
  | .ended => false

def Move.takesFor (c : Nat) : Move → Bool
  | .take k => k = c
  | _ => false

def Move.haltsFor (c : Nat) : Move → Bool
  | .halt k => k = c
  | _ => false

section

variable {setup : Setup} {s s' s₁ : State} {m : Move} {i token c k : Nat} {answer : Answer}

theorem isCancelled_congr (hfired : s'.fired = s.fired) : s'.isCancelled = s.isCancelled := by
  funext d
  rw [State.isCancelled, hfired, State.isCancelled]

theorem State.Told.congr (h : s.Told c) (hclients : s'.clients = s.clients)
    (hfired : s'.fired = s.fired) : s'.Told c := by
  rw [State.Told, hclients, isCancelled_congr hfired]
  exact h

theorem State.Told.modify (h : s.Told c) {f : Client → Client}
    (hclients : s'.clients = s.clients.modify k f) (hfired : s'.fired = s.fired)
    (htoken : ∀ d, (f d).token = d.token)
    (hcancelled : ∀ d, d.cancelled = true → (f d).cancelled = true) : s'.Told c := by
  rw [State.Told, hclients, isCancelled_congr hfired]
  refine at_modify h fun d htold => ?_
  rw [State.isCancelled, htoken]
  exact Bool.or_eq_true_iff.2 ((Bool.or_eq_true_iff.1 htold).imp_left (hcancelled d))

theorem State.Told.append (h : s.Told c) {d : Client} (hclients : s'.clients = s.clients ++ [d])
    (hfired : s'.fired = s.fired) : s'.Told c := by
  rw [State.Told, hclients, isCancelled_congr hfired]
  exact at_append h

theorem told_of_releaseStep (h : s.Told c) {point : ReleasePoint} {next : Option ReleasePoint}
    (hs : ReleaseStep s point s₁ next) : s₁.Told c := by
  cases hs with
  | token => exact h.modify rfl rfl (fun _ => rfl) fun _ _ => rfl
  | _ => exact h.congr rfl rfl

theorem told_abandon (h : s.Told c) {error : ChannelError} : (s.abandon i token k error).Told c :=
  h.modify rfl rfl (fun _ => rfl) fun _ _ => rfl

theorem told_of_startStep (h : s.Told c) {point : StartPoint}
    (hs : StartStep setup s i token point answer s') : s'.Told c := by
  cases hs with
  | releasing hs => exact (told_of_releaseStep h hs).congr rfl rfl
  | released hs =>
    refine (told_of_releaseStep h hs).congr ?_ ?_ <;> (unfold State.startReleased; split <;> rfl)
  | makeDir => refine h.congr ?_ ?_ <;> (unfold State.makeStoreDir; split <;> rfl)
  | @opened own =>
    refine h.append (d := ⟨own, false, token, false, [], .waiting⟩) ?_ ?_ <;>
      (unfold State.welcome; split <;> rfl)
  | noChannel => exact told_abandon h
  | notConnected => exact told_abandon h
  | notToPair => exact told_abandon h
  | timedOut => exact told_abandon h
  | rejected => exact told_abandon h
  | closed => exact told_abandon h
  | late => exact told_abandon h
  | _ => exact h.congr rfl rfl

theorem told_dispatch (h : s.Told c) (own : Option Address) (e : Event) :
    (s.dispatch k own e).Told c := by
  cases e with
  | message m =>
    simp only [State.dispatch]
    split
    · exact h.modify rfl rfl (fun _ => rfl) fun _ => id
    · exact h
  | _ => exact h.congr rfl rfl

/-- A dispatcher that was told to end stays told. -/
theorem told_of_step (h : s.Told c) (hs : Step setup s m s') : s'.Told c := by
  cases hs with
  | call call => cases call <;> exact h.congr rfl rfl
  | start _ hs => exact told_of_startStep h hs
  | stop _ hs =>
    cases hs with
    | checked => exact h.congr rfl rfl
    | releasing hs => exact (told_of_releaseStep h hs).congr rfl rfl
    | released hs => exact (told_of_releaseStep h hs).congr rfl rfl
  | send _ hs => cases hs <;> exact h.congr rfl rfl
  | cancel t =>
    obtain ⟨d, hd, htold⟩ := h
    refine ⟨d, hd, ?_⟩
    simp only [State.isCancelled, Bool.or_eq_true, List.contains_eq_mem, decide_eq_true_eq,
      List.mem_append] at htold ⊢
    exact htold.imp_right .inl
  | elapse _ => exact h.congr rfl rfl
  | emit k e =>
    refine h.modify rfl rfl (fun d => ?_) fun d hd => ?_
    · unfold Client.receive
      split <;> rfl
    · unfold Client.receive
      split <;> exact hd
  | setLinked k linked => exact h.modify rfl rfl (fun _ => rfl) fun _ => id
  | setOwn k own => exact h.modify rfl rfl (fun _ => rfl) fun _ => id
  | @take k d e rest =>
    have hleft : (s.onClient k fun d => { d with queue := rest }).Told c :=
      h.modify rfl rfl (fun _ => rfl) fun _ => id
    exact told_dispatch hleft d.own e
  | halt => exact h.modify rfl rfl (fun _ => rfl) fun _ => id
  | prepared _ _ hs => cases hs <;> exact h.modify rfl rfl (fun _ => rfl) fun _ => id
  | handled => exact h.modify rfl rfl (fun _ => rfl) fun _ => id

theorem State.Told.can_halt (setup : Setup) (h : s.Told c) (hwaiting : s.stageOf c = .waiting) :
    ∃ s', step setup s (.halt c) = some s' := by
  obtain ⟨d, hd, htold⟩ := h
  rw [stageOf_eq hd] at hwaiting
  refine Option.isSome_iff_exists.1 ?_
  simp only [step, hd, hwaiting, htold, decide_true, Bool.and_self, if_true, Option.isSome_some]

theorem takes_none_of_ended (h : s.stageOf c = .ended) (hs : step setup s m = some s') :
    m.takesFor c = false := by
  cases turn_of_step (step_inv hs) c with
  | other hm => cases m <;> simp_all [Move.dispatcher?, Move.takesFor]
  | take hwaiting => cases h.symm.trans hwaiting
  | _ => rfl

theorem ended_of_halt (hm : m.haltsFor c = true) (hs : Step setup s m s') :
    s'.stageOf c = .ended := by
  cases turn_of_step hs c with
  | other hne => cases m <;> simp_all [Move.dispatcher?, Move.haltsFor]
  | halt _ _ hstage => exact hstage
  | _ => cases hm

theorem can_take_iff :
    (∃ m s', m.takesFor c = true ∧ step setup s m = some s') ↔
      s.stageOf c = .waiting ∧ s.queueOf c ≠ [] := by
  constructor
  · rintro ⟨m, s', hm, hs⟩
    cases turn_of_step (step_inv hs) c with
    | other hne => cases m <;> simp_all [Move.dispatcher?, Move.takesFor]
    | take hwaiting hqueue => exact ⟨hwaiting, by simp [hqueue]⟩
    | _ => cases hm
  · rintro ⟨hwaiting, hqueue⟩
    obtain ⟨e, rest, hqueue⟩ := List.exists_cons_of_ne_nil hqueue
    obtain ⟨s', hs⟩ := can_take setup hwaiting hqueue
    exact ⟨.take c, s', by simp [Move.takesFor], hs⟩

/-- Only an event that is taken makes the dispatcher busy. -/
theorem busy_of_step (hm : m.takesFor c = false) (hs : Step setup s m s')
    (hbusy : (s'.stageOf c).isBusy = true) : (s.stageOf c).isBusy = true := by
  cases turn_of_step hs c with
  | other _ hsame => rwa [← hsame.stage]
  | emit e _ hstage => rwa [← hstage]
  | take => simp [Move.takesFor] at hm
  | halt _ _ hstage => rw [hstage] at hbusy; cases hbusy
  | prepared hpreparing => rw [hpreparing]; rfl
  | handled hdelivering => rw [hdelivering]; rfl

end

end Native

/-! ## The read loop -/

namespace Bridge

/-- A read loop was told to end, by a later operation or by the caller. -/
def State.Told (s : State) (k : Nat) : Prop :=
  ∃ l, s.loops[k]? = some l ∧ s.isCancelled l = true

/-- The loop waits at a point where it notices that it was told to end. -/
def LoopPoint.attends : LoopPoint → Bool
  | .reading _ => true
  | .resting _ => true
  | _ => false

/-- The loop handles what it has read. -/
def LoopPoint.isBusy : LoopPoint → Bool
  | .delivering _ => true
  | .dropping => true
  | _ => false

def Move.takesFor (k : Nat) : Move → Bool
  | .receive j _ => j = k
  | _ => false

def Move.haltsFor (k : Nat) : Move → Bool
  | .halt j => j = k
  | _ => false

section

variable {setup : Setup} {s s' : State} {m : Move} {k j : Nat} {p p' : LoopPoint} {answer : Answer}

theorem isCancelled_congr (hfired : s'.fired = s.fired) : s'.isCancelled = s.isCancelled := by
  funext l
  rw [State.isCancelled, hfired, State.isCancelled]

theorem State.Told.congr (h : s.Told k) (hloops : s'.loops = s.loops)
    (hfired : s'.fired = s.fired) : s'.Told k := by
  rw [State.Told, hloops, isCancelled_congr hfired]
  exact h

theorem State.Told.modify (h : s.Told k) {f : ReadLoop → ReadLoop}
    (hloops : s'.loops = s.loops.modify j f) (hfired : s'.fired = s.fired)
    (htoken : ∀ l, (f l).token = l.token)
    (hcancelled : ∀ l, l.cancelled = true → (f l).cancelled = true) : s'.Told k := by
  rw [State.Told, hloops, isCancelled_congr hfired]
  refine at_modify h fun l htold => ?_
  rw [State.isCancelled, htoken]
  exact Bool.or_eq_true_iff.2 ((Bool.or_eq_true_iff.1 htold).imp_left (hcancelled l))

theorem State.Told.append (h : s.Told k) {l : ReadLoop} (hloops : s'.loops = s.loops ++ [l])
    (hfired : s'.fired = s.fired) : s'.Told k := by
  rw [State.Told, hloops, isCancelled_congr hfired]
  exact at_append h

/-- A loop that was told to end stays told. -/
theorem told_of_step (h : s.Told k) (hs : Step setup s m s') : s'.Told k := by
  cases hs with
  | call c => cases c <;> exact h.congr rfl rfl
  | start _ hs =>
    cases hs with
    | join => exact h.modify rfl rfl (fun _ => rfl) fun _ _ => rfl
    | published => exact h.append rfl rfl
    | _ => exact h.congr rfl rfl
  | stop _ hs =>
    cases hs with
    | join => exact h.modify rfl rfl (fun _ => rfl) fun _ _ => rfl
    | _ => exact h.congr rfl rfl
  | send _ hs => cases hs <;> exact h.congr rfl rfl
  | cancel t =>
    obtain ⟨l, hl, htold⟩ := h
    refine ⟨l, hl, ?_⟩
    simp only [State.isCancelled, Bool.or_eq_true, List.contains_eq_mem, decide_eq_true_eq,
      List.mem_append] at htold ⊢
    exact htold.imp_right .inl
  | elapse _ => exact h.congr rfl rfl
  | @receive j socket l incoming =>
    generalize hread : s.read j socket incoming = s₁
    cases read_inv hread with
    | skipped => exact h
    | _ => exact h.modify rfl rfl (fun _ => rfl) fun _ => id
  | halt => exact h.modify rfl rfl (fun _ => rfl) fun _ => id
  | proceed _ _ hs => cases hs <;> exact h.modify rfl rfl (fun _ => rfl) fun _ => id

/-- What a move can do to loop `k`. -/
inductive LoopTurn (k : Nat) (s s' : State) : Move → Prop where
  | other {m : Move} (hm : m.takesFor k = false) (hm' : m.haltsFor k = false)
      (h : ∀ p, s.pointOf? k = some p → s'.pointOf? k = some p) : LoopTurn k s s' m
  | receive {socket : Nat} {incoming : Incoming} (hp : s.pointOf? k = some (.reading socket)) :
      LoopTurn k s s' (.receive k incoming)
  | halt {p : LoopPoint} (hp : s.pointOf? k = some p) (hp' : s'.pointOf? k = some .ending) :
      LoopTurn k s s' (.halt k)
  | proceed {p p' : LoopPoint} {answer : Answer} (hp : s.pointOf? k = some p)
      (hp' : s'.pointOf? k = some p') (hidle : p'.isBusy = false)
      (hends : p.isLive = false → p'.isLive = false) : LoopTurn k s s' (.proceed k answer)

theorem loopTurn_of_loopStep (hp : s.pointOf? k = some p) (hs : LoopStep setup s k p answer s') :
    LoopTurn k s s' (.proceed k answer) := by
  have at_next : ∀ {t : State} (p' : LoopPoint), t.loops = s.loops →
      (t.loopAt k p').pointOf? k = some p' := fun p' hl =>
    pointOf?_loopAt ((pointOf?_congr hl k).trans hp)
  cases hs with
  | endClose => exact .proceed hp (at_next _ rfl) rfl id
  | endNothing => exact .proceed hp (at_next _ rfl) rfl id
  | endClosed => exact .proceed hp (at_next _ rfl) rfl id
  | _ => exact .proceed hp (at_next _ rfl) rfl nofun

theorem loopTurn_of_step (hs : Step setup s m s') (k : Nat) : LoopTurn k s s' m := by
  cases hs with
  | call c => cases c <;> exact .other rfl rfl fun _ hp => hp
  | start _ hs => exact .other rfl rfl fun _ hp => point_of_startStep hp hs
  | stop _ hs => exact .other rfl rfl fun _ hp => point_of_stopStep hp hs
  | send _ hs => cases hs <;> exact .other rfl rfl fun _ hp => hp
  | cancel t => exact .other rfl rfl fun _ hp => hp
  | elapse _ => exact .other rfl rfl fun _ hp => hp
  | @receive j socket l incoming hl hp =>
    by_cases hj : j = k
    · subst hj
      exact .receive (hp ▸ pointOf?_eq hl)
    · refine .other (by simp [Move.takesFor, hj]) rfl fun q hq => ?_
      generalize hread : s.read j socket incoming = s₁
      cases read_inv hread with
      | skipped => exact hq
      | _ => exact (pointOf?_loopAt_ne (Ne.symm hj)).trans hq
  | @halt j l hl _ =>
    by_cases hj : j = k
    · subst hj
      exact .halt (pointOf?_eq hl) (pointOf?_loopAt (pointOf?_eq hl))
    · refine .other rfl (by simp [Move.haltsFor, hj]) fun q hq => ?_
      exact (pointOf?_loopAt_ne (Ne.symm hj)).trans hq
  | @proceed j l point answer _ hl hp hs =>
    by_cases hj : j = k
    · subst hj
      exact loopTurn_of_loopStep (hp ▸ pointOf?_eq hl) hs
    · obtain ⟨-, p', hloops, -⟩ := goes_on_of_loopStep hs
      refine .other rfl rfl fun q hq => ?_
      rw [pointOf?_congr hloops]
      exact (pointOf?_loopAt_ne (Ne.symm hj)).trans hq

/-- The loop has noticed that it was told to end. -/
def State.Leaves (s : State) (k : Nat) : Prop :=
  ∃ p, s.pointOf? k = some p ∧ p.isLive = false

theorem leaves_of_step (h : s.Leaves k) (hs : Step setup s m s') : s'.Leaves k := by
  obtain ⟨p, hp, hends⟩ := h
  cases loopTurn_of_step hs k with
  | other _ _ hkept => exact ⟨p, hkept p hp, hends⟩
  | receive hreading => cases hp.symm.trans hreading; cases hends
  | halt _ hp' => exact ⟨_, hp', rfl⟩
  | proceed hp₁ hp' _ hends' =>
    obtain rfl := Option.some.inj (hp.symm.trans hp₁)
    exact ⟨_, hp', hends' hends⟩

theorem takes_none_of_leaves (h : s.Leaves k) (hs : Step setup s m s') :
    m.takesFor k = false := by
  obtain ⟨p, hp, hends⟩ := h
  cases loopTurn_of_step hs k with
  | other hm => exact hm
  | receive hreading => cases hp.symm.trans hreading; cases hends
  | _ => rfl

theorem leaves_of_halt (hm : m.haltsFor k = true) (hs : Step setup s m s') : s'.Leaves k := by
  cases loopTurn_of_step hs k with
  | other _ hm' => rw [hm] at hm'; cases hm'
  | halt _ hp' => exact ⟨_, hp', rfl⟩
  | _ => cases hm

theorem State.Told.can_halt (setup : Setup) (h : s.Told k) (hp : s.pointOf? k = some p)
    (hattends : p.attends = true) : ∃ s', step setup s (.halt k) = some s' := by
  obtain ⟨l, hl, htold⟩ := h
  obtain rfl : l.point = p := Option.some.inj ((pointOf?_eq hl).symm.trans hp)
  have hhalting : s.isHalting l = true := by
    unfold State.isHalting
    rw [htold, Bool.true_and]
    cases hpoint : l.point <;> simp_all [LoopPoint.attends]
  exact ⟨_, by simp only [step, hl, hhalting, if_true]; rfl⟩

theorem can_take_iff :
    (∃ m s', m.takesFor k = true ∧ step setup s m = some s') ↔
      ∃ socket, s.pointOf? k = some (.reading socket) := by
  constructor
  · rintro ⟨m, s', hm, hs⟩
    cases loopTurn_of_step (step_inv hs) k with
    | other hm' => rw [hm] at hm'; cases hm'
    | receive hp => exact ⟨_, hp⟩
    | _ => cases hm
  · rintro ⟨socket, hp⟩
    obtain ⟨l, hl, hpoint⟩ := Option.map_eq_some_iff.1 hp
    refine ⟨.receive k .control, s.read k socket .control, by simp [Move.takesFor], ?_⟩
    simp only [step, hl, hpoint]

/-- Only what is read makes the loop busy. -/
theorem busy_of_step (hm : m.takesFor k = false) (hs : Step setup s m s')
    (hknown : s.pointOf? k ≠ none) (hbusy : (s'.pointOf? k).any LoopPoint.isBusy = true) :
    (s.pointOf? k).any LoopPoint.isBusy = true := by
  cases loopTurn_of_step hs k with
  | other _ _ hkept =>
    obtain ⟨p, hp⟩ := Option.ne_none_iff_exists'.1 hknown
    rwa [hp, ← hkept p hp]
  | receive => simp [Move.takesFor] at hm
  | halt _ hp' => rw [hp'] at hbusy; cases hbusy
  | proceed _ hp' hidle =>
    rw [hp', Option.any_some, hidle] at hbusy
    cases hbusy

end

end Bridge

/-! ## Both loops -/

/-- A background loop among the moves of all, with what it does about its end. -/
structure Worker where
  State : Type
  Move : Type
  step : State → Move → Option State
  /-- The loop was told to end. -/
  told : State → Prop
  /-- It waits at a point where it notices that. -/
  attends : State → Prop
  /-- There is something that it can take. -/
  offers : State → Prop
  /-- It has something in hand. -/
  handles : State → Prop
  /-- It has noticed that it was told to end. -/
  leaves : State → Prop
  takes : Move → Bool
  halts : Move → Bool

/-- The loop takes something, or notices that it was told to end. -/
def Worker.decides (w : Worker) (m : w.Move) : Bool :=
  w.takes m || w.halts m

/-- The background loops. -/
inductive Loop where
  | dispatcher (setup : Native.Setup) (client : Nat)
  | reader (setup : Bridge.Setup) (loop : Nat)

def Loop.worker : Loop → Worker
  | .dispatcher setup c =>
    { State := Native.State
      Move := Native.Move
      step := Native.step setup
      told := fun s => s.Told c
      attends := fun s => s.stageOf c = .waiting
      offers := fun s => s.stageOf c = .waiting ∧ s.queueOf c ≠ []
      handles := fun s => (s.stageOf c).isBusy = true
      leaves := fun s => s.stageOf c = .ended
      takes := Native.Move.takesFor c
      halts := Native.Move.haltsFor c }
  | .reader setup k =>
    { State := Bridge.State
      Move := Bridge.Move
      step := Bridge.step setup
      told := fun s => s.Told k
      attends := fun s => ∃ p, s.pointOf? k = some p ∧ p.attends = true
      offers := fun s => ∃ socket, s.pointOf? k = some (.reading socket)
      handles := fun s => (s.pointOf? k).any Bridge.LoopPoint.isBusy = true
      leaves := fun s => s.Leaves k
      takes := Bridge.Move.takesFor k
      halts := Bridge.Move.haltsFor k }

/-- What each step of a loop keeps. -/
structure Worker.Lawful (w : Worker) : Prop where
  told : ∀ {s m s'}, w.told s → w.step s m = some s' → w.told s'
  attends : ∀ {s}, w.told s → w.attends s → ∃ m s', w.halts m = true ∧ w.step s m = some s'
  offers : ∀ {s}, (∃ m s', w.takes m = true ∧ w.step s m = some s') ↔ w.offers s
  handles : ∀ {s m s'}, w.told s → w.takes m = false → w.step s m = some s' → w.handles s' →
    w.handles s
  halts : ∀ {s m s'}, w.halts m = true → w.step s m = some s' → w.leaves s'
  leaves : ∀ {s m s'}, w.leaves s → w.step s m = some s' → w.leaves s' ∧ w.takes m = false

theorem lawful_of_loop (l : Loop) : l.worker.Lawful := by
  cases l with
  | dispatcher setup c =>
    exact
      { told := fun h hs => Native.told_of_step h (Native.step_inv hs)
        attends := fun h hwaiting => by
          obtain ⟨s', hs⟩ := Native.State.Told.can_halt setup h hwaiting
          exact ⟨.halt c, s', decide_eq_true rfl, hs⟩
        offers := Native.can_take_iff
        handles := fun _ hm hs => Native.busy_of_step hm (Native.step_inv hs)
        halts := fun hm hs => Native.ended_of_halt hm (Native.step_inv hs)
        leaves := fun h hs =>
          ⟨(Native.ended_of_step h (Native.step_inv hs)).1, Native.takes_none_of_ended h hs⟩ }
  | reader setup k =>
    exact
      { told := fun h hs => Bridge.told_of_step h (Bridge.step_inv hs)
        attends := fun h ⟨p, hp, hattends⟩ => by
          obtain ⟨s', hs⟩ := Bridge.State.Told.can_halt setup h hp hattends
          exact ⟨.halt k, s', decide_eq_true rfl, hs⟩
        offers := Bridge.can_take_iff
        handles := fun ⟨l, hl, _⟩ hm hs hbusy => by
          refine Bridge.busy_of_step hm (Bridge.step_inv hs) ?_ hbusy
          rw [Bridge.pointOf?_eq hl]
          exact Option.some_ne_none _
        halts := fun hm hs => Bridge.leaves_of_halt hm (Bridge.step_inv hs)
        leaves := fun h hs =>
          ⟨Bridge.leaves_of_step h (Bridge.step_inv hs),
            Bridge.takes_none_of_leaves h (Bridge.step_inv hs)⟩ }

section

variable {w : Worker} {s s' : w.State} {moves : List w.Move}

theorem Worker.Lawful.leaves_of_run (h : w.Lawful) (hleaves : w.leaves s)
    (hrun : follow w.step s moves = some s') :
    w.leaves s' ∧ ∀ m ∈ moves, w.takes m = false := by
  induction moves generalizing s with
  | nil =>
    simp only [follow, Option.some.injEq] at hrun
    exact ⟨hrun ▸ hleaves, List.forall_mem_nil _⟩
  | cons m rest ih =>
    obtain ⟨s₁, hs₁, hrest⟩ := follow_cons.1 hrun
    obtain ⟨hleaves₁, hm⟩ := h.leaves hleaves hs₁
    obtain ⟨hleaves', hrest'⟩ := ih hleaves₁ hrest
    exact ⟨hleaves', List.forall_mem_cons.2 ⟨hm, hrest'⟩⟩

theorem Worker.Lawful.leaves_of_halt (h : w.Lawful) (hrun : follow w.step s moves = some s')
    {m : w.Move} (hmem : m ∈ moves) (hm : w.halts m = true) : w.leaves s' := by
  induction moves generalizing s with
  | nil => cases hmem
  | cons m' rest ih =>
    obtain ⟨s₁, hs₁, hrest⟩ := follow_cons.1 hrun
    rcases List.mem_cons.1 hmem with rfl | hmem
    · exact (h.leaves_of_run (h.halts hm hs₁) hrest).1
    · exact ih hrest hmem

/-- In a run the loop takes nothing exactly if the first of its decisions is to leave. -/
theorem Worker.Lawful.takes_none_iff (h : w.Lawful) (hrun : follow w.step s moves = some s') :
    (∀ m ∈ moves, w.takes m = false) ↔
      ∀ m ∈ moves.find? w.decides, w.takes m = false := by
  induction moves generalizing s with
  | nil => exact ⟨fun _ => nofun, fun _ => nofun⟩
  | cons m rest ih =>
    obtain ⟨s₁, hs₁, hrest⟩ := follow_cons.1 hrun
    cases htakes : w.takes m with
    | true => simp [Worker.decides, htakes]
    | false =>
      cases hhalts : w.halts m with
      | true =>
        obtain ⟨-, hnone⟩ := h.leaves_of_run (h.halts hhalts hs₁) hrest
        simpa [Worker.decides, htakes, hhalts] using hnone
      | false => simpa [Worker.decides, htakes, hhalts] using ih hrest

theorem Worker.Lawful.told_of_run (h : w.Lawful) (htold : w.told s)
    (hrun : follow w.step s moves = some s') : w.told s' :=
  follow_invariant (Q := fun _ => True) (fun htold _ hs => h.told htold hs) htold
    (fun _ _ => trivial) hrun

theorem Worker.Lawful.handles_of_run (h : w.Lawful) (htold : w.told s)
    (hnone : ∀ m ∈ moves, w.takes m = false) (hrun : follow w.step s moves = some s')
    (hhandles : w.handles s') : w.handles s := by
  refine (follow_invariant (P := fun t => w.told t ∧ (w.handles t → w.handles s))
    (Q := fun m => w.takes m = false) ?_ ⟨htold, id⟩ hnone hrun).2 hhandles
  intro t m t' ⟨ht, hback⟩ hm hs
  exact ⟨h.told ht hs, fun hhandles => hback (h.handles ht hm hs hhandles)⟩

end

/-- A background loop that was told to end, in any run. It takes no more exactly if the first of its
decisions, between taking something and noticing, is to notice. Where it waits it can notice; and it
can take what is there, all the same. Once it has noticed it takes no more, and if it takes no more,
then nothing is in its hand but what it had before. -/
theorem told_loop_quits_iff (l : Loop) {s s' : l.worker.State} {moves : List l.worker.Move}
    (htold : l.worker.told s) (hrun : follow l.worker.step s moves = some s') :
    ((∀ m ∈ moves, l.worker.takes m = false) ↔
        ∀ m ∈ moves.find? l.worker.decides, l.worker.takes m = false) ∧
      (l.worker.attends s' → ∃ m s'', l.worker.halts m = true ∧ l.worker.step s' m = some s'') ∧
      (l.worker.offers s' ↔ ∃ m s'', l.worker.takes m = true ∧ l.worker.step s' m = some s'') ∧
      ((∃ m ∈ moves, l.worker.halts m = true) → l.worker.leaves s' ∧ ¬l.worker.offers s') ∧
      ((∀ m ∈ moves, l.worker.takes m = false) → l.worker.handles s' → l.worker.handles s) := by
  have h : l.worker.Lawful := lawful_of_loop l
  refine ⟨h.takes_none_iff hrun, h.attends (h.told_of_run htold hrun), h.offers.symm, ?_,
    fun hnone => h.handles_of_run htold hnone hrun⟩
  rintro ⟨m, hmem, hm⟩
  have hleaves : l.worker.leaves s' := h.leaves_of_halt hrun hmem hm
  refine ⟨hleaves, fun hoffers => ?_⟩
  obtain ⟨m', s'', htakes, hs⟩ := h.offers.2 hoffers
  rw [(h.leaves hleaves hs).2] at htakes
  cases htakes

/-- A paired client is started and reports a text and that the link is up; the dispatcher goes on
with these moves, and then the token of the caller fires. -/
def firing (dispatcher : List Native.Move) : List Native.Move :=
  [.call (.start 0), .resume 0 .ready, .resume 0 .ready, .resume 0 .ready,
    .resume 0 (.opened (some (.ofAccount "me" "s"))), .resume 0 .ready, .resume 0 .ready,
    .resume 0 .ready, .emit 0 (.message (Native.textFrom (.ofAccount "a" "s"))),
    .emit 0 .connected] ++ dispatcher ++ [.cancel 0]

/-- A read loop gets done with a lost socket, and notices that it was told to end. -/
def lossEnds : List Bridge.Move :=
  [.proceed 0 .ready, .proceed 0 .ready, .halt 0]

/-- Both loops have something in hand when their tokens fire, get done with it, and notice. -/
theorem told_and_quit :
    (∃ s s', Native.exec Native.plainSetup (.initial (.new channelName []) .empty)
        (firing [.take 0]) = some s ∧
      Native.exec Native.plainSetup s Native.dispatcherEnds = some s' ∧
      s'.bus.delivered.map (·.message.content) = ["text"] ∧ s'.stageOf 0 = .ended ∧
      ¬(s'.stageOf 0 = .waiting ∧ s'.queueOf 0 ≠ [])) ∧
    (∃ s s', Bridge.exec ⟨"ws://bridge", .usual⟩ (Bridge.listening (.new channelName []) 7)
        [.receive 0 .lost, .cancel 7] = some s ∧
      Bridge.exec ⟨"ws://bridge", .usual⟩ s lossEnds = some s' ∧
      s'.Leaves 0 ∧ ¬∃ socket, s'.pointOf? 0 = some (.reading socket)) := by
  constructor
  · obtain ⟨s, s', hs, htold, hrun, hdelivered⟩ : ∃ s s',
        Native.exec Native.plainSetup (.initial (.new channelName []) .empty)
          (firing [.take 0]) = some s ∧ s.Told 0 ∧
        Native.exec Native.plainSetup s Native.dispatcherEnds = some s' ∧
        s'.bus.delivered.map (·.message.content) = ["text"] :=
      ⟨_, _, rfl, ⟨_, rfl, rfl⟩, rfl, rfl⟩
    have hfollow := hrun
    rw [Native.exec_eq_follow] at hfollow
    obtain ⟨-, -, -, hquit, -⟩ :=
      told_loop_quits_iff (.dispatcher Native.plainSetup 0) htold hfollow
    obtain ⟨hended, hnone⟩ := hquit ⟨.halt 0, .tail _ (.tail _ (.head _)), rfl⟩
    exact ⟨s, s', hs, hrun, hdelivered, hended, hnone⟩
  · obtain ⟨s, s', hs, htold, hrun⟩ : ∃ s s',
        Bridge.exec ⟨"ws://bridge", .usual⟩ (Bridge.listening (.new channelName []) 7)
          [.receive 0 .lost, .cancel 7] = some s ∧ s.Told 0 ∧
        Bridge.exec ⟨"ws://bridge", .usual⟩ s lossEnds = some s' :=
      ⟨_, _, rfl, ⟨_, rfl, rfl⟩, rfl⟩
    have hfollow := hrun
    rw [Bridge.exec_eq_follow] at hfollow
    obtain ⟨-, -, -, hquit, -⟩ :=
      told_loop_quits_iff (.reader ⟨"ws://bridge", .usual⟩ 0) htold hfollow
    obtain ⟨hended, hnone⟩ := hquit ⟨.halt 0, .tail _ (.tail _ (.head _)), rfl⟩
    exact ⟨s, s', hs, hrun, hended, hnone⟩

/-- A message that a peer sends. -/
def aFrame : Bridge.Incoming :=
  .text "\x7b\"type\":\"message\",\"from\":\"A\",\"content\":\"one\"\x7d"

/-- A bridge whose token has fired while its loop has nothing in hand. -/
def firedBridge : Bridge.State :=
  { Bridge.listening (.new channelName []) 7 with fired := [7] }

theorem firedBridge_delivers : ∃ s', Bridge.step ⟨"ws://bridge", .usual⟩ firedBridge
    (.receive 0 aFrame) = some s' ∧ s'.bus.delivered.map (·.message.content) = ["one"] := by
  have haccepted : (aFrame.accepted? []).map (·.content) = some "one" := by decide +kernel
  obtain ⟨message, hmessage, hcontent⟩ := Option.map_eq_some_iff.1 haccepted
  refine ⟨firedBridge.read 0 0 aFrame, rfl, ?_⟩
  have hread : firedBridge.read 0 0 aFrame = _ := Bridge.read_accepted hmessage
  rw [hread]
  exact congrArg (fun text => [text]) hcontent

/-- Both loops have nothing in hand when their tokens fire, and then take and deliver what is there
for them. -/
theorem told_and_takes_more :
    (∃ s s', Native.exec Native.plainSetup (.initial (.new channelName []) .empty)
        (firing []) = some s ∧
      s.Told 0 ∧ s.stageOf 0 = .waiting ∧ s.bus.delivered = [] ∧
      Native.exec Native.plainSetup s
        [.take 0, .prepared 0 Native.unavailable, .handled 0, .take 0] = some s' ∧
      s'.bus.delivered.map (·.message.content) = ["text"]) ∧
    ∃ s s', Bridge.exec ⟨"ws://bridge", .usual⟩ (Bridge.listening (.new channelName []) 7)
        [.cancel 7] = some s ∧
      s.Told 0 ∧ s.pointOf? 0 = some (.reading 0) ∧ s.bus.delivered = [] ∧
      Bridge.exec ⟨"ws://bridge", .usual⟩ s [.receive 0 aFrame] = some s' ∧
      s'.bus.delivered.map (·.message.content) = ["one"] := by
  refine ⟨⟨_, _, rfl, ⟨_, rfl, rfl⟩, rfl, rfl, rfl, rfl⟩, ?_⟩
  obtain ⟨s', hstep, hdelivered⟩ := firedBridge_delivers
  refine ⟨firedBridge, s', rfl, ⟨_, rfl, rfl⟩, rfl, rfl, ?_, hdelivered⟩
  rw [Bridge.exec, hstep]
  rfl

end ChatChannel
