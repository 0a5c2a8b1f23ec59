import ChatChannel.Proofs.Bridge.Calm
import ChatChannel.Proofs.Bridge.Wiring

/-!
# ChatChannel.Proofs.Bridge.Backoff

A read loop whose token fires while it waits for its next dial. It ends without dialing any more
(`WindingUp`), with no socket to write to, and the channel is not running.

* `showsLoss_of_run`: while a loop waits, the channel shows that there is no connection.
* `windingUp_of_run`: how far the loop is after so many moves of its own.
* `Calm.ends_undialed`: all of it, from the moment at which the token fires.
-/

namespace ChatChannel.Bridge

/-- There is no socket to write to, and the channel shows it. -/
structure Down (s : State) : Prop where
  writer : s.writer = none
  connection : s.connection = .disconnected

def Entry.dial? : Entry → Option Nat
  | .dial time => some time
  | .write _ _ => none
  | .close _ => none

/-- When a transport has dialed. -/
def State.dials (s : State) : List Nat :=
  s.log.filterMap Entry.dial?

def Move.loop? : Move → Option Nat
  | .receive loop _ => some loop
  | .halt loop => some loop
  | .proceed loop _ => some loop
  | _ => none

/-- The move calls neither a start nor a stop. -/
def Move.callsNoOther : Move → Bool
  | .call (.start _) => false
  | .call .stop => false
  | _ => true

/-- The loop waits for its next dial, or is about to. -/
def LoopPoint.isIdle : LoopPoint → Bool
  | .closing _ => true
  | .resting _ => true
  | _ => false

/-- While a loop waits for its next dial, the channel shows that there is no connection. -/
def State.ShowsLoss (s : State) : Prop :=
  ∀ k p, s.pointOf? k = some p → p.isIdle = true → s.connection = .disconnected

/-- Where loop `k` is after it was told to end while it waited for its next dial, by the number of
moves that it has made since. -/
inductive Leaving (k : Nat) (s : State) : Nat → Prop where
  | waiting {l : ReadLoop} {wake : Nat} (hl : s.loops[k]? = some l) (hp : l.point = .resting wake)
      (hcancelled : s.isCancelled l = true) (hwake : s.now < wake) : Leaving k s 0
  | ending (hp : s.pointOf? k = some .ending) : Leaving k s 1
  | ended (hp : s.pointOf? k = some .ended) (hidle : s.bus.running = false) : Leaving k s 2

/-- Loop `k` is on its way to its end, and nothing else is going on that concerns the connection. -/
structure WindingUp (k made : Nat) (s : State) : Prop where
  leaving : Leaving k s made
  down : Down s
  others : ∀ j p, j ≠ k → s.pointOf? j = some p → p = .ended
  operations : ∀ o ∈ s.operations, o.sparesLoops = true

/-- What has come of loop `k` when it has made so many moves since it was told to end. -/
structure EndsUndialed (setup : Setup) (k made : Nat) (s s' : State) : Prop where
  dials : s'.dials = s.dials
  down : Down s'
  prompt : made = 0 → ∀ millis, s'.mayElapse millis = false
  goes_on : made < 2 → ∃ m s'', m.loop? = some k ∧ step setup s' m = some s''
  ended : 2 ≤ made → s'.pointOf? k = some .ended ∧ s'.bus.running = false

section

variable {setup : Setup} {s s' : State} {m : Move} {k token : Nat} {p : LoopPoint}
  {answer : Answer}

/-! ## What is shown while a loop waits -/

theorem State.ShowsLoss.congr (h : s.ShowsLoss) (hp : ∀ k, s'.pointOf? k = s.pointOf? k)
    (hc : s'.connection = s.connection) : s'.ShowsLoss := fun k p hk hidle =>
  hc.trans (h k p ((hp k).symm.trans hk) hidle)

theorem State.ShowsLoss.of_silent (h : s.Silent) : s.ShowsLoss := by
  intro k p hp hidle
  obtain rfl := h k p hp
  cases hidle

/-- The only loop that is not over goes on to a point where it does not wait. -/
theorem State.ShowsLoss.of_busy {p' : LoopPoint} (ho : Orderly s) (hp : s.pointOf? k = some p)
    (hlive : p ≠ .ended) (hloops : s'.loops = (s.loopAt k p').loops) (hbusy : p'.isIdle = false) :
    s'.ShowsLoss := by
  intro j q hq hidle
  rw [pointOf?_congr hloops] at hq
  by_cases hj : j = k
  · subst hj
    obtain rfl : p' = q := Option.some.inj ((pointOf?_loopAt hp).symm.trans hq)
    rw [hbusy] at hidle
    cases hidle
  · rw [pointOf?_loopAt_ne hj] at hq
    have hended : q = .ended := by
      refine Classical.byContradiction fun hq' => hj ?_
      have hj := ho.latest j q hq hq'
      have hk := ho.latest k p hp hlive
      omega
    subst hended
    cases hidle

theorem showsLoss_of_startStep {i t : Nat} {point : StartPoint} (h : s.ShowsLoss) (ho : Orderly s)
    (hi : s.operations[i]? = some (.start t point)) (hs : StartStep setup s i t point answer s') :
    s'.ShowsLoss := by
  -- In its turn, a start has the transport for itself unless it awaits the end of a loop.
  have alone : (Operation.start t point).inTurn = true →
      (∀ k, (Operation.start t point).awaits? = some k → s.isEnded k = true) → s.Silent :=
    fun hturn hend => ho.silent_of_turn hi hturn hend
  cases hs with
  | join => exact h.congr (fun j => pointOf?_cancel j) rfl
  | dial hturn hslot =>
    have hsilent : s.Silent := ho.silent_of_free hturn hslot
    exact .of_silent hsilent
  | joined hend =>
    have hsilent : s.Silent := alone rfl (by rintro k ⟨⟩; exact hend)
    exact .of_silent hsilent
  | opened => exact h.congr (fun _ => rfl) rfl
  | refused => exact fun _ _ _ _ => rfl
  | late => exact fun _ _ _ _ => rfl
  | published =>
    have hsilent : s.Silent := alone rfl (by rintro k ⟨⟩)
    intro j q hq hidle
    obtain ⟨l, hl, rfl⟩ := Option.map_eq_some_iff.1 hq
    rcases place_of_append hl with ⟨-, rfl⟩ | hl
    · cases hidle
    · rw [hsilent j _ (pointOf?_eq hl)] at hidle
      cases hidle

theorem showsLoss_of_loopStep (h : s.ShowsLoss) (ho : Orderly s) (hp : s.pointOf? k = some p)
    (hs : LoopStep setup s k p answer s') : s'.ShowsLoss := by
  have hlive : p ≠ .ended := (goes_on_of_loopStep hs).1
  cases hs with
  | delivered => exact .of_busy ho hp hlive rfl rfl
  | close => exact fun _ _ _ _ => rfl
  | nothing => exact fun _ _ _ _ => rfl
  | closed => exact fun _ _ _ _ => h k _ hp rfl
  | dial => exact .of_busy ho hp hlive rfl rfl
  | opened => exact .of_busy ho hp hlive rfl rfl
  | refused => exact fun _ _ _ _ => rfl
  | late => exact fun _ _ _ _ => rfl
  | published => exact .of_busy ho hp hlive rfl rfl
  | endClose => exact fun _ _ _ _ => rfl
  | endNothing => exact fun _ _ _ _ => rfl
  | endClosed => exact .of_busy ho hp hlive rfl rfl

theorem showsLoss_of_step (h : s.ShowsLoss) (ho : Orderly s) (hs : Step setup s m s') :
    s'.ShowsLoss := by
  cases hs with
  | call c => cases c <;> exact h.congr (fun _ => rfl) rfl
  | start hi hs => exact showsLoss_of_startStep h ho hi hs
  | stop _ hs =>
    cases hs with
    | join => exact h.congr (fun j => pointOf?_cancel j) rfl
    | close => exact fun _ _ _ _ => rfl
    | nothing => exact fun _ _ _ _ => rfl
    | _ => exact h.congr (fun _ => rfl) rfl
  | send _ hs => cases hs <;> exact h.congr (fun _ => rfl) rfl
  | cancel _ => exact h.congr (fun _ => rfl) rfl
  | elapse _ => exact h.congr (fun _ => rfl) rfl
  | @receive j socket l incoming hl hp =>
    have hpoint : s.pointOf? j = some (.reading socket) := hp ▸ pointOf?_eq hl
    generalize hread : s.read j socket incoming = s₁
    cases read_inv hread with
    | lost => exact .of_busy ho hpoint nofun rfl rfl
    | skipped => exact h
    | delivered => exact .of_busy ho hpoint nofun rfl rfl
  | halt hl hh =>
    refine .of_busy ho (pointOf?_eq hl) (fun hend => ?_) rfl rfl
    simp [State.isHalting, hend] at hh
  | proceed hl hp hs => exact showsLoss_of_loopStep h ho (hp ▸ pointOf?_eq hl) hs

/-- What a channel shows that has come this far from its beginning. -/
theorem showsLoss_of_run {bus : Bus} {moves : List Move}
    (hrun : exec setup (.initial bus) moves = some s') : s'.ShowsLoss := by
  have hinitial : Orderly (.initial bus) ∧ State.ShowsLoss (.initial bus) :=
    ⟨.of_silent nofun nofun nofun, fun _ _ _ _ => rfl⟩
  rw [exec_eq_follow] at hrun
  refine (follow_invariant (P := fun t => Orderly t ∧ t.ShowsLoss) (Q := fun _ => True) ?_ hinitial
    (fun _ _ => trivial) hrun).2
  intro t m t' ht _ hstep
  have hs : Step setup t m t' := step_inv hstep
  exact ⟨orderly_of_step ht.1 hs, showsLoss_of_step ht.2 ht.1 hs⟩

/-! ## The end of the wait -/

theorem WindingUp.congr {made : Nat} (h : WindingUp k made s) (hl : s'.loops = s.loops)
    (hfired : ∀ l, s.isCancelled l = true → s'.isCancelled l = true) (hnow : s'.now = s.now)
    (hr : s'.bus.running = s.bus.running) (hw : s'.writer = s.writer)
    (hc : s'.connection = s.connection)
    (ho : ∀ o ∈ s'.operations, o.sparesLoops = true) : WindingUp k made s' := by
  refine ⟨?_, ⟨hw.trans h.down.writer, hc.trans h.down.connection⟩, fun j p hj hp => ?_, ho⟩
  · cases h.leaving with
    | waiting hl' hp hcancelled hwake =>
      exact .waiting (hl ▸ hl') hp (hfired _ hcancelled) (hnow ▸ hwake)
    | ending hp => exact .ending ((pointOf?_congr hl k).trans hp)
    | ended hp hidle => exact .ended ((pointOf?_congr hl k).trans hp) (hr.trans hidle)
  · exact h.others j p hj ((pointOf?_congr hl j).symm.trans hp)

theorem WindingUp.goOn {made made' : Nat} (h : WindingUp k made s)
    (hleaving : Leaving k s' made') (hdown : Down s') (hl : s'.loops = (s.loopAt k p).loops)
    (ho : s'.operations = s.operations) : WindingUp k made' s' := by
  refine ⟨hleaving, hdown, fun j q hj hq => ?_, ho ▸ h.operations⟩
  rw [pointOf?_congr hl, pointOf?_loopAt_ne hj] at hq
  exact h.others j q hj hq

theorem WindingUp.eq_of_point {made j : Nat} (h : WindingUp k made s)
    (hp : s.pointOf? j = some p) (hlive : p ≠ .ended) : j = k :=
  Classical.byContradiction fun hj => hlive (h.others j p hj hp)

theorem WindingUp.not_reading {made j socket : Nat} (h : WindingUp k made s) :
    s.pointOf? j ≠ some (.reading socket) := by
  intro hreading
  obtain rfl := h.eq_of_point hreading nofun
  cases h.leaving with
  | waiting hl hp => cases hreading.symm.trans (hp ▸ pointOf?_eq hl)
  | ending hp => cases hreading.symm.trans hp
  | ended hp => cases hreading.symm.trans hp

/-- Until the loop has noticed, no time passes. -/
theorem Leaving.not_mayElapse (h : Leaving k s 0) (millis : Nat) :
    s.mayElapse millis = false := by
  cases h with
  | @waiting l _ hl hp hcancelled =>
    have hhalting : s.isHalting l = true := by simp [State.isHalting, hp, hcancelled]
    refine Bool.eq_false_iff.2 fun helapse => ?_
    simp only [State.mayElapse, Bool.and_eq_true, List.all_eq_true] at helapse
    simpa [hhalting] using (helapse.1 l (List.mem_of_getElem? hl)).1

theorem windingUp_of_halt {made : Nat} {l : ReadLoop} (h : WindingUp k made s)
    (hl : s.loops[k]? = some l) (hhalting : s.isHalting l = true) :
    WindingUp k (made + 1) (s.loopAt k .ending) := by
  cases h.leaving with
  | waiting hl' hp =>
    have hending : (s.loopAt k .ending).pointOf? k = some .ending :=
      pointOf?_loopAt (pointOf?_eq hl)
    exact h.goOn (.ending hending) ⟨h.down.writer, h.down.connection⟩ rfl rfl
  | ending hp =>
    rw [pointOf?_eq hl, Option.some.injEq] at hp
    simp [State.isHalting, hp] at hhalting
  | ended hp =>
    rw [pointOf?_eq hl, Option.some.injEq] at hp
    simp [State.isHalting, hp] at hhalting

theorem windingUp_of_loopStep {made : Nat} (h : WindingUp k made s)
    (hp : s.pointOf? k = some p) (hs : LoopStep setup s k p answer s') :
    WindingUp k (made + 1) s' ∧ s'.dials = s.dials := by
  have at_next : ∀ {t : State} (p' : LoopPoint), t.loops = s.loops →
      (t.loopAt k p').pointOf? k = some p' := fun p' hl =>
    pointOf?_loopAt ((pointOf?_congr hl k).trans hp)
  cases h.leaving with
  | waiting hl hpoint _ hwake =>
    rw [pointOf?_eq hl, hpoint] at hp
    cases hp
    cases hs with
    | dial hdue => omega
  | ending hending =>
    obtain rfl := Option.some.inj (hending.symm.trans hp)
    cases hs with
    | endClose hw => cases h.down.writer.symm.trans hw
    | endNothing hw =>
      exact ⟨h.goOn (.ended (at_next _ rfl) rfl) ⟨rfl, rfl⟩ rfl rfl, rfl⟩
  | ended hended =>
    obtain rfl := Option.some.inj (hended.symm.trans hp)
    cases hs

theorem windingUp_of_step {made : Nat} (h : WindingUp k made s) (hm : m.callsNoOther = true)
    (hs : Step setup s m s') :
    WindingUp k (made + m.loop?.toList.count k) s' ∧ s'.dials = s.dials := by
  have operation : ∀ {i : Nat} {o : Operation}, s.operations[i]? = some o →
      o.sparesLoops = true := fun hi => h.operations _ (List.mem_of_getElem? hi)
  have same : ∀ {t : State}, t.loops = s.loops → t.fired = s.fired → t.now = s.now →
      t.bus.running = s.bus.running → t.writer = s.writer → t.connection = s.connection →
      t.dials = s.dials → (∀ o ∈ t.operations, o.sparesLoops = true) →
      WindingUp k made t ∧ t.dials = s.dials := by
    intro t hl hfired hnow hr hw hc hdials ho
    refine ⟨h.congr hl (fun l hc => ?_) hnow hr hw hc ho, hdials⟩
    rw [State.isCancelled, hfired]
    exact hc
  cases hs with
  | call c =>
    cases c with
    | start t => cases hm
    | stop => cases hm
    | send message =>
      refine same rfl rfl rfl rfl rfl rfl rfl fun o ho => ?_
      rcases List.mem_append.1 ho with ho | ho
      · exact h.operations o ho
      · exact List.mem_singleton.1 ho ▸ rfl
  | start hi _ => cases operation hi
  | stop hi _ => cases operation hi
  | send hi hs =>
    have sent : ∀ {i : Nat} {o₁ : Operation}, o₁.sparesLoops = true →
        ∀ o ∈ s.operations.set i o₁, o.sparesLoops = true := by
      intro i o₁ ho₁ o ho
      rcases List.mem_or_eq_of_mem_set ho with hmem | rfl
      · exact h.operations o hmem
      · exact ho₁
    cases hs with
    | write hw => cases h.down.writer.symm.trans hw
    | _ => exact same rfl rfl rfl rfl rfl rfl rfl (sent rfl)
  | cancel t =>
    refine ⟨h.congr rfl (fun l hc => ?_) rfl rfl rfl rfl h.operations, rfl⟩
    rcases Bool.or_eq_true_iff.1 hc with hc | hc
    · simp [State.isCancelled, hc]
    · simp_all [State.isCancelled]
  | @elapse millis helapse =>
    refine ⟨⟨?_, ⟨h.down.writer, h.down.connection⟩, h.others, h.operations⟩, rfl⟩
    have hmade : made ≠ 0 := by
      rintro rfl
      rw [h.leaving.not_mayElapse millis] at helapse
      cases helapse
    cases h.leaving with
    | waiting => exact absurd rfl hmade
    | ending hp => exact .ending hp
    | ended hp hidle => exact .ended hp hidle
  | receive hl hp => exact absurd (hp ▸ pointOf?_eq hl) h.not_reading
  | @halt j l hl hhalting =>
    obtain rfl : j = k := by
      refine h.eq_of_point (pointOf?_eq hl) fun hend => ?_
      simp [State.isHalting, hend] at hhalting
    have hcount : made + (Move.halt j).loop?.toList.count j = made + 1 := by simp [Move.loop?]
    rw [hcount]
    exact ⟨windingUp_of_halt h hl hhalting, rfl⟩
  | @proceed j l point answer _ hl hp hs =>
    have hpoint : s.pointOf? j = some point := hp ▸ pointOf?_eq hl
    obtain rfl := h.eq_of_point hpoint (goes_on_of_loopStep hs).1
    have hcount : made + (Move.proceed j answer).loop?.toList.count j = made + 1 := by
      simp [Move.loop?]
    rw [hcount]
    exact windingUp_of_loopStep h hpoint hs

theorem windingUp_of_run {moves : List Move} (h : WindingUp k 0 s)
    (hm : ∀ m ∈ moves, m.callsNoOther = true) (hrun : exec setup s moves = some s') :
    WindingUp k ((moves.filterMap Move.loop?).count k) s' ∧ s'.dials = s.dials := by
  rw [exec_eq_follow] at hrun
  rw [← observe_moves Move.loop? hrun]
  refine follow_notes
    (I := fun past t => WindingUp k (past.count k) t ∧ t.dials = s.dials)
    (fun _ m => m.loop?.toList) ?_ [] ⟨h, rfl⟩ hm hrun
  intro past t m t' ⟨ht, hdials⟩ hm hstep
  obtain ⟨ht', hsame⟩ := windingUp_of_step ht hm (step_inv hstep)
  rw [List.count_append]
  exact ⟨ht', hsame.trans hdials⟩

/-- A loop that is on its way to its end can go on, until it is over. -/
theorem WindingUp.goes_on {made : Nat} (h : WindingUp k made s) (hmade : made < 2) :
    ∃ m s', m.loop? = some k ∧ step setup s m = some s' := by
  cases h.leaving with
  | @waiting l _ hl hp hcancelled =>
    have hhalting : s.isHalting l = true := by simp [State.isHalting, hp, hcancelled]
    refine ⟨.halt k, s.loopAt k .ending, rfl, ?_⟩
    simp only [step, hl, hhalting, if_true]
  | ending hp =>
    obtain ⟨l, hl, hpoint⟩ := Option.map_eq_some_iff.1 hp
    refine ⟨.proceed k .ready, s.dropWriter.1.endLoop k, rfl, ?_⟩
    simp only [step, hl, hpoint, State.proceed, State.dropWriter, h.down.writer]
  | ended => omega

theorem WindingUp.ended {made : Nat} (h : WindingUp k made s) (hmade : 2 ≤ made) :
    s.pointOf? k = some .ended ∧ s.bus.running = false := by
  cases h.leaving with
  | waiting => omega
  | ending => omega
  | ended hp hidle => exact ⟨hp, hidle⟩

/-- The token of a calm loop fires while the loop waits for its next dial. -/
theorem Calm.windingUp (h : Calm k token s) (ho : Orderly s) (hf : Faithful s) {wake : Nat}
    (hdown : s.connection = .disconnected) (hp : s.pointOf? k = some (.resting wake))
    (hwake : s.now < wake) : WindingUp k 0 { s with fired := s.fired ++ [token] } := by
  obtain ⟨l, hl, htoken, -, -⟩ := h.live
  have hpoint : l.point = .resting wake := Option.some.inj ((pointOf?_eq hl).symm.trans hp)
  refine ⟨.waiting hl hpoint ?_ hwake, ⟨hf.no_writer ho hp nofun rfl, hdown⟩, fun j p hj hp' => ?_,
    h.operations⟩
  · simp [State.isCancelled, htoken]
  · obtain ⟨l', hl', rfl⟩ := Option.map_eq_some_iff.1 hp'
    exact h.others j l' hj hl'

/-- A loop whose token fires while it waits for its next dial ends without it. -/
theorem Calm.ends_undialed (h : Calm k token s) (ho : Orderly s) (hf : Faithful s)
    (hloss : s.ShowsLoss) {wake : Nat} (hp : s.pointOf? k = some (.resting wake))
    (hwake : s.now < wake) {later : List Move} (hm : ∀ m ∈ later, m.callsNoOther = true)
    (hrun : exec setup s (.cancel token :: later) = some s') :
    EndsUndialed setup k ((later.filterMap Move.loop?).count k) s s' := by
  have hfired : WindingUp k 0 { s with fired := s.fired ++ [token] } :=
    h.windingUp ho hf (hloss k _ hp rfl) hp hwake
  obtain ⟨hmade, hdials⟩ := windingUp_of_run hfired hm hrun
  refine ⟨hdials, hmade.down, fun hnone => ?_, hmade.goes_on, hmade.ended⟩
  rw [hnone] at hmade
  exact hmade.leaving.not_mayElapse

end

end ChatChannel.Bridge
