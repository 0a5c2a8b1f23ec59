import ChatChannel.Proofs.Bridge.Calm
import ChatChannel.Proofs.Bridge.Sockets

/-!
# ChatChannel.Proofs.Bridge.Overlap

A start and a stop that overlap, while dials succeed and nothing comes in from outside (`troubles`
notes what does). A stop gives its turn at the slot back before it takes back the published socket.
A start that publishes its own socket in between (`crossings`) loses it, with its loop reading on.

* `outcome_of_step`, `cutOff_of_step`: what holds before a crossing, and after one.
* `overlap_clean_iff`: the channel ends up stopped or started exactly if nothing crosses.
* `start_cut_off`: a run in which something does.
-/

namespace ChatChannel.Bridge

/-- What disturbs a start and a stop: further ones, the token of a caller, a lost socket, and a dial
that fails. -/
def troubles (s : State) : Move → List Move
  | .call (.start token) => [.call (.start token)]
  | .call .stop => [.call .stop]
  | .cancel token => [.cancel token]
  | .receive loop .lost => [.receive loop .lost]
  | .resume i answer =>
    match s.operations[i]? with
    | some (.start _ (.dialing _)) => if answer = .ready then [] else [.resume i answer]
    | _ => []
  | _ => []

/-- The stop is about to take back the published socket. -/
def Operation.isDropping : Operation → Bool
  | .stop .dropping => true
  | _ => false

/-- The starts that publish their socket while a stop is about to take it back. -/
def crossings (s : State) : Move → List Move
  | .resume i .ready =>
    match s.operations[i]? with
    | some (.start _ (.publishing _)) =>
      if s.operations.any Operation.isDropping then [.resume i .ready] else []
    | _ => []
  | _ => []

/-- The socket that a loop at this point reads from. -/
def LoopPoint.socket? : LoopPoint → Option Nat
  | .reading socket => some socket
  | .delivering socket => some socket
  | _ => none

/-- The loop reads from a socket, and was not told to end. -/
def Serves (s : State) (k socket : Nat) : Prop :=
  ∃ l, s.loops[k]? = some l ∧ s.isCancelled l = false ∧ l.point.socket? = some socket

structure Stopped (s : State) : Prop where
  silent : s.Silent
  writer : s.writer = none
  connection : s.connection = .disconnected
  idle : s.bus.running = false

structure Started (s : State) : Prop where
  loop : ∃ k socket, s.slot = some k ∧ Serves s k socket ∧ s.writer = some socket
  connection : s.connection = .connected
  running : s.bus.running = true

/-- Whoever has the turn makes use of it. -/
def TurnHeld (s : State) : Prop :=
  ∀ i, s.turn = some i → ∃ o, s.operations[i]? = some o ∧ o.inTurn = true

/-- Only operation `i` can be a start, with this token, and only operation `j` a stop. -/
def Operation.fits (i j token k : Nat) : Operation → Prop
  | .start t _ => k = i ∧ t = token
  | .stop _ => k = j
  | .send _ _ => k ≠ j
  | .finished _ => True

/-- There is one start, whose token has not fired, and one stop. -/
structure Pair (i j token : Nat) (s : State) : Prop where
  ne : i ≠ j
  fits : ∀ (k : Nat) (o : Operation), s.operations[k]? = some o → o.fits i j token k
  known : j < s.operations.length
  unfired : token ∉ s.fired

/-- A loop in the slot is backed by the published socket, and stop `j` is not about to take it. -/
structure Backed (j k : Nat) (s : State) : Prop where
  serves : ∃ socket, Serves s k socket ∧ s.writer = some socket
  spared : s.operations[j]? ≠ some (.stop .dropping)
  running : s.bus.running = true ∨ s.operations[j]? = some (.stop .queued)

/-- How things stand as long as nothing has crossed. -/
structure Outcome (j : Nat) (s : State) : Prop where
  up : ∀ k p, s.slot = some k → s.pointOf? k = some p → p ≠ .ended → Backed j k s
  down : s.turn = none → s.Silent →
    s.connection = .disconnected ∨ s.operations[j]? = some (.stop .dropping)

/-- Only stop `j` is left, and it takes the published socket away from the loop in the slot. -/
structure CutOff (j : Nat) (s : State) : Prop where
  alone : ∀ (k : Nat) (o : Operation), s.operations[k]? = some o → o.sparesLoops = true ∨ k = j
  stop : s.operations[j]? = some (.stop .dropping) ∨ s.writer = none ∧
    ((∃ socket, s.operations[j]? = some (.stop (.closing socket))) ∨
      ∃ r, s.operations[j]? = some (.finished r))
  loop : ∃ k socket, s.slot = some k ∧ Serves s k socket

section

variable {setup : Setup} {s s' : State} {m : Move} {i j k token socket : Nat} {p : LoopPoint}
  {o : Operation} {answer : Answer}

/-! ## The turn -/

theorem turnHeld_of_set {o' : Operation} (h : TurnHeld s) (hi : s.operations[i]? = some o)
    (hset : s'.operations = s.operations.set i o') (hturn : s'.turn = s.turn)
    (ho : o.inTurn = true → o'.inTurn = true) : TurnHeld s' := by
  intro a ha
  obtain ⟨o₁, ho₁, hin⟩ := h a (hturn ▸ ha)
  have hknown : i < s.operations.length := (List.getElem?_eq_some_iff.1 hi).1
  rw [hset]
  by_cases hia : i = a
  · subst hia
    obtain rfl : o = o₁ := Option.some.inj (hi.symm.trans ho₁)
    exact ⟨o', List.getElem?_set_self hknown, ho hin⟩
  · exact ⟨o₁, (List.getElem?_set_ne hia).trans ho₁, hin⟩

theorem turnHeld_of_taken {o' : Operation} (hknown : i < s.operations.length)
    (hset : s'.operations = s.operations.set i o') (hturn : s'.turn = some i)
    (ho : o'.inTurn = true) : TurnHeld s' := by
  intro a ha
  obtain rfl : i = a := Option.some.inj (hturn.symm.trans ha)
  exact ⟨o', hset ▸ List.getElem?_set_self hknown, ho⟩

theorem turnHeld_of_free (hturn : s'.turn = none) : TurnHeld s' := by
  intro a ha
  rw [hturn] at ha
  cases ha

theorem turnHeld_of_step (h : TurnHeld s) (hs : Step setup s m s') : TurnHeld s' := by
  have same : s'.operations = s.operations → s'.turn = s.turn → TurnHeld s' := by
    intro ho hturn a ha
    rw [ho]
    exact h a (hturn ▸ ha)
  cases hs with
  | call c =>
    intro a ha
    obtain ⟨o, ho, hin⟩ := h a (by cases c <;> exact ha)
    have hknown : a < s.operations.length := (List.getElem?_eq_some_iff.1 ho).1
    cases c <;> exact ⟨o, (List.getElem?_append_left hknown).trans ho, hin⟩
  | start hi hs =>
    have hknown := (List.getElem?_eq_some_iff.1 hi).1
    cases hs with
    | join => exact turnHeld_of_taken hknown rfl rfl rfl
    | dial => exact turnHeld_of_taken hknown rfl rfl rfl
    | joined => exact turnHeld_of_set h hi rfl rfl fun _ => rfl
    | opened => exact turnHeld_of_set h hi rfl rfl fun _ => rfl
    | refused => exact turnHeld_of_free rfl
    | late => exact turnHeld_of_free rfl
    | published => exact turnHeld_of_free rfl
  | stop hi hs =>
    have hknown := (List.getElem?_eq_some_iff.1 hi).1
    cases hs with
    | check => exact turnHeld_of_set h hi rfl rfl nofun
    | join => exact turnHeld_of_taken hknown rfl rfl rfl
    | free => exact turnHeld_of_free rfl
    | joined => exact turnHeld_of_free rfl
    | close => exact turnHeld_of_set h hi rfl rfl nofun
    | nothing => exact turnHeld_of_set h hi rfl rfl nofun
    | closed => exact turnHeld_of_set h hi rfl rfl nofun
  | send hi hs => cases hs <;> exact turnHeld_of_set h hi rfl rfl nofun
  | receive =>
    generalize hread : s.read _ _ _ = s₁
    cases read_inv hread <;> exact h
  | proceed _ _ hs =>
    obtain ⟨-, -, -, -, hturn, ho⟩ := goes_on_of_loopStep hs
    exact same ho hturn
  | _ => exact same rfl rfl

/-! ## The two operations -/

theorem Pair.of_set {o' : Operation} (h : Pair i j token s)
    (hset : s'.operations = s.operations.set k o') (hfits : o'.fits i j token k)
    (hfired : s'.fired = s.fired) : Pair i j token s' := by
  have hknown : j < s'.operations.length := by
    rw [hset, List.length_set]
    exact h.known
  refine ⟨h.ne, fun a o ha => ?_, hknown, hfired ▸ h.unfired⟩
  rw [hset, List.getElem?_set] at ha
  split at ha
  · rename_i hka
    subst hka
    split at ha
    · exact Option.some.inj ha ▸ hfits
    · cases ha
  · exact h.fits a o ha

theorem Pair.of_finished {r : Except ChannelError Unit} (h : Pair i j token s)
    (hset : s'.operations = s.operations.set k (.finished r)) (hfired : s'.fired = s.fired) :
    Pair i j token s' :=
  h.of_set hset trivial hfired

theorem Pair.congr (h : Pair i j token s) (hoperations : s'.operations = s.operations)
    (hfired : s'.fired = s.fired) : Pair i j token s' :=
  ⟨h.ne, hoperations ▸ h.fits, hoperations ▸ h.known, hfired ▸ h.unfired⟩

theorem pair_of_step (h : Pair i j token s) (hcalm : troubles s m = [])
    (hs : Step setup s m s') : Pair i j token s' := by
  cases hs with
  | call c =>
    cases c with
    | start t => cases hcalm
    | stop => cases hcalm
    | send message =>
      refine ⟨h.ne, fun k o hk => ?_, ?_, h.unfired⟩
      · rw [State.begin, List.getElem?_append] at hk
        split at hk
        · exact h.fits k o hk
        · rename_i hnew
          obtain rfl := List.mem_singleton.1 (List.mem_of_getElem? hk)
          have hknown := h.known
          have hkj : k ≠ j := by omega
          exact hkj
      · rw [State.begin, List.length_append]
        exact Nat.lt_add_right _ h.known
  | start hi hs =>
    have hfits := h.fits _ _ hi
    cases hs <;> first
      | exact h.of_set rfl hfits rfl
      | exact h.of_finished rfl rfl
  | stop hi hs =>
    have hfits := h.fits _ _ hi
    cases hs <;> first
      | exact h.of_set rfl hfits rfl
      | exact h.of_finished rfl rfl
  | send hi hs =>
    have hfits := h.fits _ _ hi
    cases hs <;> first
      | exact h.of_set rfl hfits rfl
      | exact h.of_finished rfl rfl
  | cancel t => cases hcalm
  | elapse _ => exact h.congr rfl rfl
  | receive =>
    generalize hread : s.read _ _ _ = s₁
    cases read_inv hread <;> exact h.congr rfl rfl
  | halt => exact h.congr rfl rfl
  | proceed _ _ hs => cases hs <;> exact h.congr rfl rfl

/-! ## The loop -/

theorem Serves.congr (h : Serves s k socket) (hl : s'.loops[k]? = s.loops[k]?)
    (hfired : s'.fired = s.fired) : Serves s' k socket := by
  obtain ⟨l, hk, hfree, hsocket⟩ := h
  refine ⟨l, hl.trans hk, ?_, hsocket⟩
  rw [← hfree, State.isCancelled, State.isCancelled, hfired]

theorem Serves.point (h : Serves s k socket) :
    ∃ p, s.pointOf? k = some p ∧ p.socket? = some socket := by
  obtain ⟨l, hl, -, hsocket⟩ := h
  exact ⟨l.point, pointOf?_eq hl, hsocket⟩

theorem Serves.loopAt (h : Serves s k socket) (hp : p.socket? = some socket) :
    Serves (s.loopAt k p) k socket := by
  obtain ⟨l, hl, hfree, -⟩ := h
  exact ⟨{ l with point := p }, by simp [State.loopAt, State.onLoop, hl], hfree, hp⟩

theorem loops_loopAt_ne {a : Nat} (ha : a ≠ k) : (s.loopAt a p).loops[k]? = s.loops[k]? := by
  simp [State.loopAt, State.onLoop, ha]

/-- Only an operation that takes the slot tells a loop in it to end. -/
theorem serves_of_step (h : Serves s k socket) (hcalm : troubles s m = [])
    (hslot : s'.slot = some k) (hs : Step setup s m s') : Serves s' k socket := by
  have here : ∀ {a : Nat} {l : ReadLoop}, s.loops[a]? = some l → a = k →
      s.isCancelled l = false ∧ l.point.socket? = some socket := by
    rintro a l hl rfl
    obtain ⟨l', hl', hfree, hsocket⟩ := h
    obtain rfl : l = l' := Option.some.inj (hl.symm.trans hl')
    exact ⟨hfree, hsocket⟩
  cases hs with
  | call c => cases c <;> exact h.congr rfl rfl
  | start _ hs =>
    cases hs with
    | join => cases hslot
    | published =>
      have hk : k < s.loops.length := by
        obtain ⟨l, hl, -⟩ := h
        exact (List.getElem?_eq_some_iff.1 hl).1
      exact h.congr (List.getElem?_append_left hk) rfl
    | _ => exact h.congr rfl rfl
  | stop _ hs =>
    cases hs with
    | join => cases hslot
    | _ => exact h.congr rfl rfl
  | send _ hs => cases hs <;> exact h.congr rfl rfl
  | cancel t => cases hcalm
  | elapse _ => exact h.congr rfl rfl
  | @receive a x l incoming hl hp =>
    generalize hread : s.read _ _ _ = s₁
    cases read_inv hread with
    | lost => cases hcalm
    | skipped => exact h
    | @delivered _ message _ _ =>
      have hhandled : Serves { s with bus := s.bus.handle ⟨message, []⟩ } k socket :=
        h.congr rfl rfl
      by_cases ha : a = k
      · obtain ⟨-, hsocket⟩ := here hl ha
        rw [hp] at hsocket
        subst ha
        exact hhandled.loopAt hsocket
      · exact hhandled.congr (loops_loopAt_ne ha) rfl
  | @halt a l hl hhalting =>
    have ha : a ≠ k := by
      intro ha
      simp [State.isHalting, (here hl ha).1] at hhalting
    exact h.congr (loops_loopAt_ne ha) rfl
  | @proceed a l q answer _ hl hq hs =>
    by_cases ha : a = k
    · obtain ⟨-, hsocket⟩ := here hl ha
      subst ha
      rw [hq] at hsocket
      cases hs with
      | delivered => exact h.loopAt hsocket
      | _ => cases hsocket
    · cases hs <;> exact h.congr (loops_loopAt_ne ha) rfl

/-- Loop `k` may go on, and nothing else changes for others. -/
structure Steady (k : Nat) (s s' : State) : Prop where
  loops : s'.loops = s.loops ∨ ∃ p, s'.loops = (s.loopAt k p).loops
  writer : s'.writer = s.writer
  running : s'.bus.running = s.bus.running
  slot : s'.slot = s.slot

theorem steady_of_receive (incoming : Incoming) : Steady k s (s.read k socket incoming) := by
  generalize hread : s.read k socket incoming = s₁
  cases read_inv hread with
  | lost => exact ⟨.inr ⟨_, rfl⟩, rfl, rfl, rfl⟩
  | skipped => exact ⟨.inl rfl, rfl, rfl, rfl⟩
  | @delivered _ message _ hadmits =>
    refine ⟨.inr ⟨_, rfl⟩, rfl, ?_, rfl⟩
    simp [State.loopAt, State.onLoop, Bus.handle, hadmits]

/-- While a loop serves, no other one goes on. -/
theorem steady_of_proceed (ho : Orderly s) (h : Serves s k socket) {a : Nat}
    (hp : s.pointOf? a = some p) (hs : LoopStep setup s a p answer s') : Steady a s s' := by
  obtain ⟨q, hq, hsocket⟩ := h.point
  have hka : a = k := by
    have hlive : p ≠ .ended := (goes_on_of_loopStep hs).1
    have ha := ho.latest a p hp hlive
    have hk := ho.latest k q hq (by rintro rfl; cases hsocket)
    omega
  subst hka
  obtain rfl : p = q := Option.some.inj (hp.symm.trans hq)
  cases hs with
  | delivered => exact ⟨.inr ⟨_, rfl⟩, rfl, rfl, rfl⟩
  | _ => cases hsocket

/-- A loop that is not over after a loop went on was not over before. -/
theorem live_before {a : Nat} {q : LoopPoint} (ha : s.pointOf? a = some q) (hq : q ≠ .ended)
    (hloops : s'.loops = s.loops ∨ ∃ p, s'.loops = (s.loopAt a p).loops)
    (hp : s'.pointOf? k = some p) (hlive : p ≠ .ended) :
    ∃ p, s.pointOf? k = some p ∧ p ≠ .ended := by
  rcases hloops with hsame | ⟨p', hloops⟩
  · exact ⟨p, (pointOf?_congr hsame k).symm.trans hp, hlive⟩
  · by_cases hka : k = a
    · exact ⟨q, hka ▸ ha, hq⟩
    · rw [pointOf?_congr hloops, pointOf?_loopAt_ne hka] at hp
      exact ⟨p, hp, hlive⟩

/-! ## Before a crossing -/

/-- A loop in the slot that is not over is backed as it was before. -/
theorem Outcome.stay (h : Outcome j s) (hcalm : troubles s m = []) (hs : Step setup s m s')
    (hk : s'.slot = some k) (hslot : s'.slot = s.slot)
    (hlive : ∃ p, s.pointOf? k = some p ∧ p ≠ .ended) (hw : s'.writer = s.writer)
    (hspared : s'.operations[j]? ≠ some (.stop .dropping))
    (hrunning : s.bus.running = true ∨ s.operations[j]? = some (.stop .queued) →
      s'.bus.running = true ∨ s'.operations[j]? = some (.stop .queued)) : Backed j k s' := by
  obtain ⟨p, hp, hlive⟩ := hlive
  have hbacked := h.up k p (hslot ▸ hk) hp hlive
  obtain ⟨x, hserves, hwriter⟩ := hbacked.serves
  exact ⟨⟨x, serves_of_step hserves hcalm hk hs, hw.trans hwriter⟩, hspared,
    hrunning hbacked.running⟩

theorem up_of_stopStep (ho : Orderly s) (h : Outcome j s) {point : StopPoint}
    (hj : s.operations[j]? = some (.stop point)) (hcalm : troubles s (.resume j answer) = [])
    (hstep : Step setup s (.resume j answer) s') (hs : StopStep s j point answer s')
    (hk : s'.slot = some k) (hp : s'.pointOf? k = some p) (hlive : p ≠ .ended) :
    Backed j k s' := by
  have now : ∀ o, s'.operations = s.operations.set j o → s'.operations[j]? = some o :=
    fun o hset => hset ▸ List.getElem?_set_self (List.getElem?_eq_some_iff.1 hj).1
  -- A stop that takes the published socket back has found nobody in the slot.
  have spared : ∀ q, s.slot = some k → s.pointOf? k = some q → q ≠ .ended →
      point ≠ .dropping := by
    rintro q hslot hq hq' rfl
    exact (h.up k q hslot hq hq').spared hj
  cases hs with
  | check =>
    have hqueued := now (.stop .queued) rfl
    exact h.stay hcalm hstep hk rfl ⟨p, hp, hlive⟩ rfl (by rw [hqueued]; simp)
      fun _ => .inr hqueued
  | join => cases hk
  | free _ hslot => rw [State.setOperation, hslot] at hk; cases hk
  | joined =>
    rw [State.setOperation, ho.slot j (ho.turns j _ hj rfl)] at hk
    cases hk
  | close => exact absurd rfl (spared p hk hp hlive)
  | nothing => exact absurd rfl (spared p hk hp hlive)
  | closed =>
    have hdone := now (.finished (.ok ())) rfl
    refine h.stay hcalm hstep hk rfl ⟨p, hp, hlive⟩ rfl (by rw [hdone]; simp) fun hr => .inl ?_
    have hrunning : s.bus.running = true := by simpa [hj] using hr
    exact hrunning

theorem up_of_startStep (ho : Orderly s) (hpair : Pair i j token s) {t : Nat} {point : StartPoint}
    (hi : s.operations[i]? = some (.start t point))
    (hother : s'.operations[j]? = s.operations[j]?)
    (hcalm : troubles s (.resume i answer) = []) (hcross : crossings s (.resume i answer) = [])
    (hs : StartStep setup s i t point answer s') (hk : s'.slot = some k) : Backed j k s' := by
  have turn : (Operation.start t point).inTurn = true → s.slot = none := fun hin =>
    ho.slot i (ho.turns i _ hi hin)
  cases hs with
  | join => cases hk
  | dial _ hslot => cases hslot.symm.trans hk
  | joined => cases (turn rfl).symm.trans hk
  | opened => cases (turn rfl).symm.trans hk
  | refused => simp [troubles, hi] at hcalm
  | late => simp [troubles, hi] at hcalm
  | @published socket =>
    obtain rfl : s.loops.length = k := Option.some.inj hk
    obtain rfl : t = token := (hpair.fits i _ hi).2
    refine ⟨⟨socket, ⟨⟨t, false, .reading socket⟩, ?_, ?_, rfl⟩, rfl⟩, ?_, .inl rfl⟩
    · exact List.getElem?_concat_length
    · have hunfired : s.fired.contains t = false := by simpa using hpair.unfired
      exact hunfired
    · -- Otherwise the start and the stop would cross.
      rw [hother]
      intro hdropping
      have hany : s.operations.any Operation.isDropping = true :=
        List.any_eq_true.2 ⟨_, List.mem_of_getElem? hdropping, rfl⟩
      simp [crossings, hi, hany] at hcross

theorem up_of_step (ho : Orderly s) (hpair : Pair i j token s) (h : Outcome j s)
    (hcalm : troubles s m = []) (hcross : crossings s m = []) (hs : Step setup s m s')
    (hk : s'.slot = some k) (hp : s'.pointOf? k = some p) (hlive : p ≠ .ended) :
    Backed j k s' := by
  obtain ⟨oⱼ, hj⟩ : ∃ o, s.operations[j]? = some o := ⟨_, List.getElem?_eq_getElem hpair.known⟩
  by_cases hm : ∃ answer, m = .resume j answer
  · obtain ⟨answer, rfl⟩ := hm
    have hstep := hs
    cases hs with
    | start hi _ => exact absurd (hpair.fits j _ hi).1.symm hpair.ne
    | send hi _ => exact absurd rfl (hpair.fits j _ hi)
    | stop hi hs => exact up_of_stopStep ho h hi hcalm hstep hs hk hp hlive
  · have hother : s'.operations[j]? = s.operations[j]? := by
      rw [hj]
      exact operation_of_step hj (fun answer h => hm ⟨answer, h⟩) hs
    have stay : s'.slot = s.slot → (∃ p, s.pointOf? k = some p ∧ p ≠ .ended) →
        s'.writer = s.writer → s'.bus.running = s.bus.running → Backed j k s' := by
      rintro hslot ⟨q, hq, hq'⟩ hw hr
      have hspared := (h.up k q (hslot ▸ hk) hq hq').spared
      exact h.stay hcalm hs hk hslot ⟨q, hq, hq'⟩ hw (hother ▸ hspared)
        fun hrunning => by rwa [hr, hother]
    have steady : ∀ {a q}, s.pointOf? a = some q → q ≠ .ended → Steady a s s' →
        Backed j k s' := fun ha hq hsteady =>
      stay hsteady.slot (live_before ha hq hsteady.loops hp hlive) hsteady.writer hsteady.running
    cases hs with
    | call c =>
      cases c with
      | start t => cases hcalm
      | stop => cases hcalm
      | send message => exact stay rfl ⟨p, hp, hlive⟩ rfl rfl
    | start hi hs =>
      obtain ⟨rfl, -⟩ := hpair.fits _ _ hi
      exact up_of_startStep ho hpair hi hother hcalm hcross hs hk
    | stop hi _ =>
      obtain rfl : _ = j := hpair.fits _ _ hi
      exact absurd ⟨_, rfl⟩ hm
    | send _ hs => cases hs <;> exact stay rfl ⟨p, hp, hlive⟩ rfl rfl
    | cancel t => cases hcalm
    | elapse _ => exact stay rfl ⟨p, hp, hlive⟩ rfl rfl
    | @receive a x l _ hl hreading =>
      have ha : s.pointOf? a = some (.reading x) := hreading ▸ pointOf?_eq hl
      exact steady ha nofun (steady_of_receive _)
    | halt hl hhalting =>
      refine steady (pointOf?_eq hl) (fun hend => ?_) ⟨.inr ⟨_, rfl⟩, rfl, rfl, rfl⟩
      simp [State.isHalting, hend] at hhalting
    | proceed hl hq hs =>
      have ha := hq ▸ pointOf?_eq hl
      obtain ⟨hgoing, p', hloops, hslot, -⟩ := goes_on_of_loopStep hs
      obtain ⟨q, hq, hq'⟩ := live_before ha hgoing (.inr ⟨p', hloops⟩) hp hlive
      obtain ⟨x, hserves, -⟩ := (h.up k q (hslot ▸ hk) hq hq').serves
      exact steady ha hgoing (steady_of_proceed ho hserves ha hs)

theorem not_silent (hp : s.pointOf? k = some p) (hlive : p ≠ .ended) : ¬s.Silent :=
  fun hsilent => hlive (hsilent k p hp)

theorem down_of_step (ho : Orderly s) (hpair : Pair i j token s) (h : Outcome j s)
    (hcalm : troubles s m = []) (hs : Step setup s m s') (hturn : s'.turn = none)
    (hsilent : s'.Silent) :
    s'.connection = .disconnected ∨ s'.operations[j]? = some (.stop .dropping) := by
  have same : s'.turn = s.turn → s'.loops = s.loops → s'.connection = s.connection →
      (s.operations[j]? = some (.stop .dropping) →
        s'.operations[j]? = some (.stop .dropping)) →
      s'.connection = .disconnected ∨ s'.operations[j]? = some (.stop .dropping) := by
    intro hsame hloops hconnection hdropping
    have hsilent₀ : s.Silent := fun k p hp => hsilent k p ((pointOf?_congr hloops k).trans hp)
    rcases h.down (hsame ▸ hturn) hsilent₀ with hdown | hstop
    · exact .inl (hconnection.trans hdown)
    · exact .inr (hdropping hstop)
  cases hs with
  | call c =>
    have hkept : ∀ o, (s.operations ++ [o])[j]? = s.operations[j]? := fun o =>
      List.getElem?_append_left hpair.known
    cases c <;> exact same rfl rfl rfl fun hstop => (hkept _).trans hstop
  | @start a t _ _ _ hi hs =>
    have turn : (Operation.start t _).inTurn = true → s.turn = some a := ho.turns a _ hi
    cases hs with
    | join => cases hturn
    | dial => cases hturn
    | joined => cases (turn rfl).symm.trans hturn
    | opened => cases (turn rfl).symm.trans hturn
    | refused => simp [troubles, hi] at hcalm
    | late => simp [troubles, hi] at hcalm
    | @published x =>
      have hnew : (((s.publish x).addLoop t x).finish a (.ok ())).pointOf? s.loops.length =
          some (.reading x) := by
        simp [State.pointOf?, State.finish, State.setOperation, State.addLoop, State.publish]
      exact absurd hsilent (not_silent hnew fun h => by cases h)
  | @stop a _ _ _ hi hs =>
    obtain rfl : a = j := hpair.fits a _ hi
    have hknown := hpair.known
    cases hs with
    | check => exact same rfl rfl rfl fun hstop => by rw [hi] at hstop; cases hstop
    | join => cases hturn
    | free => exact .inr (List.getElem?_set_self hknown)
    | joined => exact .inr (List.getElem?_set_self hknown)
    | close => exact .inl rfl
    | nothing => exact .inl rfl
    | closed => exact same rfl rfl rfl fun hstop => by rw [hi] at hstop; cases hstop
  | @send a _ _ _ _ hi hs =>
    have ha : a ≠ j := hpair.fits a _ hi
    cases hs <;> exact same rfl rfl rfl fun hstop => (List.getElem?_set_ne ha).trans hstop
  | cancel t => cases hcalm
  | elapse _ => exact same rfl rfl rfl id
  | @receive a x l _ hl hreading =>
    have hp : s.pointOf? a = some (.reading x) := hreading ▸ pointOf?_eq hl
    generalize hread : s.read a x _ = s₁ at *
    cases read_inv hread with
    | lost => cases hcalm
    | skipped => exact absurd hsilent (not_silent hp fun h => by cases h)
    | delivered => exact absurd hsilent (not_silent (pointOf?_loopAt hp) fun h => by cases h)
  | halt hl _ =>
    exact absurd hsilent (not_silent (pointOf?_loopAt (pointOf?_eq hl)) fun h => by cases h)
  | @proceed a l q _ _ hl hq hs =>
    -- Nobody is in turn, so the loop stands in the slot, and is backed: it only reads on.
    have ha : s.pointOf? a = some q := hq ▸ pointOf?_eq hl
    obtain ⟨hgoing, -, -, -, hsame, -⟩ := goes_on_of_loopStep hs
    have hslot : s.slot = some a := by
      rcases ho.owned a q ha hgoing with hslot | ⟨b, _, hb, -⟩
      · exact hslot
      · rw [← hsame, hturn] at hb
        cases hb
    obtain ⟨x, hserves, -⟩ := (h.up a q hslot ha hgoing).serves
    obtain ⟨q', hq', hsocket⟩ := hserves.point
    obtain rfl : q = q' := Option.some.inj (ha.symm.trans hq')
    cases hs with
    | delivered => exact absurd hsilent (not_silent (pointOf?_loopAt ha) fun h => by cases h)
    | _ => cases hsocket

theorem outcome_of_step (ho : Orderly s) (hpair : Pair i j token s) (h : Outcome j s)
    (hcalm : troubles s m = []) (hcross : crossings s m = []) (hs : Step setup s m s') :
    Outcome j s' :=
  ⟨fun _ _ hk hp hlive => up_of_step ho hpair h hcalm hcross hs hk hp hlive,
    fun hturn hsilent => down_of_step ho hpair h hcalm hs hturn hsilent⟩

/-- Both operations are over, and nothing has crossed. -/
theorem clean_of_outcome (ho : Orderly s) (hf : Faithful s) (hheld : TurnHeld s)
    (hpair : Pair i j token s) (h : Outcome j s)
    (hi : ∃ r, s.operations[i]? = some (.finished r))
    (hj : ∃ r, s.operations[j]? = some (.finished r)) : Stopped s ∨ Started s := by
  obtain ⟨rᵢ, hi⟩ := hi
  obtain ⟨rⱼ, hj⟩ := hj
  have hturn : s.turn = none := by
    refine Option.eq_none_iff_forall_ne_some.2 fun a ha => ?_
    obtain ⟨o, ho, hin⟩ := hheld a ha
    have hfits := hpair.fits a o ho
    cases o with
    | start t p =>
      obtain ⟨rfl, -⟩ := hfits
      rw [hi] at ho
      cases ho
    | stop p =>
      obtain rfl : a = j := hfits
      rw [hj] at ho
      cases ho
    | send message p => cases hin
    | finished r => cases hin
  by_cases hsilent : s.Silent
  · obtain ⟨hw, hr, -⟩ := hf.down hsilent
    rcases h.down hturn hsilent with hdown | hdropping
    · exact .inl ⟨hsilent, hw, hdown, hr⟩
    · rw [hj] at hdropping
      cases hdropping
  · obtain ⟨k, p, hp, hlive⟩ : ∃ k p, s.pointOf? k = some p ∧ p ≠ .ended := by
      simpa [State.Silent] using hsilent
    have hslot : s.slot = some k := by
      rcases ho.owned k p hp hlive with hslot | ⟨b, _, hb, -⟩
      · exact hslot
      · rw [hturn] at hb
        cases hb
    have hbacked := h.up k p hslot hp hlive
    obtain ⟨x, hserves, hw⟩ := hbacked.serves
    have hrunning : s.bus.running = true := by
      rcases hbacked.running with hrunning | hqueued
      · exact hrunning
      · rw [hj] at hqueued
        cases hqueued
    exact .inr ⟨⟨k, x, hslot, hserves, hw⟩, hf.connected.2 (by rw [hw]; rfl), hrunning⟩

/-! ## After a crossing -/

theorem CutOff.of_set {o' : Operation} (h : CutOff j s) (hk : k ≠ j)
    (hset : s'.operations = s.operations.set k o') (hspares : o'.sparesLoops = true)
    (hw : s'.writer = s.writer)
    (hloop : ∃ k socket, s'.slot = some k ∧ Serves s' k socket) : CutOff j s' := by
  have hj : s'.operations[j]? = s.operations[j]? := by rw [hset, List.getElem?_set_ne hk]
  refine ⟨fun a o ha => ?_, by rw [hj, hw]; exact h.stop, hloop⟩
  rw [hset, List.getElem?_set] at ha
  split at ha
  · split at ha
    · exact .inl (Option.some.inj ha ▸ hspares)
    · cases ha
  · exact h.alone a o ha

theorem CutOff.of_stop (h : CutOff j s) {point : StopPoint}
    (hj : s.operations[j]? = some (.stop point)) (hs : StopStep s j point answer s')
    (hloop : s'.slot = s.slot → ∃ k socket, s'.slot = some k ∧ Serves s' k socket) :
    CutOff j s' := by
  have hknown : j < s.operations.length := (List.getElem?_eq_some_iff.1 hj).1
  have taken : ∀ o, s'.operations = s.operations.set j o → s'.slot = s.slot → s'.writer = none →
      ((∃ socket, o = .stop (.closing socket)) ∨ ∃ r, o = .finished r) → CutOff j s' := by
    intro o hset hslot hw ho
    have hnow : s'.operations[j]? = some o := hset ▸ List.getElem?_set_self hknown
    refine ⟨fun a o' ha => ?_, .inr ⟨hw, ?_⟩, hloop hslot⟩
    · by_cases haj : a = j
      · exact .inr haj
      · rw [hset, List.getElem?_set_ne (Ne.symm haj)] at ha
        exact h.alone a o' ha
    · rw [hnow]
      simpa using ho
  rcases h.stop with hdropping | ⟨hw, ⟨x, hclosing⟩ | ⟨r, hdone⟩⟩
  · rw [hj] at hdropping
    cases hdropping
    cases hs with
    | @close x => exact taken _ rfl rfl rfl (.inl ⟨x, rfl⟩)
    | nothing => exact taken _ rfl rfl rfl (.inr ⟨_, rfl⟩)
  · rw [hj] at hclosing
    cases hclosing
    cases hs with
    | closed => exact taken _ rfl rfl hw (.inr ⟨_, rfl⟩)
  · rw [hj] at hdone
    cases hdone

/-- The loop in the slot reads on, and the stop takes its socket away. -/
theorem cutOff_of_step (ho : Orderly s) (h : CutOff j s) (hcalm : troubles s m = [])
    (hs : Step setup s m s') : CutOff j s' := by
  obtain ⟨k, x, hk, hserves⟩ := h.loop
  have loop : s'.slot = s.slot → ∃ k socket, s'.slot = some k ∧ Serves s' k socket :=
    fun hslot => ⟨k, x, hslot.trans hk, serves_of_step hserves hcalm (hslot.trans hk) hs⟩
  have same : s'.operations = s.operations → s'.writer = s.writer → s'.slot = s.slot →
      CutOff j s' := by
    intro hoperations hw hslot
    refine ⟨hoperations ▸ h.alone, ?_, loop hslot⟩
    rw [hoperations, hw]
    exact h.stop
  have stop : ∃ o, s.operations[j]? = some o ∧
      (∀ t p, o ≠ .start t p) ∧ ∀ message p, o ≠ .send message p := by
    rcases h.stop with hj | ⟨-, ⟨_, hj⟩ | ⟨_, hj⟩⟩ <;> exact ⟨_, hj, by simp, by simp⟩
  obtain ⟨oⱼ, hj, hnotStart, hnotSend⟩ := stop
  have hknown : j < s.operations.length := (List.getElem?_eq_some_iff.1 hj).1
  cases hs with
  | call c =>
    cases c with
    | start t => cases hcalm
    | stop => cases hcalm
    | send message =>
      refine ⟨fun a o ha => ?_, ?_, loop rfl⟩
      · rw [State.begin, List.getElem?_append] at ha
        split at ha
        · exact h.alone a o ha
        · exact .inl (List.mem_singleton.1 (List.mem_of_getElem? ha) ▸ rfl)
      · rw [State.begin, List.getElem?_append_left hknown]
        exact h.stop
  | @start a t p _ _ hi _ =>
    rcases h.alone a _ hi with hspares | rfl
    · cases hspares
    · exact absurd (Option.some.inj (hj.symm.trans hi)) (hnotStart t p)
  | @stop a _ _ _ hi hs =>
    rcases h.alone a _ hi with hspares | rfl
    · cases hspares
    · exact h.of_stop hi hs loop
  | @send a message p _ _ hi hs =>
    have ha : a ≠ j := by
      rintro rfl
      exact hnotSend message p (Option.some.inj (hj.symm.trans hi))
    cases hs <;> exact h.of_set ha rfl rfl rfl (loop rfl)
  | cancel t => cases hcalm
  | elapse _ => exact same rfl rfl rfl
  | receive =>
    generalize hread : s.read _ _ _ = s₁ at *
    cases read_inv hread <;> exact same rfl rfl rfl
  | halt => exact same rfl rfl rfl
  | proceed hl hq hs =>
    have hsteady := steady_of_proceed ho hserves (hq ▸ pointOf?_eq hl) hs
    obtain ⟨-, -, -, -, -, hoperations⟩ := goes_on_of_loopStep hs
    exact same hoperations hsteady.writer hsteady.slot

/-- A start publishes its socket while the stop is about to take it. -/
theorem cutOff_of_crossing (hpair : Pair i j token s) (hcross : crossings s m ≠ [])
    (hs : Step setup s m s') : CutOff j s' := by
  obtain ⟨a, t, x, rfl, ha, hany⟩ : ∃ a t x, m = .resume a .ready ∧
      s.operations[a]? = some (.start t (.publishing x)) ∧
      s.operations.any Operation.isDropping = true := by
    unfold crossings at hcross
    split at hcross
    · split at hcross
      · rename_i t x ha
        split at hcross
        · rename_i hany
          exact ⟨_, t, x, rfl, ha, hany⟩
        · exact absurd rfl hcross
      · exact absurd rfl hcross
    · exact absurd rfl hcross
  obtain ⟨rfl, rfl⟩ := hpair.fits a _ ha
  obtain ⟨o, hmem, hdropping⟩ := List.any_eq_true.1 hany
  obtain ⟨b, hb⟩ := List.mem_iff_getElem?.1 hmem
  obtain rfl : o = .stop .dropping := by
    unfold Operation.isDropping at hdropping
    split at hdropping
    · rfl
    · cases hdropping
  obtain rfl : b = j := hpair.fits b _ hb
  cases hs with
  | stop hi _ => rw [ha] at hi; cases hi
  | send hi _ => rw [ha] at hi; cases hi
  | start hi hs =>
    rw [ha] at hi
    cases hi
    cases hs
    refine ⟨fun k o hk => ?_, .inl ((List.getElem?_set_ne hpair.ne).trans hb), ?_⟩
    · by_cases hka : k = a
      · subst hka
        have hknown : k < s.operations.length := (List.getElem?_eq_some_iff.1 ha).1
        rw [State.finish, State.setOperation] at hk
        obtain rfl := Option.some.inj ((List.getElem?_set_self hknown).symm.trans hk)
        exact .inl rfl
      · have hold : s.operations[k]? = some o := (List.getElem?_set_ne (Ne.symm hka)).symm.trans hk
        have hfits := hpair.fits k o hold
        cases o with
        | start t p => exact absurd hfits.1 hka
        | stop p => exact .inr hfits
        | send message p => exact .inl rfl
        | finished r => exact .inl rfl
    · refine ⟨s.loops.length, x, rfl, ⟨t, false, .reading x⟩, List.getElem?_concat_length, ?_, rfl⟩
      have hunfired : s.fired.contains t = false := by simpa using hpair.unfired
      exact hunfired

theorem CutOff.not_clean (h : CutOff j s) (hj : ∃ r, s.operations[j]? = some (.finished r)) :
    ¬(Stopped s ∨ Started s) := by
  obtain ⟨r, hj⟩ := hj
  have hw : s.writer = none := by
    rcases h.stop with hdropping | ⟨hw, -⟩
    · rw [hj] at hdropping
      cases hdropping
    · exact hw
  obtain ⟨k, x, -, hserves⟩ := h.loop
  obtain ⟨p, hp, hsocket⟩ := hserves.point
  rintro (hstopped | hstarted)
  · rw [hstopped.silent k p hp] at hsocket
    cases hsocket
  · obtain ⟨_, _, -, -, hsome⟩ := hstarted.loop
    rw [hw] at hsome
    cases hsome

/-! ## The whole run -/

theorem turnHeld_of_run {bus : Bus} {moves : List Move}
    (hrun : exec setup (.initial bus) moves = some s') : TurnHeld s' := by
  rw [exec_eq_follow] at hrun
  exact follow_invariant (Q := fun _ => True) (fun h _ hstep => turnHeld_of_step h (step_inv hstep))
    (turnHeld_of_free rfl) (fun _ _ => trivial) hrun

theorem outcome_of_clean (hclean : Stopped s ∨ Started s)
    (hj : s.operations[j]? = some (.stop .check)) : Outcome j s := by
  rcases hclean with hstopped | hstarted
  · exact ⟨fun k p _ hp hlive => absurd (hstopped.silent k p hp) hlive,
      fun _ _ => .inl hstopped.connection⟩
  · obtain ⟨k₀, x, hslot, hserves, hw⟩ := hstarted.loop
    obtain ⟨p₀, hp₀, hsocket⟩ := hserves.point
    refine ⟨fun k p hk _ _ => ?_, fun _ hsilent => ?_⟩
    · obtain rfl : k₀ = k := Option.some.inj (hslot.symm.trans hk)
      exact ⟨⟨x, hserves, hw⟩, by rw [hj]; simp, .inl hstarted.running⟩
    · rw [hsilent k₀ p₀ hp₀] at hsocket
      cases hsocket

theorem pair_of_called (hi : s.operations[i]? = some (.start token .queued))
    (hunfired : token ∉ s.fired) (hj : s.operations[j]? = some (.stop .check))
    (hothers : ∀ k o, k ≠ i → k ≠ j → s.operations[k]? = some o → o.sparesLoops = true) :
    Pair i j token s := by
  have hne : i ≠ j := by
    rintro rfl
    rw [hi] at hj
    cases hj
  refine ⟨hne, fun k o hk => ?_, (List.getElem?_eq_some_iff.1 hj).1, hunfired⟩
  by_cases hki : k = i
  · subst hki
    rw [hi] at hk
    cases hk
    exact ⟨rfl, rfl⟩
  · by_cases hkj : k = j
    · subst hkj
      rw [hj] at hk
      cases hk
      exact rfl
    · have hspares := hothers k o hki hkj hk
      cases o with
      | start t p => cases hspares
      | stop p => cases hspares
      | send message p => exact hkj
      | finished r => trivial

/-- How things stand after these crossings. -/
structure Course (i j token : Nat) (past : List Move) (s : State) : Prop where
  orderly : Orderly s
  faithful : Faithful s
  held : TurnHeld s
  crossed : past = [] ∧ Pair i j token s ∧ Outcome j s ∨ past ≠ [] ∧ CutOff j s

theorem course_of_step {past : List Move} (h : Course i j token past s)
    (hcalm : troubles s m = []) (hs : Step setup s m s') :
    Course i j token (past ++ crossings s m) s' := by
  refine ⟨orderly_of_step h.orderly hs, faithful_of_step h.faithful h.orderly hs,
    turnHeld_of_step h.held hs, ?_⟩
  rcases h.crossed with ⟨rfl, hpair, houtcome⟩ | ⟨hpast, hcut⟩
  · by_cases hcross : crossings s m = []
    · refine .inl ⟨by simp [hcross], pair_of_step hpair hcalm hs, ?_⟩
      exact outcome_of_step h.orderly hpair houtcome hcalm hcross hs
    · exact .inr ⟨by simpa using hcross, cutOff_of_crossing hpair hcross hs⟩
  · exact .inr ⟨by simp [hpast], cutOff_of_step h.orderly hcut hcalm hs⟩

/-- A channel is stopped or started, and is both started and stopped once more. Dials succeed, no
socket is lost and no token fires. When both are over, however they and the loops gave way to each
other, the channel is stopped or started exactly if the start did not publish its socket while the
stop was about to take back the published one. -/
theorem overlap_clean_iff {name : String} {allow : List String} {before moves : List Move}
    (hbefore : exec setup (.initial (.new name allow)) before = some s)
    (hclean : Stopped s ∨ Started s)
    (hi : s.operations[i]? = some (.start token .queued)) (hunfired : token ∉ s.fired)
    (hj : s.operations[j]? = some (.stop .check))
    (hothers : ∀ k o, k ≠ i → k ≠ j → s.operations[k]? = some o → o.sparesLoops = true)
    (hcalm : observe (step setup) troubles s moves = [])
    (hrun : exec setup s moves = some s')
    (hi' : ∃ r, s'.operations[i]? = some (.finished r))
    (hj' : ∃ r, s'.operations[j]? = some (.finished r)) :
    (Stopped s' ∨ Started s') ↔ observe (step setup) crossings s moves = [] := by
  obtain ⟨hordered, hfaithful⟩ : Orderly s ∧ Faithful s := wired_of_run rfl hbefore
  have hpair : Pair i j token s := pair_of_called hi hunfired hj hothers
  have houtcome : Outcome j s := outcome_of_clean hclean hj
  rw [exec_eq_follow] at hrun
  have hhistory := follow_history (I := Course i j token) crossings troubles
    (fun h hcalm hstep => course_of_step h hcalm (step_inv hstep)) []
    ⟨hordered, hfaithful, turnHeld_of_run hbefore, .inl ⟨rfl, hpair, houtcome⟩⟩ hcalm hrun
  rw [List.nil_append] at hhistory
  rcases hhistory.crossed with ⟨hnone, hpair', houtcome'⟩ | ⟨hsome, hcut⟩
  · have hclean' := clean_of_outcome hhistory.orderly hhistory.faithful hhistory.held hpair'
      houtcome' hi' hj'
    exact ⟨fun _ => hnone, fun _ => hclean'⟩
  · exact ⟨fun hclean' => absurd hclean' (hcut.not_clean hj'), fun hnone => absurd hnone hsome⟩

end

/-- A channel is started; then a start and a stop are called. -/
def startedAndBothCalled : List Move :=
  [.call (.start 0), .resume 0 .ready, .resume 0 .ready, .resume 0 .ready, .call (.start 1),
    .call .stop]

/-- The start comes to its turn first, and the stop ends its loop. -/
def stopLast : List Move :=
  [.resume 2 .ready, .resume 1 .ready, .halt 0, .proceed 0 .ready, .proceed 0 .ready,
    .resume 1 .ready, .resume 1 .ready, .resume 1 .ready, .resume 2 .ready, .halt 1,
    .proceed 1 .ready, .proceed 1 .ready, .resume 2 .ready, .resume 2 .ready]

theorem stopLast_clean : ∃ s s',
    exec ⟨"ws://bridge", .usual⟩ (.initial (.new channelName [])) startedAndBothCalled = some s ∧
    exec ⟨"ws://bridge", .usual⟩ s stopLast = some s' ∧ (Stopped s' ∨ Started s') := by
  let setup : Setup := ⟨"ws://bridge", .usual⟩
  obtain ⟨s, s', hbefore, hstarted, hoperations, hfired, hcalm, hcross, hrun, hdone⟩ : ∃ s s',
      exec setup (.initial (.new channelName [])) startedAndBothCalled = some s ∧ Started s ∧
      s.operations = [.finished (.ok ()), .start 1 .queued, .stop .check] ∧ s.fired = [] ∧
      observe (step setup) troubles s stopLast = [] ∧
      observe (step setup) crossings s stopLast = [] ∧ exec setup s stopLast = some s' ∧
      s'.operations = [.finished (.ok ()), .finished (.ok ()), .finished (.ok ())] :=
    ⟨_, _, rfl, ⟨⟨0, 0, rfl, ⟨_, rfl, rfl, rfl⟩, rfl⟩, rfl, rfl⟩, rfl, rfl, by decide +kernel,
      by decide +kernel, rfl, rfl⟩
  have hi : s.operations[1]? = some (.start 1 .queued) := by rw [hoperations]; rfl
  have hj : s.operations[2]? = some (.stop .check) := by rw [hoperations]; rfl
  have hothers : ∀ k o, k ≠ 1 → k ≠ 2 → s.operations[k]? = some o → o.sparesLoops = true := by
    intro k o h₁ h₂ hk
    obtain rfl : k = 0 := by
      have hlt := (List.getElem?_eq_some_iff.1 hk).1
      rw [hoperations] at hlt
      simp only [List.length_cons, List.length_nil] at hlt
      omega
    rw [hoperations] at hk
    cases hk
    rfl
  refine ⟨s, s', hbefore, hrun, ?_⟩
  refine (overlap_clean_iff hbefore (.inr hstarted) hi (by simp [hfired]) hj hothers hcalm hrun
    ?_ ?_).2 hcross
  · exact ⟨.ok (), by rw [hdone]; rfl⟩
  · exact ⟨.ok (), by rw [hdone]; rfl⟩

/-- The stop comes to its turn first, and takes its time before it takes back what is published. -/
def stopCrosses : List Move :=
  [.resume 2 .ready, .resume 2 .ready, .halt 0, .proceed 0 .ready, .proceed 0 .ready,
    .resume 2 .ready, .resume 1 .ready, .resume 1 .ready, .resume 1 .ready, .resume 2 .ready,
    .resume 2 .ready]

/-- The channel is shown as running, and its loop reads from a socket that is closed. -/
theorem start_cut_off : ∃ s s',
    exec ⟨"ws://bridge", .usual⟩ (.initial (.new channelName [])) startedAndBothCalled = some s ∧
    Started s ∧ observe (step ⟨"ws://bridge", .usual⟩) troubles s stopCrosses = [] ∧
    exec ⟨"ws://bridge", .usual⟩ s stopCrosses = some s' ∧
    s'.operations = [.finished (.ok ()), .finished (.ok ()), .finished (.ok ())] ∧
    s'.slot = some 1 ∧ s'.pointOf? 1 = some (.reading 1) ∧ s'.writer = none ∧
    s'.connection = .disconnected ∧ s'.bus.running = true ∧ ¬(Stopped s' ∨ Started s') := by
  refine ⟨_, _, rfl, ⟨⟨0, 0, rfl, ⟨_, rfl, rfl, rfl⟩, rfl⟩, rfl, rfl⟩, by decide +kernel, rfl, rfl,
    rfl, rfl, rfl, rfl, rfl, ?_⟩
  rintro (hstopped | hstarted)
  · cases hstopped.idle
  · cases hstarted.connection

end ChatChannel.Bridge
