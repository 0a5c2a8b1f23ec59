import ChatChannel.Proofs.Native.Custody
import ChatChannel.Proofs.Native.Finality
import Mathlib.Data.List.Nodup

/-!
# ChatChannel.Proofs.Native.Rivals

A start or stop that is called while another one is in flight. The two do not wait for each other:
held client and dispatcher are kept apart, and a start lets go of both before it opens its client
and takes them over after that. What comes of it depends on where the two meet.

As long as one of the two has not touched anything, the other goes on as if it was alone. Once both
have told the dispatcher to end that there was, none of them does so again: what gets lost from then
on (`Loss`) stays lost.

* `rivals_of_step`: these two phases.
* `undoubled_iff`: all clients but the held one are gone at the end exactly if no start has put its
  client in the place of the other's, and none has let go of a client before its dispatcher could be
  told to end.
* `sideBySide_doubled`: a run in which a start puts its client in the place of the other's.
-/

namespace ChatChannel.Native

/-- All clients but the held one are disconnected, and their dispatchers were told to end. -/
def Undoubled (s : State) : Prop :=
  ∀ c d, s.clients[c]? = some d → s.held ≠ some c → c ∈ s.disconnects ∧ s.isCancelled d = true

/-- The operation has not touched held client and dispatcher yet, or does not do so any more. -/
def Operation.isApart : Operation → Bool
  | .start _ .check => true
  | .start _ (.release .token) => true
  | .start _ _ => false
  | .stop .check => true
  | .stop (.release .token) => true
  | .stop _ => false
  | .send _ _ => true
  | .finished _ => true

/-- Two operations that can get in each other's way, after these losses. -/
inductive Rivals (past : List Loss) (s : State) : Prop where
  /-- Operation `i` goes on as if it was alone. All others are apart, and only `j` can come in. -/
  | before (i j : Nat) {o : Operation} (hpast : past = []) (hi : s.operations[i]? = some o)
      (hplaced : Placed s.books o)
      (hothers : ∀ (k : Nat) o, s.operations[k]? = some o → k ≠ i →
        o.isApart = true ∧ (o.isTransition = true → k = j))
  /-- Nobody is left to tell the dispatcher of a client to end that was let go of. -/
  | after (hnone : ∀ o ∈ s.operations, o.isTransition = true → o.isApart = false)
      (hastray : ∀ c, .unheeded c ∈ past →
        s.books.cancelled[c]? = some false ∧ c ∈ s.books.disconnected)

section

variable {setup : Setup} {s s' : State} {m : Move} {i k c : Nat} {answer : Answer} {b b' : Books}
  {o o' : Operation} {past : List Loss} {operations : List Operation}

/-! ## Apart from each other -/

theorem placed_of_apart (ho : o.isApart = true) : Placed b o ↔ b.dispatcher = b.held := by
  cases o with
  | start t p =>
    cases p with
    | check => exact Iff.rfl
    | release point =>
      cases point with
      | token => exact Iff.rfl
      | _ => cases ho
    | _ => cases ho
  | stop p =>
    cases p with
    | check => exact Iff.rfl
    | release point =>
      cases point with
      | token => exact Iff.rfl
      | _ => cases ho
  | send => exact Iff.rfl
  | finished => exact Iff.rfl

theorem apart_of_rest (ho : o.isTransition = false) : o.isApart = true := by
  cases o with
  | start => cases ho
  | stop => cases ho
  | send => rfl
  | finished => rfl

theorem apart_of_call (c : Call) : c.operation.isApart = true := by
  cases c <;> rfl

theorem apart_of_isReleased {t : Nat} {p : StartPoint} (hp : p.isReleased = true) :
    (Operation.start t p).isApart = false := by
  cases p with
  | check => cases hp
  | release point =>
    cases point with
    | disconnecting => rfl
    | _ => cases hp
  | _ => rfl

theorem loses_of_apart (ho : o.isApart = true) : o.loses b = [] := by
  unfold Operation.loses
  split
  · cases ho
  · cases ho
  · cases ho
  · rfl

theorem Placed.congr (h : Placed b o) (hheld : b'.held = b.held)
    (hdispatcher : b'.dispatcher = b.dispatcher) (hcancelled : b'.cancelled = b.cancelled) :
    Placed b' o := by
  unfold Placed at h ⊢
  rw [hheld, hdispatcher, hcancelled]
  exact h

/-- An operation that is apart leaves all as it is, or tells the dispatcher to end. -/
theorem deal_of_apart (ho : o.isApart = true) (hdeal : Deal b o answer o' b') :
    (o'.isApart = true ∧ (o'.isTransition = true → o.isTransition = true) ∧ b'.held = b.held ∧
      b'.dispatcher = b.dispatcher ∧ b'.cancelled = b.cancelled) ∨
    (o.isTransition = true ∧ o'.isApart = false) := by
  have released : ∀ {t p}, o = .start t p → p.isReleased ≠ true := by
    rintro t p rfl hp
    rw [apart_of_isReleased hp] at ho
    cases ho
  cases hdeal with
  | refused => exact .inl ⟨rfl, nofun, rfl, rfl, rfl⟩
  | checked => exact .inl ⟨rfl, fun _ => rfl, rfl, rfl, rfl⟩
  | cut => exact .inr ⟨rfl, rfl⟩
  | goOn hp => exact absurd (isReleased_of_fosters (fosters?_of_connected hp)) (released rfl)
  | abandon hp => exact absurd (isReleased_of_fosters hp) (released rfl)
  | stopChecked => exact .inl ⟨rfl, fun _ => rfl, rfl, rfl, rfl⟩
  | stopCut => exact .inr ⟨rfl, rfl⟩
  | sending => exact .inl ⟨rfl, nofun, rfl, rfl, rfl⟩
  | sent => exact .inl ⟨rfl, nofun, rfl, rfl, rfl⟩
  | text => exact .inl ⟨rfl, nofun, rfl, rfl, rfl⟩
  | _ => cases ho

/-! ## Not apart any more -/

theorem involved_of_deal (ho : o.isTransition = true → o.isApart = false)
    (hdeal : Deal b o answer o' b') : o'.isTransition = true → o'.isApart = false := by
  cases hdeal with
  | checked => cases ho rfl
  | cut => exact fun _ => rfl
  | drop => exact fun _ => rfl
  | noClient _ hp => exact fun _ => apart_of_isReleased (isReleased_of_isOpening hp)
  | dropped hp => exact fun _ => apart_of_isReleased (isReleased_of_isOpening hp)
  | goOn _ hp' =>
    exact fun _ => apart_of_isReleased (isReleased_of_fosters (fosters?_of_connected hp'))
  | stopChecked => cases ho rfl
  | made => exact fun _ => rfl
  | openPaired => exact fun _ => rfl
  | openNew => exact fun _ => rfl
  | connect => exact fun _ => rfl
  | abandon => exact fun _ => rfl
  | hold => exact fun _ => rfl
  | stopCut => exact fun _ => rfl
  | stopDrop => exact fun _ => rfl
  | _ => exact nofun

theorem untold_after_deal (ho : o.isTransition = true → o.isApart = false)
    (hdeal : Deal b o answer o' b') (hc : b.cancelled[c]? = some false)
    (hown : o.fosters? ≠ some c) : b'.cancelled[c]? = some false := by
  have added : ∀ own, (b.add own).cancelled[c]? = some false := by
    intro own
    have hadd : (b.add own).cancelled = b.cancelled ++ [false] := rfl
    rw [hadd, List.getElem?_append_left (List.getElem?_eq_some_iff.1 hc).1]
    exact hc
  cases hdeal with
  | cut => cases ho rfl
  | stopCut => cases ho rfl
  | openPaired => exact added _
  | openNew => exact added _
  | @abandon _ x _ _ _ hp =>
    have hx : x ≠ c := by
      rintro rfl
      exact hown hp
    exact (List.getElem?_set_ne hx).trans hc
  | _ => exact hc

theorem disconnected_after_deal (hdeal : Deal b o answer o' b') (hc : c ∈ b.disconnected) :
    c ∈ b'.disconnected := by
  have asked : ∀ (b₁ : Books) x call, b₁.disconnected = b.disconnected →
      c ∈ (b₁.ask x call).disconnected := by
    intro b₁ x call hsame
    rw [disconnected_ask, hsame]
    exact List.mem_append_left _ hc
  cases hdeal with
  | cut => rwa [disconnected_cut]
  | stopCut => rwa [disconnected_cut]
  | drop => exact asked { b with held := none } _ _ rfl
  | stopDrop => exact asked { b with held := none } _ _ rfl
  | openPaired => rwa [disconnected_add]
  | openNew => rwa [disconnected_add]
  | connect => exact asked b _ _ rfl
  | @abandon _ x => exact asked (b.cancel x) _ _ rfl
  | text => exact asked b _ _ rfl
  | _ => exact hc

theorem mem_neglected (hc : .unheeded c ∈ b.neglected) :
    b.held = some c ∧ b.cancelled[c]? = some false := by
  obtain ⟨x, hx, ⟨⟩⟩ := List.mem_map.1 hc
  simpa [Option.filter_eq_some_iff] using hx

/-- A client whose dispatcher could not be told to end is disconnected. -/
theorem astray_of_deal (hdeal : Deal b o answer o' b') (hc : .unheeded c ∈ o.loses b) :
    b'.cancelled[c]? = some false ∧ c ∈ b'.disconnected := by
  have dropped : ∀ {x}, b.held = some x → .unheeded c ∈ b.neglected →
      (b.drop x).cancelled[c]? = some false ∧ c ∈ (b.drop x).disconnected := by
    intro x hh hc
    obtain ⟨hheld, huntold⟩ := mem_neglected hc
    obtain rfl : c = x := Option.some.inj (hheld.symm.trans hh)
    have hdropped : (b.drop c).disconnected = b.disconnected ++ [c] := disconnected_ask _ _ _
    exact ⟨huntold, by simp [hdropped]⟩
  cases hdeal with
  | drop hh => exact dropped hh hc
  | noClient hh =>
    cases hh.symm.trans (mem_neglected hc).1
  | goOn hp _ hhold =>
    rw [loses_of_fosters (fosters?_of_connected hp) hhold] at hc
    cases hc
  | abandon hp hhold =>
    rw [loses_of_fosters hp hhold] at hc
    cases hc
  | hold =>
    obtain ⟨_, -, ⟨⟩⟩ := List.mem_map.1 hc
  | stopDrop hh => exact dropped hh hc
  | stopNoClient hh => cases hh.symm.trans (mem_neglected hc).1
  | _ => cases hc

/-! ## Step by step -/

theorem Accounted.at_most_once (h : Accounted past operations b) (c : Nat) :
    (past.filterMap Loss.replaced?).count c + b.disconnected.count c + b.held.toList.count c +
      (fostered operations).count c ≤ 1 := by
  have hcount := List.nodup_iff_count_le_one.1 (h.once.nodup_iff.2 List.nodup_range) c
  simpa only [List.count_append] using hcount

theorem count_replaced (hc : .replaced c ∈ past) : 0 < (past.filterMap Loss.replaced?).count c :=
  List.count_pos_iff.2 (List.mem_filterMap.2 ⟨_, hc, rfl⟩)

theorem Accounted.of_disconnected (h : Accounted past operations b) (hc : c ∈ b.disconnected) :
    .replaced c ∉ past ∧ b.held ≠ some c ∧ c ∉ fostered operations := by
  have honce := h.at_most_once c
  have hpos := List.count_pos_iff.2 hc
  refine ⟨fun hreplaced => ?_, fun hheld => ?_, fun hfostered => ?_⟩
  · have hreplaced := count_replaced hreplaced
    omega
  · have hheld : b.held.toList.count c = 1 := by simp [hheld]
    omega
  · have hfostered := List.count_pos_iff.2 hfostered
    omega

theorem Accounted.of_replaced (h : Accounted past operations b) (hc : .replaced c ∈ past) :
    c < b.opened ∧ b.held ≠ some c := by
  have honce := h.at_most_once c
  have hreplaced := count_replaced hc
  refine ⟨List.mem_range.1 (h.once.mem_iff.1 ?_), fun hheld => ?_⟩
  · simp only [List.mem_append]
    exact .inl (.inl (.inl (List.count_pos_iff.1 hreplaced)))
  · have hheld : b.held.toList.count c = 1 := by simp [hheld]
    omega

/-- The other of two operations comes in. If the first one is still apart, they change places; else
nobody is left who is. -/
theorem rivals_of_cut {j : Nat} {o₁ : Operation} (hne : j ≠ i) (hi : s.operations[i]? = some o₁)
    (hplaced : Placed s.books o₁)
    (hothers : ∀ (l : Nat) o, s.operations[l]? = some o → l ≠ i →
      o.isApart = true ∧ (o.isTransition = true → l = j))
    (hj : s.operations[j]? = some o) (hset : s'.operations = s.operations.set j o')
    (hdeal : Deal s.books o answer o' s'.books) (hinvolved : o'.isApart = false) :
    Rivals [] s' := by
  have hj' : s'.operations[j]? = some o' := by
    rw [hset, List.getElem?_set_self (List.getElem?_eq_some_iff.1 hj).1]
  cases hfirst : o₁.isApart with
  | true =>
    have hfree : s.books.dispatcher = s.books.held := (placed_of_apart hfirst).1 hplaced
    have hplaced' : Placed s.books o := (placed_of_apart (hothers j o hj hne).1).2 hfree
    refine .before j i rfl hj' (placed_of_deal hplaced' hdeal) fun l o₂ hl hlj => ?_
    rw [hset, List.getElem?_set_ne hlj.symm] at hl
    by_cases hli : l = i
    · subst hli
      obtain rfl : o₁ = o₂ := Option.some.inj (hi.symm.trans hl)
      exact ⟨hfirst, fun _ => rfl⟩
    · obtain ⟨hapart, honly⟩ := hothers l o₂ hl hli
      exact ⟨hapart, fun ho₂ => absurd (honly ho₂) hlj⟩
  | false =>
    refine .after (fun o₂ ho₂ htransition => ?_) (fun c hc => by cases hc)
    obtain ⟨l, hl⟩ := List.mem_iff_getElem?.1 ho₂
    rw [hset] at hl
    rcases place_of_set hl with ⟨-, rfl⟩ | ⟨hlj, hl⟩
    · exact hinvolved
    · by_cases hli : l = i
      · subst hli
        obtain rfl : o₁ = o₂ := Option.some.inj (hi.symm.trans hl)
        exact hfirst
      · exact absurd ((hothers l o₂ hl hli).2 htransition) hlj

theorem rivals_of_deal (h : Rivals past s) (haccounted : Accounted past s.operations s.books)
    (hk : s.operations[k]? = some o) (hset : s'.operations = s.operations.set k o')
    (hdeal : Deal s.books o answer o' s'.books) : Rivals (past ++ o.loses s.books) s' := by
  cases h with
  | @before i j o₁ hpast hi hplaced hothers =>
    subst hpast
    by_cases hki : k = i
    · subst hki
      obtain rfl : o₁ = o := Option.some.inj (hi.symm.trans hk)
      refine .before k j (loses_of_placed hplaced) ?_ (placed_of_deal hplaced hdeal) ?_
      · rw [hset, List.getElem?_set_self (List.getElem?_eq_some_iff.1 hk).1]
      · intro l o₂ hl hlk
        rw [hset, List.getElem?_set_ne hlk.symm] at hl
        exact hothers l o₂ hl hlk
    · obtain ⟨hapart, honly⟩ := hothers k o hk hki
      rw [loses_of_apart hapart]
      rcases deal_of_apart hapart hdeal with ⟨hapart', hkept, hheld, hdispatcher, hcancelled⟩ |
        ⟨htransition, hinvolved⟩
      · refine .before i j rfl ?_ (hplaced.congr hheld hdispatcher hcancelled)
          fun l o₂ hl hli => ?_
        · rw [hset, List.getElem?_set_ne hki]
          exact hi
        · rw [hset] at hl
          rcases place_of_set hl with ⟨rfl, rfl⟩ | ⟨-, hl⟩
          · exact ⟨hapart', fun ho' => honly (hkept ho')⟩
          · exact hothers l o₂ hl hli
      · obtain rfl := honly htransition
        exact rivals_of_cut hki hi hplaced hothers hk hset hdeal hinvolved
  | after hnone hastray =>
    have hinvolved := hnone o (List.mem_of_getElem? hk)
    refine .after (fun o₂ ho₂ => ?_) (fun c hc => ?_)
    · rw [hset] at ho₂
      rcases List.mem_or_eq_of_mem_set ho₂ with hold | rfl
      · exact hnone o₂ hold
      · exact involved_of_deal hinvolved hdeal
    · rcases List.mem_append.1 hc with hbefore | hnow
      · obtain ⟨huntold, hdisconnected⟩ := hastray c hbefore
        have hown : o.fosters? ≠ some c := fun ho => (haccounted.of_disconnected hdisconnected).2.2
          (List.mem_filterMap.2 ⟨o, List.mem_of_getElem? hk, ho⟩)
        exact ⟨untold_after_deal hinvolved hdeal huntold hown,
          disconnected_after_deal hdeal hdisconnected⟩
      · exact astray_of_deal hdeal hnow

theorem Rivals.congr (h : Rivals past s) (hset : s'.operations = s.operations)
    (hbooks : s'.books = s.books) : Rivals past s' := by
  cases h with
  | before i j hpast hi hplaced hothers =>
    exact .before i j hpast (hset ▸ hi) (hbooks ▸ hplaced) (hset ▸ hothers)
  | after hnone hastray => exact .after (hset ▸ hnone) (hbooks ▸ hastray)

theorem rivals_of_send (h : Rivals past s) {c : Call} (hc : c.isTransition = false)
    (hset : s'.operations = s.operations ++ [c.operation]) (hbooks : s'.books = s.books) :
    Rivals past s' := by
  rw [← isTransition_operation] at hc
  cases h with
  | @before i j o hpast hi hplaced hothers =>
    refine .before i j hpast ?_ (hbooks ▸ hplaced) fun l o₂ hl hli => ?_
    · rw [hset, List.getElem?_append_left (List.getElem?_eq_some_iff.1 hi).1]
      exact hi
    · rw [hset] at hl
      rcases place_of_append hl with ⟨-, rfl⟩ | hold
      · exact ⟨apart_of_rest hc, fun ho₂ => by rw [hc] at ho₂; cases ho₂⟩
      · exact hothers l o₂ hold hli
  | after hnone hastray =>
    refine .after (fun o ho => ?_) (hbooks ▸ hastray)
    rw [hset] at ho
    rcases List.mem_append.1 ho with hold | hnew
    · exact hnone o hold
    · obtain rfl := List.mem_singleton.1 hnew
      intro htransition
      rw [hc] at htransition
      cases htransition

/-- While no further start or stop is called, the two are in the one phase or the other. -/
theorem rivals_of_step (h : Rivals past s) (haccounted : Accounted past s.operations s.books)
    (hm : ∀ c, m = .call c → c.isTransition = false) (hs : Step setup s m s') :
    Rivals (past ++ losses s m) s' := by
  cases dealt_of_step hs with
  | called c hset hbooks =>
    have hnone : losses s (.call c) = [] := rfl
    rw [hnone, List.append_nil]
    exact rivals_of_send h (hm c rfl) hset hbooks
  | @dealt i o o' answer hi hset hdeal =>
    have hlosses : losses s (.resume i answer) = o.loses s.books := by simp only [losses, hi]
    rw [hlosses]
    exact rivals_of_deal h haccounted hi hset hdeal
  | quiet _ hresume hset hbooks =>
    have hnone : losses s m = [] := by
      cases m with
      | resume i answer => exact absurd rfl (hresume i answer)
      | _ => rfl
    rw [hnone, List.append_nil]
    exact h.congr hset hbooks

/-! ## The whole run -/

theorem sole_of_transitions (hone : s.transitions = [o]) : ∃ i, s.operations[i]? = some o ∧
    ∀ (k : Nat) o₁, s.operations[k]? = some o₁ → o₁.isTransition = true → k = i := by
  have hmem : o ∈ s.transitions := by simp [hone]
  obtain ⟨hmem, ho⟩ := List.mem_filter.1 hmem
  obtain ⟨i, hi⟩ := List.mem_iff_getElem?.1 hmem
  refine ⟨i, hi, fun k o₁ hk ho₁ => ?_⟩
  by_contra hne
  -- It would still be there if the other one was finished.
  obtain ⟨-, hgone⟩ := filter_set_of_sole (b := .finished (.ok ())) hone hi ho
  have hk' : (s.operations.set i (.finished (.ok ())))[k]? = some o₁ := by
    rw [List.getElem?_set_ne (Ne.symm hne)]
    exact hk
  have hleft := List.mem_filter.2 ⟨List.mem_of_getElem? hk', ho₁⟩
  rw [hgone] at hleft
  cases hleft

theorem rivals_of_call {owns : List (Option Address)} (h : InTurn owns s) (c : Call) :
    Rivals [] (s.begin c) := by
  have hset := operations_begin s c
  have hbooks := books_begin s c
  have hnew : (s.begin c).operations[s.operations.length]? = some c.operation := by
    rw [hset]
    exact List.getElem?_concat_length
  obtain ⟨o, hone, hcustody⟩ := h.custody
  cases ho : o.isTransition with
  | true =>
    obtain ⟨i, hi, honly⟩ := sole_of_transitions (s := s) (o := o) (by simp [hone, ho])
    refine .before i s.operations.length rfl ?_ (hbooks ▸ hcustody.placed) fun k o₁ hk hki => ?_
    · rw [hset, List.getElem?_append_left (List.getElem?_eq_some_iff.1 hi).1]
      exact hi
    · rw [hset] at hk
      rcases place_of_append hk with ⟨rfl, rfl⟩ | hold
      · exact ⟨apart_of_call c, fun _ => rfl⟩
      · have hrest : o₁.isTransition = false :=
          Bool.eq_false_iff.2 fun ho₁ => hki (honly k o₁ hold ho₁)
        exact ⟨apart_of_rest hrest, fun ho₁ => absurd (honly k o₁ hold ho₁) hki⟩
  | false =>
    have hnone : s.transitions = [] := by simp [hone, ho]
    have hfree : (s.begin c).books.dispatcher = (s.begin c).books.held := by
      rw [hbooks]
      exact (h.rest hnone).1
    refine .before s.operations.length s.operations.length rfl hnew
      ((placed_of_apart (apart_of_call c)).2 hfree) fun k o₁ hk hki => ?_
    rw [hset] at hk
    rcases place_of_append hk with ⟨rfl, -⟩ | hold
    · exact absurd rfl hki
    · have hrest : o₁.isTransition = false := isTransition_of_rest hnone hold
      exact ⟨apart_of_rest hrest, fun ho₁ => by rw [hrest] at ho₁; cases ho₁⟩

theorem undoubled_of_losses (haccounted : Accounted past s.operations s.books)
    (hrest : s.transitions = [])
    (hpast : ∀ loss ∈ past, ∃ c d, loss = .unheeded c ∧ s.clients[c]? = some d ∧
      d.token ∈ s.fired) : Undoubled s := by
  intro c d hd hheld
  have hknown : c ∈ List.range s.books.opened := by
    rw [opened_books]
    exact List.mem_range.2 (List.getElem?_eq_some_iff.1 hd).1
  have hplace := haccounted.once.mem_iff.2 hknown
  rw [fostered_of_rest hrest, disconnected_books] at hplace
  simp only [List.append_nil, List.mem_append] at hplace
  rcases hplace with (hreplaced | hdisconnected) | hplace
  · obtain ⟨loss, hloss, hc⟩ := List.mem_filterMap.1 hreplaced
    obtain ⟨_, _, rfl, -, -⟩ := hpast loss hloss
    cases hc
  · refine ⟨hdisconnected, ?_⟩
    cases hflag : d.cancelled with
    | true => simp [State.isCancelled, hflag]
    | false =>
      have huntold : s.books.cancelled[c]? = some false := by simp [State.books, hd, hflag]
      rcases haccounted.told c huntold with hc | hc | ⟨loss, hloss, rfl⟩
      · exact absurd hc hheld
      · rw [fostered_of_rest hrest] at hc
        cases hc
      · obtain ⟨_, d', rfl, hd', hfired⟩ := hpast loss hloss
        obtain rfl : d = d' := Option.some.inj (hd.symm.trans hd')
        simp [State.isCancelled, hfired]
  · exact absurd (Option.mem_toList.1 hplace) hheld

theorem losses_of_undoubled (h : Undoubled s) (hrivals : Rivals past s)
    (haccounted : Accounted past s.operations s.books) :
    ∀ loss ∈ past, ∃ c d, loss = .unheeded c ∧ s.clients[c]? = some d ∧ d.token ∈ s.fired := by
  intro loss hloss
  cases loss with
  | replaced c =>
    obtain ⟨hknown, hheld⟩ := haccounted.of_replaced hloss
    rw [opened_books] at hknown
    obtain ⟨hdisconnected, -⟩ := h c _ (List.getElem?_eq_getElem hknown) hheld
    rw [← disconnected_books] at hdisconnected
    exact absurd hloss (haccounted.of_disconnected hdisconnected).1
  | unheeded c =>
    cases hrivals with
    | before _ _ hpast =>
      subst hpast
      cases hloss
    | after _ hastray =>
      obtain ⟨huntold, hdisconnected⟩ := hastray c hloss
      obtain ⟨d, hd, hflag⟩ : ∃ d, s.clients[c]? = some d ∧ d.cancelled = false := by
        simpa [State.books] using huntold
      obtain ⟨-, htold⟩ := h c d hd (haccounted.of_disconnected hdisconnected).2.1
      exact ⟨c, d, rfl, hd, by simpa [State.isCancelled, hflag] using htold⟩

/-- A transport that was never started is used, and no start or stop is called while another one is
in flight. Then one is called all the same, and no further one until both have returned, whatever
else goes on. -/
theorem undoubled_iff {bus : Bus} {fs : FileSystem} {before moves : List Move} {call : Call}
    (halone : observe (step setup) overlaps (.initial bus fs) before = [])
    (hbefore : exec setup (.initial bus fs) before = some s)
    (hmoves : ∀ m ∈ moves, ∀ c, m = .call c → c.isTransition = false)
    (hrun : exec setup s (.call call :: moves) = some s') (hrest : s'.transitions = []) :
    Undoubled s' ↔ ∀ loss ∈ observe (step setup) losses s (.call call :: moves),
      ∃ c d, loss = .unheeded c ∧ s'.clients[c]? = some d ∧ d.token ∈ s'.fired := by
  rw [exec_eq_follow] at hbefore hrun
  obtain ⟨hturn, haccounted⟩ := inTurn_of_run halone hbefore
  obtain ⟨s₁, hcalled, hlater⟩ := follow_cons.1 hrun
  obtain rfl : s.begin call = s₁ := Option.some.inj hcalled
  have hbegun := accounted_of_step haccounted (step_inv hcalled)
  obtain ⟨hrivals, haccounted'⟩ := follow_notes
    (I := fun past t => Rivals past t ∧ Accounted past t.operations t.books) losses
    (fun h hm hstep => ⟨rivals_of_step h.1 h.2 hm (step_inv hstep),
      accounted_of_step h.2 (step_inv hstep)⟩) [] ⟨rivals_of_call hturn call, hbegun⟩ hmoves hlater
  rw [observe_cons hcalled]
  exact ⟨fun h => losses_of_undoubled h hrivals haccounted', undoubled_of_losses haccounted' hrest⟩

end

/-- The first start looks at the connection, and then the second one is called. -/
def firstCalled : List Move :=
  [.call (.start 0), .resume 0 .ready]

/-- The second start waits until the first one has returned. -/
def oneThenOther : List Move :=
  let me : Address := .ofAccount "me" "s"
  [.resume 0 .ready, .resume 0 .ready, .resume 0 (.opened (some me)), .resume 0 .ready,
    .resume 0 .ready, .resume 0 .ready, .resume 1 .ready, .resume 1 .ready, .resume 1 .ready,
    .resume 1 .ready, .resume 1 (.opened (some me)), .resume 1 .ready, .resume 1 .ready,
    .resume 1 .ready]

theorem oneThenOther_undoubled : ∃ s s',
    exec plainSetup (.initial (.new channelName []) .empty) firstCalled = some s ∧
    exec plainSetup s (.call (.start 1) :: oneThenOther) = some s' ∧ Undoubled s' := by
  obtain ⟨s, s', hbefore, hrun, hrest, hlosses⟩ : ∃ s s',
      exec plainSetup (.initial (.new channelName []) .empty) firstCalled = some s ∧
      exec plainSetup s (.call (.start 1) :: oneThenOther) = some s' ∧ s'.transitions = [] ∧
      observe (step plainSetup) losses s (.call (.start 1) :: oneThenOther) = [] :=
    ⟨_, _, rfl, rfl, rfl, rfl⟩
  have halone : observe (step plainSetup) overlaps (.initial (.new channelName []) .empty)
      firstCalled = [] := by decide +kernel
  have hmoves : ∀ m ∈ oneThenOther, ∀ c, m = .call c → c.isTransition = false := by
    rintro m hm c rfl
    simp [oneThenOther] at hm
  refine ⟨s, s', hbefore, hrun, (undoubled_iff halone hbefore hmoves hrun hrest).2 ?_⟩
  rw [hlosses]
  nofun

/-- Both starts have let go of all that there was before one of them holds its client. -/
def sideBySide : List Move :=
  let me : Address := .ofAccount "me" "s"
  [.resume 0 .ready, .resume 0 .ready, .resume 1 .ready, .resume 1 .ready, .resume 1 .ready,
    .resume 0 (.opened (some me)), .resume 1 (.opened (some me)), .resume 0 .ready,
    .resume 0 .ready, .resume 0 .ready, .resume 1 .ready, .resume 1 .ready, .resume 1 .ready]

/-- The client of the first start is left over, with its dispatcher: a text that both clients report
is delivered twice. -/
theorem sideBySide_doubled : ∃ s s' s'',
    exec plainSetup (.initial (.new channelName []) .empty) firstCalled = some s ∧
    exec plainSetup s (.call (.start 1) :: sideBySide) = some s' ∧
    s'.operations = [.finished (.ok ()), .finished (.ok ())] ∧ ¬Undoubled s' ∧
    exec plainSetup s' [.emit 0 (.message (textFrom (.ofAccount "a" "s"))),
      .emit 1 (.message (textFrom (.ofAccount "a" "s"))), .take 0, .take 1,
      .prepared 0 unavailable, .prepared 1 unavailable] = some s'' ∧
    s''.bus.delivered.map (·.message.content) = ["text", "text"] := by
  refine ⟨_, _, _, rfl, rfl, rfl, fun h => ?_, rfl, rfl⟩
  obtain ⟨hdisconnected, -⟩ := h 0 _ rfl nofun
  cases hdisconnected

end ChatChannel.Native
