import ChatChannel.Proofs.Native.Rivals

/-!
# ChatChannel.Proofs.Native.Pairing

How a start pairs a client that has no account yet. It reads from the pairing channel, shows the
codes that come in, and ends with the first thing that is no code, or when its time is over. A
`Feed` says what comes in through the channel, and when; `stepFed` lets a start read only that.

* `paired_of_step`: what a start has taken from the feed, and what it has come to.
* `Decided.spec`: this is what the feed says, as far as it comes in before the deadline.
* `Paired.goes_on`: the start can go on, or has to wait.
* `pairing_outcome`: so codes and result are those of the feed, and a start that fails has given up
  its client.
-/

namespace ChatChannel.Native

/-- What comes in through a pairing channel, in order, and when; `none` is the end of the
channel. -/
abbrev Feed := List (Nat × Option PairingEvent)

/-- The answer for a start that reads this from its pairing channel. -/
def answerTo : Option PairingEvent → Answer
  | some e => .pairing e
  | none => .closed

/-- What is left of a feed once a start has got its answer. It gets what has come in first, or hears
that its time is over, but not while something is left that came in before. -/
def Feed.after? (feed : Feed) (now : Nat) (answer : Answer) : Option Feed :=
  if answer = .expired then if feed.head?.all fun x => now ≤ x.1 then some feed else none
  else
    match feed with
    | [] => none
    | (time, signal) :: rest => if time ≤ now ∧ answer = answerTo signal then some rest else none

/-- The answer that start `i` gets from its pairing channel, or from the clock, with a move. -/
def pairingAnswer? (i : Nat) (s : State) : Move → Option Answer
  | .resume j answer =>
    match s.operations[i]? with
    | some (.start _ (.pairing _ _)) => if j = i then some answer else none
    | _ => none
  | _ => none

/-- What a move does while start `i` reads from this feed. -/
def stepFed (setup : Setup) (i : Nat) (x : State × Feed) (m : Move) : Option (State × Feed) :=
  match pairingAnswer? i x.1 m with
  | some answer => (x.2.after? x.1.now answer).bind fun rest => (step setup x.1 m).map (·, rest)
  | none => (step setup x.1 m).map (·, x.2)

/-! ## What a feed says -/

def codeOf? : Option PairingEvent → Option String
  | some (.code text) => some text
  | _ => none

/-- What comes in before the deadline. -/
def Feed.before (feed : Feed) (deadline : Nat) : List (Option PairingEvent) :=
  (feed.takeWhile fun x => x.1 < deadline).map Prod.snd

/-- The codes up to the first thing that is no code. -/
def codesOf (signals : List (Option PairingEvent)) : List String :=
  (signals.takeWhile fun x => (codeOf? x).isSome).filterMap codeOf?

/-- The first thing that is no code. -/
def verdictOf? (signals : List (Option PairingEvent)) : Option (Option PairingEvent) :=
  signals.find? fun x => (codeOf? x).isNone

/-- What comes of a pairing. -/
def outcome : Option (Option PairingEvent) → Except ChannelError Unit
  | some (some .success) => .ok ()
  | some (some (.error reason)) => .error (.connectivity ("pairing failed: " ++ reason))
  | some none => .error (.connectivity "pairing channel closed before completion")
  | _ => .error (.timeout "whatsapp pairing")

/-- The moment at which a pairing that begins now takes too long. -/
def State.pairingDeadline (setup : Setup) (s : State) : Nat :=
  s.now + setup.pairingTimeout.millis

def Entry.code? : Entry → Option String
  | .showCode text => some text
  | _ => none

/-- The codes that start `i` shows with a move, if the move is its own. -/
def shownBy (setup : Setup) (i : Nat) (s : State) : Move → List (List String) :=
  ownTurn setup i (fun _ s' => (s'.log.drop s.log.length).filterMap Entry.code?) s

/-- What a start that pairs its client shows and returns, as its feed has it. -/
structure PairedBy (feed : Feed) (deadline : Nat) (codes : List String)
    (result : Except ChannelError Unit) : Prop where
  codes : codes = codesOf (feed.before deadline)
  ok_iff : result = .ok () ↔ verdictOf? (feed.before deadline) = some (some .success)
  timeout_iff : result = .error (.timeout "whatsapp pairing") ↔
    verdictOf? (feed.before deadline) = none ∨
      verdictOf? (feed.before deadline) = some (some .timeout)
  failed : ∀ reason, verdictOf? (feed.before deadline) = some (some (.error reason)) →
    result = .error (.connectivity ("pairing failed: " ++ reason))
  closed : verdictOf? (feed.before deadline) = some none →
    result = .error (.connectivity "pairing channel closed before completion")

/-- The client was disconnected once, its dispatcher was told to end, and it is not held. -/
structure Discarded (c : Nat) (s : State) : Prop where
  once : s.disconnects.count c = 1
  told : ∃ d, s.clients[c]? = some d ∧ d.cancelled = true
  free : s.held ≠ some c

/-! ## How far a start is -/

/-- A start has taken this from its feed up to the deadline, all of it codes. -/
structure Took (deadline : Nat) (taken : Feed) (codes : List String) : Prop where
  codes : taken.map (fun x => codeOf? x.2) = codes.map some
  inTime : ∀ x ∈ taken, x.1 ≤ deadline

/-- A start has come to a result, and has shown these codes before. -/
inductive Decided (feed : Feed) (deadline : Nat) (codes : List String)
    (result : Except ChannelError Unit) : Prop where
  | verdict {taken rest : Feed} {time : Nat} {signal : Option PairingEvent}
      (hfeed : feed = taken ++ (time, signal) :: rest) (htaken : Took deadline taken codes)
      (htime : time ≤ deadline) (hsignal : codeOf? signal = none)
      (hresult : result = outcome (some signal)) : Decided feed deadline codes result
  | expired {taken rest : Feed} (hfeed : feed = taken ++ rest) (htaken : Took deadline taken codes)
      (hnothing : ∀ x ∈ rest.head?, deadline ≤ x.1) (hresult : result = outcome none) :
      Decided feed deadline codes result

/-- Where a start is that has come to a result, and how many moves it needs yet. -/
inductive Aftermath (token c : Nat) : Except ChannelError Unit → Nat → Operation → Prop where
  | holdClient : Aftermath token c (.ok ()) 2 (.start token (.holdClient c))
  | holdToken : Aftermath token c (.ok ()) 1 (.start token (.holdToken c))
  | abandoning {error : ChannelError} :
      Aftermath token c (.error error) 1 (.start token (.abandoning c error))
  | finished {result : Except ChannelError Unit} : Aftermath token c result 0 (.finished result)

/-- The client was disconnected, and its dispatcher was told to end. -/
structure GivenUp (c : Nat) (s : State) : Prop where
  disconnected : c ∈ s.books.disconnected
  told : s.books.cancelled[c]? = some true

/-- How far start `i` is with its feed after moves that have shown these codes. -/
inductive Paired (feed : Feed) (i token c deadline : Nat) (past : List (List String)) :
    State × Feed → Prop where
  | waiting {s : State} {taken rest : Feed} (hfeed : feed = taken ++ rest)
      (htaken : Took deadline taken past.flatten) (hcount : past.length = taken.length)
      (hi : s.operations[i]? = some (.start token (.pairing c deadline)))
      (hnow : s.now ≤ deadline) : Paired feed i token c deadline past (s, rest)
  | decided {s : State} {rest : Feed} {result : Except ChannelError Unit} {left : Nat}
      {o : Operation} (hdecided : Decided feed deadline past.flatten result)
      (hleft : Aftermath token c result left o) (hi : s.operations[i]? = some o)
      (hcount : past.length + left ≤ feed.length + 2)
      (hgone : ∀ error, result = .error error → GivenUp c s) :
      Paired feed i token c deadline past (s, rest)

section

variable {setup : Setup} {s s' s₁ : State} {m : Move} {i token c deadline now : Nat}
  {answer : Answer} {feed taken rest rest' : Feed} {codes : List String}
  {result : Except ChannelError Unit} {signal : Option PairingEvent} {past : List (List String)}
  {losses₁ : List Loss}

/-! ## The feed -/

theorem after?_answerTo (signal : Option PairingEvent)
    (h : feed.after? now (answerTo signal) = some rest) :
    ∃ time, feed = (time, signal) :: rest ∧ time ≤ now := by
  have hsignal : answerTo signal ≠ .expired := by cases signal <;> simp [answerTo]
  rw [Feed.after?.eq_def, if_neg hsignal] at h
  cases feed with
  | nil => cases h
  | cons x rest₁ =>
    obtain ⟨time, signal₁⟩ := x
    obtain ⟨⟨htime, hanswer⟩, hrest⟩ := Option.ite_none_right_eq_some.1 h
    obtain rfl : signal = signal₁ := by
      cases signal <;> cases signal₁ <;> simp_all [answerTo]
    obtain rfl := Option.some.inj hrest
    exact ⟨time, rfl, htime⟩

theorem after?_expired (h : feed.after? now .expired = some rest) :
    rest = feed ∧ ∀ x ∈ feed.head?, now ≤ x.1 := by
  rw [Feed.after?.eq_def, if_pos rfl] at h
  obtain ⟨hnothing, hrest⟩ := Option.ite_none_right_eq_some.1 h
  refine ⟨(Option.some.inj hrest).symm, fun x hx => ?_⟩
  rw [Option.mem_def.1 hx] at hnothing
  simpa using hnothing

theorem stepFed_inv (h : stepFed setup i (s, feed) m = some (s', rest)) :
    step setup s m = some s' ∧
      ((pairingAnswer? i s m = none ∧ rest = feed) ∨
        ∃ answer, pairingAnswer? i s m = some answer ∧ feed.after? s.now answer = some rest) := by
  unfold stepFed at h
  split at h
  · rename_i answer hanswer
    obtain ⟨rest₁, hrest, hstep⟩ := Option.bind_eq_some_iff.1 h
    obtain ⟨s₁, hs₁, heq⟩ := Option.map_eq_some_iff.1 hstep
    cases heq
    exact ⟨hs₁, .inr ⟨answer, hanswer, hrest⟩⟩
  · rename_i hanswer
    obtain ⟨s₁, hs₁, heq⟩ := Option.map_eq_some_iff.1 h
    cases heq
    exact ⟨hs₁, .inl ⟨hanswer, rfl⟩⟩

theorem Took.append (h : Took deadline taken codes) {time : Nat} {text : String}
    (htime : time ≤ deadline) :
    Took deadline (taken ++ [(time, some (.code text))]) (codes ++ [text]) := by
  refine ⟨?_, fun x hx => ?_⟩
  · rw [List.map_append, h.codes, List.map_append]
    rfl
  · rcases List.mem_append.1 hx with hx | hx
    · exact h.inTime x hx
    · obtain rfl := List.mem_singleton.1 hx
      exact htime

theorem Took.isSome (h : Took deadline taken codes) {x : Nat × Option PairingEvent}
    (hx : x ∈ taken) : (codeOf? x.2).isSome = true := by
  have hmem : codeOf? x.2 ∈ codes.map some := h.codes ▸ List.mem_map_of_mem hx
  obtain ⟨text, -, htext⟩ := List.mem_map.1 hmem
  rw [← htext]
  rfl

theorem verdictOf?_codes {signals : List (Option PairingEvent)}
    (h : ∀ x ∈ signals, (codeOf? x).isSome = true) : verdictOf? signals = none :=
  List.find?_eq_none.2 fun x hx => by simp [Option.isSome_iff_ne_none.1 (h x hx)]

/-- If something is taken at the deadline, there is no verdict before it. -/
theorem Took.verdict_none (h : Took deadline taken codes) {x : Nat × Option PairingEvent}
    (hx : x ∈ taken) (htie : x.1 = deadline) (rest : Feed) :
    verdictOf? (Feed.before (taken ++ rest) deadline) = none := by
  have hshort : (taken.takeWhile fun x => decide (x.1 < deadline)).length ≠ taken.length := by
    intro hlength
    have hall : taken.takeWhile (fun x => decide (x.1 < deadline)) = taken :=
      (List.takeWhile_prefix _).eq_of_length hlength
    rw [← hall] at hx
    have hbefore := List.mem_takeWhile_imp hx
    simp [htie] at hbefore
  refine verdictOf?_codes fun signal hsignal => ?_
  rw [Feed.before, List.takeWhile_append, if_neg hshort] at hsignal
  obtain ⟨y, hy, rfl⟩ := List.mem_map.1 hsignal
  exact h.isSome ((List.takeWhile_prefix _).subset hy)

theorem Took.before (h : Took deadline taken codes) (hall : ∀ x ∈ taken, x.1 < deadline)
    (rest : Feed) :
    codesOf (Feed.before (taken ++ rest) deadline) = codes ++ codesOf (rest.before deadline) ∧
      verdictOf? (Feed.before (taken ++ rest) deadline) = verdictOf? (rest.before deadline) := by
  have hcodes : ∀ x ∈ taken.map Prod.snd, (codeOf? x).isSome = true := by
    intro x hx
    obtain ⟨y, hy, rfl⟩ := List.mem_map.1 hx
    exact h.isSome hy
  have hsplit : Feed.before (taken ++ rest) deadline =
      taken.map Prod.snd ++ rest.before deadline := by
    rw [Feed.before, List.takeWhile_append_of_pos (by simpa using hall), List.map_append]
    rfl
  have htexts : (taken.map Prod.snd).filterMap codeOf? = codes := by
    have hmap : (taken.map Prod.snd).filterMap codeOf? =
        (taken.map fun x => codeOf? x.2).filterMap id := by
      simp [List.filterMap_map]
    rw [hmap, h.codes]
    simp
  rw [hsplit]
  constructor
  · rw [codesOf, List.takeWhile_append_of_pos hcodes, List.filterMap_append, htexts]
    rfl
  · rw [verdictOf?, List.find?_append]
    have hnone := verdictOf?_codes hcodes
    rw [verdictOf?] at hnone
    rw [hnone]
    rfl

theorem before_eq_nil (h : ∀ x ∈ feed.head?, deadline ≤ x.1) : feed.before deadline = [] := by
  cases feed with
  | nil => rfl
  | cons x rest =>
    have hx : ¬x.1 < deadline := Nat.not_lt.2 (h x rfl)
    simp [Feed.before, hx]

/-- A start comes to what its feed says, as far as it comes in before the deadline. -/
theorem Decided.spec (h : Decided feed deadline codes result)
    (hinstant : verdictOf? (feed.before deadline) = none → ∀ x ∈ feed, x.1 ≠ deadline) :
    codes = codesOf (feed.before deadline) ∧
      result = outcome (verdictOf? (feed.before deadline)) := by
  have early : ∀ {taken rest : Feed}, feed = taken ++ rest → Took deadline taken codes →
      ∀ x ∈ taken, x.1 < deadline := by
    rintro taken rest rfl htaken x hx
    refine Nat.lt_of_le_of_ne (htaken.inTime x hx) fun htie => ?_
    exact hinstant (htaken.verdict_none hx htie rest) x (List.mem_append_left _ hx) htie
  cases h with
  | @verdict taken rest time signal hfeed htaken htime hsignal hresult =>
    obtain ⟨hcodes, hverdict⟩ := htaken.before (early hfeed htaken) ((time, signal) :: rest)
    rw [← hfeed] at hcodes hverdict
    have hbefore : time < deadline := by
      refine Nat.lt_of_le_of_ne htime fun htie => ?_
      have hnil : Feed.before ((time, signal) :: rest) deadline = [] :=
        before_eq_nil (by simp [htie])
      rw [hnil] at hverdict
      exact hinstant hverdict (time, signal) (by simp [hfeed]) htie
    have hsignals : Feed.before ((time, signal) :: rest) deadline =
        signal :: rest.before deadline := by
      simp [Feed.before, hbefore]
    rw [hcodes, hverdict, hresult, hsignals]
    simp [codesOf, verdictOf?, hsignal]
  | @expired taken rest hfeed htaken hnothing hresult =>
    obtain ⟨hcodes, hverdict⟩ := htaken.before (early hfeed htaken) rest
    rw [← hfeed, before_eq_nil hnothing] at hcodes hverdict
    rw [hcodes, hverdict, hresult]
    simp [codesOf, verdictOf?]

/-! ## A client that is given up -/

theorem given_up_of_step (haccounted : Accounted losses₁ s.operations s.books)
    (hs : Step setup s m s') (h : GivenUp c s) : GivenUp c s' := by
  have haccounted' := accounted_of_step haccounted hs
  cases dealt_of_step hs with
  | called _ _ hbooks => exact ⟨hbooks ▸ h.disconnected, hbooks ▸ h.told⟩
  | quiet _ _ _ hbooks => exact ⟨hbooks ▸ h.disconnected, hbooks ▸ h.told⟩
  | @dealt j o o' answer hj hset hdeal =>
    have hdisconnected : c ∈ s'.books.disconnected := disconnected_after_deal hdeal h.disconnected
    refine ⟨hdisconnected, ?_⟩
    have hknown : c ∈ List.range s'.books.opened := by
      refine haccounted'.once.mem_iff.1 ?_
      simp only [List.mem_append]
      exact .inl (.inl (.inr hdisconnected))
    have hlength : c < s'.books.cancelled.length := List.mem_range.1 hknown
    cases htold : s'.books.cancelled[c] with
    | true => rw [List.getElem?_eq_getElem hlength, htold]
    | false =>
      have huntold : s'.books.cancelled[c]? = some false := by
        rw [List.getElem?_eq_getElem hlength, htold]
      rcases untold_before_deal hdeal huntold with hbefore | hfosters
      · rw [h.told] at hbefore
        cases hbefore
      · refine absurd ?_ (haccounted'.of_disconnected hdisconnected).2.2
        rw [hset]
        exact mem_fostered_set hj hfosters

theorem given_up_of_abandon (haccounted : Accounted losses₁ s.operations s.books)
    (hi : s.operations[i]? = some (.start token (.pairing c deadline))) {error : ChannelError} :
    GivenUp c (s.abandon i token c error) := by
  have hfostered : c ∈ fostered s.operations :=
    List.mem_filterMap.2 ⟨_, List.mem_of_getElem? hi, rfl⟩
  have hknown : c ∈ List.range s.books.opened := by
    refine haccounted.once.mem_iff.1 ?_
    simp only [List.mem_append]
    exact .inr hfostered
  have hlength : c < s.books.cancelled.length := List.mem_range.1 hknown
  constructor
  · rw [books_abandon, Books.abandon, disconnected_ask, if_pos rfl]
    exact List.mem_append_right _ (List.mem_singleton.2 rfl)
  · rw [books_abandon]
    exact List.getElem?_set_self hlength

/-! ## Moves of the start -/

theorem shownBy_own (entries : List Entry) (hs : step setup s (.resume i answer) = some s')
    (hlog : s'.log = s.log ++ entries) :
    shownBy setup i s (.resume i answer) = [entries.filterMap Entry.code?] := by
  rw [shownBy, ownTurn_own hs, hlog, List.drop_left]

theorem pairingAnswer?_other (hm : ∀ answer, m ≠ .resume i answer) :
    pairingAnswer? i s m = none := by
  cases m with
  | resume j answer =>
    have hj : j ≠ i := by
      rintro rfl
      exact hm answer rfl
    unfold pairingAnswer?
    simp only [if_neg hj]
    split <;> rfl
  | _ => rfl

theorem pairingAnswer?_pairing (hi : s.operations[i]? = some (.start token (.pairing c deadline))) :
    pairingAnswer? i s (.resume i answer) = some answer := by
  simp [pairingAnswer?, hi]

theorem now_of_startStep {point : StartPoint} (hs : StartStep setup s i token point answer s') :
    s'.now = s.now := by
  have released : ∀ {point : ReleasePoint} {next : Option ReleasePoint} {s₁ : State},
      ReleaseStep s point s₁ next → s₁.now = s.now := by
    intro point next s₁ hs
    cases hs <;> rfl
  cases hs with
  | @releasing _ _ s₁ hs =>
    have hsame : s₁.now = s.now := released hs
    exact hsame
  | released hs =>
    refine Eq.trans ?_ (released hs)
    unfold State.startReleased
    dsimp only
    split <;> rfl
  | makeDir =>
    unfold State.makeStoreDir
    split <;> rfl
  | opened =>
    unfold State.welcome
    dsimp only
    split <;> rfl
  | _ => rfl

/-- While a start is being paired, time does not pass its deadline. -/
theorem now_of_step (hi : s.operations[i]? = some (.start token (.pairing c deadline)))
    (hnow : s.now ≤ deadline) (hs : Step setup s m s') : s'.now ≤ deadline := by
  cases hs with
  | call call => cases call <;> exact hnow
  | start _ hs => exact now_of_startStep hs ▸ hnow
  | stop _ hs =>
    cases hs with
    | checked => exact hnow
    | releasing hs => cases hs <;> exact hnow
    | released hs => cases hs <;> exact hnow
  | send _ hs => cases hs <;> exact hnow
  | elapse helapse =>
    have hall := List.all_eq_true.1 helapse _ (List.mem_of_getElem? hi)
    exact of_decide_eq_true hall
  | @take k d e rest =>
    have hsame : ∀ t : State, (t.dispatch k d.own e).now = t.now := by
      intro t
      cases e with
      | message message =>
        simp only [State.dispatch]
        split <;> rfl
      | _ => rfl
    rw [hsame]
    exact hnow
  | prepared _ _ hs => cases hs <;> exact hnow
  | _ => exact hnow

/-! ## Step by step -/

/-- A start reads something from its feed that is no code. -/
theorem decided_of_signal (signal : Option PairingEvent)
    (htaken : Took deadline taken past.flatten)
    (hcount : past.length = taken.length) (hnow : s.now ≤ deadline)
    (hanswer : Feed.after? rest s.now (answerTo signal) = some rest')
    (hsignal : codeOf? signal = none) :
    Decided (taken ++ rest) deadline (past ++ [[]]).flatten (outcome (some signal)) ∧
      (past ++ [[]]).length + 1 ≤ (taken ++ rest).length + 1 := by
  obtain ⟨time, rfl, htime⟩ := after?_answerTo signal hanswer
  have hcodes : (past ++ [[]]).flatten = past.flatten := by simp
  refine ⟨.verdict rfl (hcodes ▸ htaken) (Nat.le_trans htime hnow) hsignal rfl, ?_⟩
  simp only [List.length_append, List.length_cons, List.length_nil, hcount]
  omega

theorem paired_of_pairing (haccounted : Accounted losses₁ s.operations s.books)
    (htaken : Took deadline taken past.flatten) (hcount : past.length = taken.length)
    (hi : s.operations[i]? = some (.start token (.pairing c deadline))) (hnow : s.now ≤ deadline)
    (hanswer : Feed.after? rest s.now answer = some rest')
    (hstep : step setup s (.resume i answer) = some s')
    (hs : StartStep setup s i token (.pairing c deadline) answer s') :
    Paired (taken ++ rest) i token c deadline (past ++ shownBy setup i s (.resume i answer))
      (s', rest') := by
  have hknown : i < s.operations.length := (List.getElem?_eq_some_iff.1 hi).1
  -- A start that gives its client up shows nothing.
  have abandoned : ∀ {error : ChannelError}, s' = s.abandon i token c error →
      Decided (taken ++ rest) deadline (past ++ [[]]).flatten (.error error) →
      (past ++ [[]]).length + 1 ≤ (taken ++ rest).length + 2 →
      Paired (taken ++ rest) i token c deadline (past ++ shownBy setup i s (.resume i answer))
        (s', rest') := by
    rintro error rfl hdecided hlength
    have hshown := shownBy_own [.client c .disconnect] hstep rfl
    rw [hshown]
    refine .decided hdecided .abandoning (List.getElem?_set_self hknown) hlength fun _ _ => ?_
    exact given_up_of_abandon haccounted hi
  cases hs with
  | @code _ _ text =>
    obtain ⟨time, rfl, htime⟩ := after?_answerTo (some (.code text)) hanswer
    have hshown := shownBy_own [.showCode text] hstep rfl
    have hcodes : (past ++ shownBy setup i s (.resume i (.pairing (.code text)))).flatten =
        past.flatten ++ [text] := by
      rw [hshown]
      simp [Entry.code?]
    have hfeed : taken ++ (time, some (.code text)) :: rest' =
        (taken ++ [(time, some (.code text))]) ++ rest' := by simp
    refine .waiting hfeed ?_ ?_ hi hnow
    · rw [hcodes]
      exact htaken.append (Nat.le_trans htime hnow)
    · rw [hshown]
      simp [hcount]
  | paired =>
    obtain ⟨hdecided, hlength⟩ :=
      decided_of_signal (some .success) htaken hcount hnow hanswer rfl
    have hshown := shownBy_own [] hstep (List.append_nil _).symm
    rw [hshown]
    refine .decided hdecided .holdClient (List.getElem?_set_self hknown) ?_ nofun
    exact Nat.succ_le_succ hlength
  | timedOut =>
    obtain ⟨hdecided, hlength⟩ :=
      decided_of_signal (some .timeout) htaken hcount hnow hanswer rfl
    exact abandoned rfl hdecided (Nat.le_succ_of_le hlength)
  | @rejected _ _ reason =>
    obtain ⟨hdecided, hlength⟩ :=
      decided_of_signal (some (.error reason)) htaken hcount hnow hanswer rfl
    exact abandoned rfl hdecided (Nat.le_succ_of_le hlength)
  | closed =>
    obtain ⟨hdecided, hlength⟩ :=
      decided_of_signal none htaken hcount hnow hanswer rfl
    exact abandoned rfl hdecided (Nat.le_succ_of_le hlength)
  | late hlate =>
    obtain ⟨rfl, hnothing⟩ := after?_expired hanswer
    have hcodes : (past ++ [[]]).flatten = past.flatten := by simp
    refine abandoned rfl (.expired rfl (hcodes ▸ htaken) (fun x hx => ?_) rfl) ?_
    · exact Nat.le_trans hlate (hnothing x hx)
    · simp only [List.length_append, List.length_cons, List.length_nil, hcount]
      omega

/-- A start that has come to a result goes on to its end. -/
theorem paired_of_aftermath (hdecided : Decided feed deadline past.flatten result) {left : Nat}
    {o : Operation} (hleft : Aftermath token c result left o) (hi : s.operations[i]? = some o)
    (hcount : past.length + left ≤ feed.length + 2)
    (hgone : ∀ error, result = .error error → GivenUp c s')
    (hstep : step setup s (.resume i answer) = some s') :
    Paired feed i token c deadline (past ++ shownBy setup i s (.resume i answer)) (s', rest) := by
  have hknown : i < s.operations.length := (List.getElem?_eq_some_iff.1 hi).1
  -- Nothing is shown any more.
  have next : ∀ {left' : Nat} {o' : Operation}, left' + 1 = left → s'.log = s.log →
      Aftermath token c result left' o' → s'.operations[i]? = some o' →
      Paired feed i token c deadline (past ++ shownBy setup i s (.resume i answer)) (s', rest) := by
    intro left' o' hone hlog hleft' hi'
    rw [shownBy_own [] hstep (by simp [hlog])]
    have hcodes : (past ++ [[]]).flatten = past.flatten := by simp
    refine .decided (hcodes ▸ hdecided) hleft' hi' ?_ hgone
    simp only [List.length_append, List.length_cons, List.length_nil]
    omega
  cases step_inv hstep with
  | start hi' hs =>
    obtain rfl := Option.some.inj (hi.symm.trans hi')
    cases hleft with
    | holdClient =>
      cases hs
      exact next rfl rfl .holdToken (List.getElem?_set_self hknown)
    | holdToken =>
      cases hs
      exact next rfl rfl .finished (List.getElem?_set_self hknown)
    | abandoning =>
      cases hs
      exact next rfl rfl .finished (List.getElem?_set_self hknown)
  | stop hi' _ =>
    obtain rfl := Option.some.inj (hi.symm.trans hi')
    cases hleft
  | send hi' _ =>
    obtain rfl := Option.some.inj (hi.symm.trans hi')
    cases hleft

theorem paired_of_step (haccounted : Accounted losses₁ s.operations s.books)
    (h : Paired feed i token c deadline past (s, rest))
    (hs : stepFed setup i (s, rest) m = some (s', rest')) :
    Paired feed i token c deadline (past ++ shownBy setup i s m) (s', rest') := by
  obtain ⟨hstep, hread⟩ := stepFed_inv hs
  have hinv : Step setup s m s' := step_inv hstep
  by_cases hown : ∃ answer, m = .resume i answer
  · obtain ⟨answer, rfl⟩ := hown
    cases h with
    | waiting hfeed htaken hcount hi hnow =>
      subst hfeed
      rcases hread with ⟨hnone, -⟩ | ⟨answer', hsome, hanswer⟩
      · rw [pairingAnswer?_pairing hi] at hnone
        cases hnone
      · rw [pairingAnswer?_pairing hi, Option.some.injEq] at hsome
        subst hsome
        cases hinv with
        | start hi' hs' =>
          cases hi.symm.trans hi'
          exact paired_of_pairing haccounted htaken hcount hi hnow hanswer hstep hs'
        | stop hi' => cases hi.symm.trans hi'
        | send hi' => cases hi.symm.trans hi'
    | decided hdecided hleft hi hcount hgone =>
      refine paired_of_aftermath hdecided hleft hi hcount (fun error herror => ?_) hstep
      exact given_up_of_step haccounted hinv (hgone error herror)
  · have hother : ∀ answer, m ≠ .resume i answer := fun answer hm => hown ⟨answer, hm⟩
    rw [shownBy, ownTurn_other hother, List.append_nil]
    cases h with
    | waiting hfeed htaken hcount hi hnow =>
      have hrest : rest' = rest := by
        rcases hread with ⟨-, hrest⟩ | ⟨answer, hsome, -⟩
        · exact hrest
        · rw [pairingAnswer?_other hother] at hsome
          cases hsome
      exact .waiting (hrest ▸ hfeed) htaken hcount (operation_of_step hi hother hinv)
        (now_of_step hi hnow hinv)
    | decided hdecided hleft hi hcount hgone =>
      refine .decided hdecided hleft (operation_of_step hi hother hinv) hcount
        fun error herror => ?_
      exact given_up_of_step haccounted hinv (hgone error herror)

theorem accounted_of_stepFed (h : ∃ losses₁, Accounted losses₁ s.operations s.books)
    (hs : stepFed setup i (s, rest) m = some (s', rest')) :
    ∃ losses₁, Accounted losses₁ s'.operations s'.books := by
  obtain ⟨losses₁, haccounted⟩ := h
  exact ⟨_, accounted_of_step haccounted (step_inv (stepFed_inv hs).1)⟩

theorem paired_of_run {moves : List Move} (h : Paired feed i token c deadline [] (s, feed))
    (haccounted : ∃ losses₁, Accounted losses₁ s.operations s.books)
    (hrun : follow (stepFed setup i) (s, feed) moves = some (s', rest)) :
    Paired feed i token c deadline
        (observe (stepFed setup i) (fun x m => shownBy setup i x.1 m) (s, feed) moves) (s', rest) ∧
      ∃ losses₁, Accounted losses₁ s'.operations s'.books := by
  refine follow_notes
    (I := fun past x => Paired feed i token c deadline past x ∧
      ∃ losses₁, Accounted losses₁ x.1.operations x.1.books)
    (Q := fun _ => True) (fun x m => shownBy setup i x.1 m) ?_ [] ⟨h, haccounted⟩
    (fun _ _ => trivial) hrun
  rintro past ⟨t, left⟩ m ⟨t', left'⟩ ⟨ht, haccounted⟩ - hstep
  have haccounted' := accounted_of_stepFed haccounted hstep
  obtain ⟨losses₁, haccounted⟩ := haccounted
  exact ⟨paired_of_step haccounted ht hstep, haccounted'⟩

/-! ## Going on -/

/-- The start can go on by itself, or with what its feed has for it. -/
def CanGoOn (setup : Setup) (i : Nat) (x : State × Feed) : Prop :=
  ∃ answer x', stepFed setup i x (.resume i answer) = some x'

theorem canGoOn_of_signal {time : Nat}
    (hi : s.operations[i]? = some (.start token (.pairing c deadline))) (htime : time ≤ s.now) :
    CanGoOn setup i (s, (time, signal) :: rest) := by
  obtain ⟨s', hstep⟩ : ∃ s', step setup s (.resume i (answerTo signal)) = some s' := by
    simp only [step, State.resume, hi]
    cases signal with
    | none => exact ⟨_, rfl⟩
    | some e => cases e <;> exact ⟨_, rfl⟩
  have hsignal : answerTo signal ≠ .expired := by cases signal <;> simp [answerTo]
  refine ⟨answerTo signal, (s', rest), ?_⟩
  simp [stepFed, pairingAnswer?_pairing hi, hstep, Feed.after?.eq_def, hsignal, htime]

theorem canGoOn_of_late (hi : s.operations[i]? = some (.start token (.pairing c deadline)))
    (hlate : deadline ≤ s.now) (hnothing : ∀ x ∈ rest.head?, s.now ≤ x.1) :
    CanGoOn setup i (s, rest) := by
  have hstep : step setup s (.resume i .expired) =
      some (s.abandon i token c (.timeout "whatsapp pairing")) := by
    simp only [step, State.resume, hi, State.resumeStart, hlate, if_true]
  have hall : (rest.head?.all fun x => decide (s.now ≤ x.1)) = true := by
    cases hhead : rest.head? with
    | none => rfl
    | some x => simpa using hnothing x hhead
  refine ⟨.expired, (s.abandon i token c (.timeout "whatsapp pairing"), rest), ?_⟩
  simp only [stepFed, pairingAnswer?_pairing hi, hstep, Feed.after?.eq_def, hall, if_true,
    Option.bind_some, Option.map_some]

theorem canGoOn_of_aftermath {left : Nat} {o : Operation}
    (hleft : Aftermath token c result (left + 1) o) (hi : s.operations[i]? = some o) :
    CanGoOn setup i (s, rest) := by
  have goes : ∀ {s'}, step setup s (.resume i .ready) = some s' →
      pairingAnswer? i s (.resume i .ready) = none → CanGoOn setup i (s, rest) := by
    intro s' hstep hnone
    refine ⟨.ready, (s', rest), ?_⟩
    simp only [stepFed, hnone, hstep, Option.map_some]
  cases hleft <;> refine goes (by simp only [step, State.resume, hi]; rfl) ?_ <;>
    simp only [pairingAnswer?, hi]

/-- As long as the start is not over it can go on, unless it has time left and nothing has come
in. -/
theorem Paired.goes_on (h : Paired feed i token c deadline past (s, rest)) :
    (∃ result, s.operations[i]? = some (.finished result)) ∨ CanGoOn setup i (s, rest) ∨
      (s.now < deadline ∧ ∀ x ∈ rest.head?, s.now < x.1) := by
  cases h with
  | waiting _ _ _ hi hnow =>
    by_cases hnothing : ∀ x ∈ rest.head?, s.now < x.1
    · by_cases hlate : deadline ≤ s.now
      · refine .inr (.inl (canGoOn_of_late hi hlate fun x hx => ?_))
        exact Nat.le_of_lt (hnothing x hx)
      · exact .inr (.inr ⟨Nat.lt_of_not_le hlate, hnothing⟩)
    · cases rest with
      | nil => exact absurd nofun hnothing
      | cons x rest =>
        obtain ⟨time, signal⟩ := x
        refine .inr (.inl (canGoOn_of_signal hi (Nat.le_of_not_lt fun hlt => hnothing ?_)))
        rintro _ ⟨⟩
        exact hlt
  | @decided _ _ result left o _ hleft hi =>
    cases left with
    | zero =>
      cases hleft
      exact .inl ⟨_, hi⟩
    | succ left => exact .inr (.inl (canGoOn_of_aftermath hleft hi))

/-! ## The whole pairing -/

theorem verdictOf?_not_code {signals : List (Option PairingEvent)}
    (h : verdictOf? signals = some signal) : codeOf? signal = none := by
  simpa using List.find?_some h

theorem pairedBy_of_decided (h : Decided feed deadline codes result)
    (hinstant : verdictOf? (feed.before deadline) = none → ∀ x ∈ feed, x.1 ≠ deadline) :
    PairedBy feed deadline codes result := by
  obtain ⟨hcodes, rfl⟩ := h.spec hinstant
  cases hverdict : verdictOf? (feed.before deadline) with
  | none => constructor <;> simp [hcodes, hverdict, outcome]
  | some signal =>
    have hsignal : codeOf? signal = none := verdictOf?_not_code hverdict
    cases signal with
    | none => constructor <;> simp [hcodes, hverdict, outcome]
    | some e =>
      cases e with
      | code text => cases hsignal
      | _ => constructor <;> simp [hcodes, hverdict, outcome]

theorem discarded_of_gone (h : GivenUp c s) (haccounted : Accounted losses₁ s.operations s.books) :
    Discarded c s := by
  refine ⟨?_, ?_, (haccounted.of_disconnected h.disconnected).2.1⟩
  · have honce := haccounted.at_most_once c
    have hpos := List.count_pos_iff.2 h.disconnected
    rw [disconnected_books] at honce hpos
    omega
  · obtain ⟨d, hd, htold⟩ : ∃ d, s.clients[c]? = some d ∧ d.cancelled = true := by
      simpa [State.books] using h.told
    exact ⟨d, hd, htold⟩

theorem paired_of_connected {s₀ : State}
    (hi : s₀.operations[i]? = some (.start token (.connecting c true)))
    (hpair : step setup s₀ (.resume i .ready) = some s) :
    Paired feed i token c (s₀.pairingDeadline setup) [] (s, feed) := by
  have hknown : i < s₀.operations.length := (List.getElem?_eq_some_iff.1 hi).1
  cases step_inv hpair with
  | start hi' hs =>
    cases hi.symm.trans hi'
    cases hs
    have hfeed : feed = [] ++ feed := rfl
    exact .waiting hfeed ⟨rfl, nofun⟩ rfl (List.getElem?_set_self hknown) (Nat.le_add_right _ _)
  | stop hi' _ => cases hi.symm.trans hi'
  | send hi' _ => cases hi.symm.trans hi'

/-- A client without an account has connected, and its start reads from the pairing channel, while
anything else goes on. When the start is over, it has shown the codes of its feed up to the first
thing that is no code, and returns what this means, as far as all this comes in before the deadline;
if it fails, its client is discarded. Until then it can go on, unless it has time left and nothing
has come in; and it needs few moves. Things that come in at the very deadline are not spoken of. -/
theorem pairing_outcome {bus : Bus} {fs : FileSystem} {before moves : List Move} {s₀ : State}
    (hbefore : exec setup (.initial bus fs) before = some s₀)
    (hi : s₀.operations[i]? = some (.start token (.connecting c true)))
    (hpair : step setup s₀ (.resume i .ready) = some s)
    (hrun : follow (stepFed setup i) (s, feed) moves = some (s', rest))
    (hinstant : verdictOf? (feed.before (s₀.pairingDeadline setup)) = none →
      ∀ x ∈ feed, x.1 ≠ s₀.pairingDeadline setup) :
    (∀ result, s'.operations[i]? = some (.finished result) →
        PairedBy feed (s₀.pairingDeadline setup)
          (observe (stepFed setup i) (fun x m => shownBy setup i x.1 m) (s, feed) moves).flatten
          result ∧
        ∀ error, result = .error error → Discarded c s') ∧
      ((∃ result, s'.operations[i]? = some (.finished result)) ∨ CanGoOn setup i (s', rest) ∨
        (s'.now < s₀.pairingDeadline setup ∧ ∀ x ∈ rest.head?, s'.now < x.1)) ∧
      (observe (stepFed setup i) (fun x m => shownBy setup i x.1 m) (s, feed) moves).length ≤
        feed.length + 2 := by
  rw [exec_eq_follow] at hbefore
  have haccounted₀ := accounted_of_run (accounted_initial bus fs) hbefore
  have haccounted := accounted_of_step haccounted₀ (step_inv hpair)
  obtain ⟨hpaired, losses₁, haccounted'⟩ :=
    paired_of_run (paired_of_connected hi hpair) ⟨_, haccounted⟩ hrun
  refine ⟨fun result hdone => ?_, hpaired.goes_on, ?_⟩
  · cases hpaired with
    | waiting _ _ _ hi' => cases hdone.symm.trans hi'
    | decided hdecided hleft hi' _ hgone =>
      cases Option.some.inj (hdone.symm.trans hi')
      cases hleft
      exact ⟨pairedBy_of_decided hdecided hinstant,
        fun error herror => discarded_of_gone (hgone error herror) haccounted'⟩
  · cases hpaired with
    | waiting hfeed _ hcount =>
      rw [hcount, hfeed, List.length_append]
      omega
    | decided _ _ _ hcount => omega

end

/-- A channel is started whose client has no account; the client connects. -/
def unpairedConnects : List Move :=
  [.call (.start 0), .resume 0 .ready, .resume 0 .ready, .resume 0 .ready, .resume 0 (.opened none),
    .resume 0 .ready]

/-- Two codes come in, and then the pairing channel is closed. -/
def closedFeed : Feed :=
  [(5, some (.code "A")), (9, some (.code "B")), (20, none)]

/-- The start reads what comes in, and gives its client up. -/
def readsAll : List Move :=
  [.elapse 5, .resume 0 (.pairing (.code "A")), .elapse 4, .resume 0 (.pairing (.code "B")),
    .elapse 11, .resume 0 .closed, .resume 0 .ready]

theorem closedFeed_discards : ∃ s₀ s s',
    exec plainSetup (.initial (.new channelName []) .empty) unpairedConnects = some s₀ ∧
      step plainSetup s₀ (.resume 0 .ready) = some s ∧
      follow (stepFed plainSetup 0) (s, closedFeed) readsAll = some (s', []) ∧
      PairedBy closedFeed (s₀.pairingDeadline plainSetup) ["A", "B"]
        (.error (.connectivity "pairing channel closed before completion")) ∧
      Discarded 0 s' := by
  obtain ⟨s₀, s, s', hbefore, hi, hpair, hrun, hdone, hshown, hdeadline⟩ : ∃ s₀ s s',
      exec plainSetup (.initial (.new channelName []) .empty) unpairedConnects = some s₀ ∧
      s₀.operations[0]? = some (.start 0 (.connecting 0 true)) ∧
      step plainSetup s₀ (.resume 0 .ready) = some s ∧
      follow (stepFed plainSetup 0) (s, closedFeed) readsAll = some (s', []) ∧
      s'.operations[0]? = some (.finished
        (.error (.connectivity "pairing channel closed before completion"))) ∧
      (observe (stepFed plainSetup 0) (fun x m => shownBy plainSetup 0 x.1 m) (s, closedFeed)
        readsAll).flatten = ["A", "B"] ∧ s₀.pairingDeadline plainSetup = 60000 :=
    ⟨_, _, _, rfl, rfl, rfl, rfl, rfl, rfl, rfl⟩
  have hverdict : verdictOf? (closedFeed.before 60000) = some none := by decide
  obtain ⟨hresult, -⟩ := pairing_outcome hbefore hi hpair hrun
    (by rw [hdeadline, hverdict]; exact nofun)
  obtain ⟨hpaired, hdiscarded⟩ := hresult _ hdone
  rw [hshown] at hpaired
  exact ⟨s₀, s, s', hbefore, hpair, hrun, hpaired, hdiscarded _ rfl⟩

end ChatChannel.Native
