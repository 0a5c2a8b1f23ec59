import ChatChannel.Proofs.Native.Terminal
import Mathlib.Data.List.Count

/-!
# ChatChannel.Proofs.Native.Books

The clients that a native channel opens, seen apart from what they report: which one is held, which
dispatcher can be told to end, which ones were told, and what the clients were asked for. A move
changes these `Books` in few ways, which are said here once, together with where the operation that
makes the move is before and after it.

* `dealt_of_step`: what a move does to the books; for an operation it goes by a rule of `Deal`.
* `accounted_of_run`: however operations overlap, each client is accounted for exactly once, as
  disconnected, held, in the hands of a start, or lost to it (`losses`).
-/

namespace ChatChannel.Native

structure Books where
  /-- The client in use. -/
  held : Option Nat
  /-- The client whose dispatcher can be told to end. -/
  dispatcher : Option Nat
  /-- Whether the transport has told the dispatcher of each client to end. -/
  cancelled : List Bool
  /-- What clients were asked for so far, downloads aside. -/
  asked : List (Nat × ClientCall)
  deriving DecidableEq

namespace Books

/-- How many clients were opened. -/
def opened (b : Books) : Nat :=
  b.cancelled.length

/-- The clients that were asked to disconnect. -/
def disconnected (b : Books) : List Nat :=
  b.asked.filterMap fun x => if x.2 = .disconnect then some x.1 else none

def callsOf (b : Books) (c : Nat) : List ClientCall :=
  b.asked.filterMap fun x => if x.1 = c then some x.2 else none

def ask (b : Books) (c : Nat) (call : ClientCall) : Books :=
  { b with asked := b.asked ++ [(c, call)] }

def cancel (b : Books) (c : Nat) : Books :=
  { b with cancelled := b.cancelled.set c true }

/-- Tells the dispatcher to end that can be told. -/
def cut (b : Books) : Books :=
  match b.dispatcher with
  | none => b
  | some c => { b with dispatcher := none }.cancel c

/-- Lets go of the held client. -/
def drop (b : Books) (c : Nat) : Books :=
  { b with held := none }.ask c .disconnect

/-- Takes a new client into use. -/
def add (b : Books) (own : Option Address) : Books :=
  ({ b with cancelled := b.cancelled ++ [false] }.ask b.opened .addHandler).ask b.opened
    (if own.isSome then .connect else .pairingChannel)

/-- Gives up on a client. -/
def abandon (b : Books) (c : Nat) : Books :=
  (b.cancel c).ask c .disconnect

def hold (b : Books) (c : Nat) : Books :=
  { b with held := some c }

def guard (b : Books) (c : Nat) : Books :=
  { b with dispatcher := some c }

end Books

/-- What goes into the books of an entry of the log. -/
def Entry.asked? : Entry → Option (Nat × ClientCall)
  | .client _ (.download _) => none
  | .client c call => some (c, call)
  | _ => none

def State.books (s : State) : Books :=
  { held := s.held
    dispatcher := s.dispatcher
    cancelled := s.clients.map Client.cancelled
    asked := s.log.filterMap Entry.asked? }

/-- The client of the start that has been asked to connect, but is not held yet. -/
def StartPoint.connected? : StartPoint → Option Nat
  | .connecting c _ => some c
  | .pairing c _ => some c
  | .holdClient c => some c
  | _ => none

/-- The client of the start that is neither held nor given up yet. -/
def StartPoint.fosters? : StartPoint → Option Nat
  | .pairingChannel c => some c
  | point => point.connected?

/-- The start has only to open the session store before it has a client. -/
def StartPoint.isOpening : StartPoint → Bool
  | .makeDir _ => true
  | .opening => true
  | _ => false

/-- The client that the operation has to itself. -/
def Operation.fosters? : Operation → Option Nat
  | .start _ point => point.fosters?
  | _ => none

/-- What an operation that goes on with an answer does to the books, from where to where. -/
inductive Deal (b : Books) : Operation → Answer → Operation → Books → Prop where
  | refused {t : Nat} {text : String} :
      Deal b (.start t .check) .ready (.finished (.error (.loggedOut text))) b
  | checked {t : Nat} : Deal b (.start t .check) .ready (.start t (.release .token)) b
  | cut {t : Nat} :
      Deal b (.start t (.release .token)) .ready (.start t (.release .client)) b.cut
  | drop {t c : Nat} (hh : b.held = some c) :
      Deal b (.start t (.release .client)) .ready (.start t (.release (.disconnecting c)))
        (b.drop c)
  | noClient {t : Nat} {p : StartPoint} (hh : b.held = none) (hp : p.isOpening = true) :
      Deal b (.start t (.release .client)) .ready (.start t p) b
  | dropped {t c : Nat} {p : StartPoint} (hp : p.isOpening = true) :
      Deal b (.start t (.release (.disconnecting c))) .ready (.start t p) b
  | made {t : Nat} {dir : String} :
      Deal b (.start t (.makeDir dir)) .ready (.start t .opening) b
  | notMade {t : Nat} {dir context source : String} :
      Deal b (.start t (.makeDir dir)) .ready (.finished (.error (.external context source))) b
  | notOpened {t : Nat} {text context source : String} :
      Deal b (.start t .opening) (.failed text) (.finished (.error (.external context source))) b
  | openPaired {t : Nat} {own : Address} :
      Deal b (.start t .opening) (.opened (some own)) (.start t (.connecting b.opened false))
        (b.add (some own))
  | openNew {t : Nat} :
      Deal b (.start t .opening) (.opened none) (.start t (.pairingChannel b.opened))
        (b.add none)
  | connect {t c : Nat} :
      Deal b (.start t (.pairingChannel c)) .ready (.start t (.connecting c true))
        (b.ask c .connect)
  | goOn {t c : Nat} {p p' : StartPoint} {answer : Answer} (hp : p.connected? = some c)
      (hp' : p'.connected? = some c) (hhold : p ≠ .holdClient c) :
      Deal b (.start t p) answer (.start t p') b
  | abandon {t c : Nat} {p : StartPoint} {answer : Answer} {error : ChannelError}
      (hp : p.fosters? = some c) (hhold : p ≠ .holdClient c)
      (herror : ∀ text, error ≠ .loggedOut text) :
      Deal b (.start t p) answer (.start t (.abandoning c error)) (b.abandon c)
  | abandoned {t c : Nat} {error : ChannelError} :
      Deal b (.start t (.abandoning c error)) .ready (.finished (.error error)) b
  | hold {t c : Nat} : Deal b (.start t (.holdClient c)) .ready (.start t (.holdToken c)) (b.hold c)
  | guard {t c : Nat} : Deal b (.start t (.holdToken c)) .ready (.finished (.ok ())) (b.guard c)
  | stopChecked : Deal b (.stop .check) .ready (.stop (.release .token)) b
  | stopCut : Deal b (.stop (.release .token)) .ready (.stop (.release .client)) b.cut
  | stopDrop {c : Nat} (hh : b.held = some c) :
      Deal b (.stop (.release .client)) .ready (.stop (.release (.disconnecting c))) (b.drop c)
  | stopNoClient (hh : b.held = none) :
      Deal b (.stop (.release .client)) .ready (.finished (.ok ())) b
  | stopDropped {c : Nat} :
      Deal b (.stop (.release (.disconnecting c))) .ready (.finished (.ok ())) b
  | sending {m : OutboundMessage} {p p' : SendPoint} {answer : Answer} :
      Deal b (.send m p) answer (.send m p') b
  | sent {m : OutboundMessage} {p : SendPoint} {answer : Answer}
      {result : Except ChannelError Unit} : Deal b (.send m p) answer (.finished result) b
  | text {m : OutboundMessage} {c : Nat} {target : Address} (hh : b.held = some c) :
      Deal b (.send m .lookup) .ready (.send m (.sending target))
        (b.ask c (.sendText target m.content))

/-- The first point of the operation that a caller asks for. -/
def Call.operation : Call → Operation
  | .start t => .start t .check
  | .stop => .stop .check
  | .send m => .send m .check

/-- What a move does to operations and books. -/
inductive Dealt (s s' : State) : Move → Prop where
  | called (c : Call) (hset : s'.operations = s.operations ++ [c.operation])
      (hbooks : s'.books = s.books) : Dealt s s' (.call c)
  | dealt {i : Nat} {o o' : Operation} {answer : Answer} (hi : s.operations[i]? = some o)
      (hset : s'.operations = s.operations.set i o') (h : Deal s.books o answer o' s'.books) :
      Dealt s s' (.resume i answer)
  | quiet {m : Move} (hcall : ∀ c, m ≠ .call c) (hresume : ∀ i answer, m ≠ .resume i answer)
      (hset : s'.operations = s.operations) (hbooks : s'.books = s.books) : Dealt s s' m

/-- How a client gets lost. -/
inductive Loss where
  /-- A start has put its own client in the place of the held one. -/
  | replaced (client : Nat)
  /-- The held client was disconnected, but its dispatcher was not told to end. -/
  | unheeded (client : Nat)
  deriving DecidableEq

def Loss.client : Loss → Nat
  | .replaced c => c
  | .unheeded c => c

def Loss.replaced? : Loss → Option Nat
  | .replaced c => some c
  | .unheeded _ => none

/-- What is lost if the held client is disconnected. -/
def Books.neglected (b : Books) : List Loss :=
  (b.held.filter fun c => b.cancelled[c]? = some false).toList.map .unheeded

/-- What an operation loses when it goes on. -/
def Operation.loses (b : Books) : Operation → List Loss
  | .start _ (.holdClient _) => b.held.toList.map .replaced
  | .start _ (.release .client) => b.neglected
  | .stop (.release .client) => b.neglected
  | _ => []

def losses (s : State) : Move → List Loss
  | .resume i _ =>
    match s.operations[i]? with
    | some o => o.loses s.books
    | none => []
  | _ => []

/-- The clients that a start has to itself. -/
def fostered (operations : List Operation) : List Nat :=
  operations.filterMap Operation.fosters?

/-- After these losses, each client is in one place, and its dispatcher was told to end unless the
client is held, a start has it to itself, or it is lost. -/
structure Accounted (past : List Loss) (operations : List Operation) (b : Books) : Prop where
  once : (past.filterMap Loss.replaced? ++ b.disconnected ++ b.held.toList ++
    fostered operations).Perm (List.range b.opened)
  told : ∀ c, b.cancelled[c]? = some false →
    b.held = some c ∨ c ∈ fostered operations ∨ ∃ loss ∈ past, loss.client = c

section

variable {setup : Setup} {s s' s₁ : State} {m : Move} {i c token : Nat} {answer : Answer}
  {b b' : Books} {o o' : Operation} {past : List Loss} {operations : List Operation}

/-! ## The books of a state -/

theorem cancelled_modify {cs : List Client} {f : Client → Client}
    (hf : ∀ d, (f d).cancelled = d.cancelled) :
    (cs.modify c f).map Client.cancelled = cs.map Client.cancelled := by
  refine List.ext_getElem? fun j => ?_
  simp only [List.getElem?_map, List.getElem?_modify]
  cases cs[j]? with
  | none => rfl
  | some d => by_cases hj : c = j <;> simp [hj, hf]

theorem cancelled_cancel (cs : List Client) :
    (cs.modify c fun d => { d with cancelled := true }).map Client.cancelled =
      (cs.map Client.cancelled).set c true := by
  refine List.ext_getElem? fun j => ?_
  simp only [List.getElem?_map, List.getElem?_modify, List.getElem?_set, List.length_map]
  by_cases hj : c = j
  · subst hj
    by_cases hc : c < cs.length <;> simp [hc]
  · simp only [if_neg hj]
    cases cs[j]? <;> rfl

theorem books_onClient {f : Client → Client} (hf : ∀ d, (f d).cancelled = d.cancelled) :
    (s.onClient c f).books = s.books := by
  simp only [State.books, State.onClient, cancelled_modify hf]

theorem books_cancel :
    (s.onClient c fun d => { d with cancelled := true }).books = s.books.cancel c := by
  simp only [State.books, State.onClient, cancelled_cancel, Books.cancel]

theorem books_record {entries : List Entry} (h : entries.filterMap Entry.asked? = []) :
    (s.record entries).books = s.books := by
  simp only [State.books, State.record, List.filterMap_append, h, List.append_nil]

theorem books_asks {call : ClientCall} (h : Entry.asked? (.client c call) = some (c, call)) :
    (s.asks c call).books = s.books.ask c call := by
  simp [State.books, State.asks, State.record, List.filterMap_append, Books.ask, h]

theorem opened_books (s : State) : s.books.opened = s.clients.length :=
  List.length_map _

theorem disconnected_books (s : State) : s.books.disconnected = s.disconnects := by
  simp only [State.disconnects, State.books, Books.disconnected, List.filterMap_filterMap]
  congr 1
  funext entry
  cases entry with
  | client c call => cases call <;> rfl
  | _ => rfl

theorem operations_begin (s : State) (c : Call) :
    (s.begin c).operations = s.operations ++ [c.operation] := by
  cases c <;> rfl

theorem books_begin (s : State) (c : Call) : (s.begin c).books = s.books := by
  cases c <;> rfl

/-! ## What a move does to the books -/

theorem books_startReleased (setup : Setup) (s : State) (i token : Nat) :
    ∃ p, (s.startReleased setup i token).operations = s.operations.set i (.start token p) ∧
      (s.startReleased setup i token).books = s.books ∧ p.isOpening = true := by
  unfold State.startReleased
  dsimp only
  split
  · exact ⟨_, rfl, rfl, rfl⟩
  · refine ⟨.opening, rfl, ?_, rfl⟩
    exact books_record (s := { s with connection := .connecting }) rfl

theorem books_abandon {error : ChannelError} :
    (s.abandon i token c error).books = s.books.abandon c := by
  have hasked : ((s.onClient c fun d => { d with cancelled := true }).asks c .disconnect).books =
      (s.onClient c fun d => { d with cancelled := true }).books.ask c .disconnect :=
    books_asks rfl
  rw [books_cancel] at hasked
  exact hasked

theorem books_welcome (s : State) (i token : Nat) (own : Option Address) :
    ∃ o', (s.welcome i token own).operations = s.operations.set i o' ∧
      (s.welcome i token own).books = s.books.add own ∧
      Deal s.books (.start token .opening) (.opened own) o' (s.books.add own) := by
  let client : Client := ⟨own, false, token, false, [], .waiting⟩
  have hadded : { s with clients := s.clients ++ [client] }.books =
      { s.books with cancelled := s.books.cancelled ++ [false] } := by
    simp [State.books, client]
  have hbooks : ∀ call, Entry.asked? (.client s.clients.length call) =
      some (s.clients.length, call) →
      (({ s with clients := s.clients ++ [client] }.asks s.clients.length .addHandler).asks
        s.clients.length call).books =
      ({ s.books with cancelled := s.books.cancelled ++ [false] }.ask s.books.opened
        .addHandler).ask s.books.opened call := by
    intro call hcall
    rw [books_asks hcall, books_asks rfl, hadded, opened_books]
  cases own with
  | some own =>
    refine ⟨.start token (.connecting s.clients.length false), rfl, hbooks .connect rfl, ?_⟩
    rw [← opened_books s]
    exact .openPaired
  | none =>
    refine ⟨.start token (.pairingChannel s.clients.length), rfl, hbooks .pairingChannel rfl, ?_⟩
    rw [← opened_books s]
    exact .openNew

theorem deal_of_release (token : Nat) {point next : ReleasePoint}
    (h : ReleaseStep s point s₁ (some next)) :
    Deal s.books (.start token (.release point)) .ready (.start token (.release next)) s₁.books ∧
      Deal s.books (.stop (.release point)) .ready (.stop (.release next)) s₁.books := by
  have cut : ∀ b', b' = s.books.cut →
      Deal s.books (.start token (.release .token)) .ready (.start token (.release .client)) b' ∧
        Deal s.books (.stop (.release .token)) .ready (.stop (.release .client)) b' := by
    rintro b' rfl
    exact ⟨.cut, .stopCut⟩
  cases h with
  | noToken hd =>
    refine cut _ ?_
    have hnone : s.books.dispatcher = none := hd
    rw [Books.cut, hnone]
  | @token c hd =>
    refine cut _ ?_
    have hsome : s.books.dispatcher = some c := hd
    rw [books_cancel, Books.cut, hsome]
    rfl
  | @client c hh =>
    have hbooks : ({ s with held := none }.asks c .disconnect).books = s.books.drop c :=
      books_asks rfl
    rw [hbooks]
    exact ⟨.drop hh, .stopDrop hh⟩

theorem deal_of_startStep {point : StartPoint}
    (hi : s.operations[i]? = some (.start token point))
    (h : StartStep setup s i token point answer s') : ∃ o',
      s'.operations = s.operations.set i o' ∧
        Deal s.books (.start token point) answer o' s'.books := by
  have abandoned : ∀ c error, point.fosters? = some c → point ≠ .holdClient c →
      (∀ text, error ≠ .loggedOut text) → s' = s.abandon i token c error → ∃ o',
        s'.operations = s.operations.set i o' ∧
          Deal s.books (.start token point) answer o' s'.books := by
    rintro c error hp hhold herror rfl
    exact ⟨_, rfl, books_abandon ▸ .abandon hp hhold herror⟩
  cases h with
  | refused => exact ⟨_, rfl, .refused⟩
  | checked => exact ⟨_, rfl, .checked⟩
  | releasing h =>
    exact ⟨_, congrArg (List.set · i _) (operations_of_releaseStep h), (deal_of_release token h).1⟩
  | @released _ s₁ h =>
    obtain ⟨p, hset, hbooks, hp⟩ := books_startReleased setup s₁ i token
    rw [operations_of_releaseStep h] at hset
    refine ⟨_, hset, ?_⟩
    rw [hbooks]
    cases h with
    | noClient hh => exact .noClient hh hp
    | disconnected => exact .dropped hp
  | makeDir =>
    unfold State.makeStoreDir
    split
    · rename_i fs _
      have hbooks : ({ s with fs := fs }.openStore setup i token).books = s.books :=
        books_record (s := { s with fs := fs }) rfl
      exact ⟨_, rfl, hbooks ▸ .made⟩
    · exact ⟨_, rfl, .notMade⟩
  | @opened own =>
    obtain ⟨o', hset, hbooks, hdeal⟩ := books_welcome s i token own
    exact ⟨o', hset, hbooks ▸ hdeal⟩
  | notOpened => exact ⟨_, rfl, .notOpened⟩
  | @channel c =>
    have hbooks : (s.asks c .connect).books = s.books.ask c .connect := books_asks rfl
    exact ⟨.start token (.connecting c true), rfl, hbooks ▸ .connect⟩
  | noChannel => exact abandoned _ _ rfl (by simp) (by simp) rfl
  | connected => exact ⟨_, rfl, .goOn rfl rfl (by simp)⟩
  | notConnected => exact abandoned _ _ rfl (by simp) (by simp) rfl
  | toPair => exact ⟨_, rfl, .goOn rfl rfl (by simp)⟩
  | notToPair => exact abandoned _ _ rfl (by simp) (by simp) rfl
  | code =>
    refine ⟨_, (set_of_getElem? hi).symm, ?_⟩
    rw [books_record rfl]
    exact .goOn rfl rfl (by simp)
  | paired => exact ⟨_, rfl, .goOn rfl rfl (by simp)⟩
  | timedOut => exact abandoned _ _ rfl (by simp) (by simp) rfl
  | rejected => exact abandoned _ _ rfl (by simp) (by simp) rfl
  | closed => exact abandoned _ _ rfl (by simp) (by simp) rfl
  | late => exact abandoned _ _ rfl (by simp) (by simp) rfl
  | abandoned => exact ⟨_, rfl, .abandoned⟩
  | heldClient => exact ⟨_, rfl, .hold⟩
  | heldToken => exact ⟨_, rfl, .guard⟩

theorem deal_of_stopStep {point : StopPoint} (h : StopStep s i point answer s') : ∃ o',
    s'.operations = s.operations.set i o' ∧
      Deal s.books (.stop point) answer o' s'.books := by
  cases h with
  | checked => exact ⟨_, rfl, .stopChecked⟩
  | releasing h =>
    exact ⟨_, congrArg (List.set · i _) (operations_of_releaseStep h),
      (deal_of_release 0 h).2⟩
  | @released _ s₁ h =>
    have hoperations : s₁.operations = s.operations := operations_of_releaseStep h
    refine ⟨_, congrArg (List.set · i _) hoperations, ?_⟩
    cases h with
    | noClient hh => exact .stopNoClient hh
    | disconnected => exact .stopDropped

theorem deal_of_sendStep {message : OutboundMessage} {point : SendPoint}
    (h : SendStep s i message point answer s') : ∃ o',
      s'.operations = s.operations.set i o' ∧
        Deal s.books (.send message point) answer o' s'.books := by
  cases h with
  | @send c target hlinked =>
    have hheld : s.held = some c := (Option.filter_eq_some_iff.1 hlinked).1
    have hbooks : (s.asks c (.sendText target message.content)).books =
        s.books.ask c (.sendText target message.content) := books_asks rfl
    exact ⟨.send message (.sending target), rfl, hbooks ▸ .text hheld⟩
  | checked => exact ⟨_, rfl, .sending⟩
  | _ => exact ⟨_, rfl, .sent⟩

theorem books_dispatch (c : Nat) (own : Option Address) (e : Event) :
    (s.dispatch c own e).books = s.books := by
  cases e with
  | message message =>
    simp only [State.dispatch]
    split
    · exact books_onClient fun _ => rfl
    · rfl
  | _ => rfl

theorem asked_entriesOf (c : Nat) (draft : Draft) :
    (entriesOf c draft).filterMap Entry.asked? = [] := by
  refine List.filterMap_eq_nil_iff.2 fun e he => ?_
  rcases List.mem_append.1 he with he | he <;>
  · obtain ⟨_, -, rfl⟩ := List.mem_map.1 he
    rfl

theorem books_of_prepareStep {attempts : AttachmentKind → Attempt} {message : Message}
    (h : PrepareStep setup s c attempts message s') :
    s'.operations = s.operations ∧ s'.books = s.books := by
  have noted : ∀ (draft : Draft) stage,
      ((s.record (entriesOf c draft)).onClient c fun d => { d with stage }).books = s.books := by
    intro draft stage
    refine Eq.trans (books_onClient ?_) (books_record (asked_entriesOf c draft))
    exact fun _ => rfl
  cases h with
  | dropped => exact ⟨rfl, noted _ _⟩
  | admitted => exact ⟨rfl, noted _ _⟩
  | denied => exact ⟨rfl, noted _ _⟩

theorem dealt_of_step (h : Step setup s m s') : Dealt s s' m := by
  have quiet : (∀ c, m ≠ .call c) → (∀ i answer, m ≠ .resume i answer) →
      s'.operations = s.operations → s'.books = s.books → Dealt s s' m := .quiet
  cases h with
  | call call => exact .called call (operations_begin s call) (books_begin s call)
  | start hi h =>
    obtain ⟨o', hset, hdeal⟩ := deal_of_startStep hi h
    exact .dealt hi hset hdeal
  | stop hi h =>
    obtain ⟨o', hset, hdeal⟩ := deal_of_stopStep h
    exact .dealt hi hset hdeal
  | send hi h =>
    obtain ⟨o', hset, hdeal⟩ := deal_of_sendStep h
    exact .dealt hi hset hdeal
  | cancel token => exact quiet nofun nofun rfl rfl
  | elapse _ => exact quiet nofun nofun rfl rfl
  | emit c e =>
    refine quiet nofun nofun rfl (books_onClient fun d => ?_)
    unfold Client.receive
    split <;> rfl
  | setLinked c linked => exact quiet nofun nofun rfl (books_onClient fun _ => rfl)
  | setOwn c own => exact quiet nofun nofun rfl (books_onClient fun _ => rfl)
  | take =>
    refine quiet nofun nofun (operations_dispatch _ _ _) ((books_dispatch _ _ _).trans ?_)
    exact books_onClient fun _ => rfl
  | halt => exact quiet nofun nofun rfl (books_onClient fun _ => rfl)
  | prepared _ _ h =>
    obtain ⟨hset, hbooks⟩ := books_of_prepareStep h
    exact quiet nofun nofun hset hbooks
  | handled => exact quiet nofun nofun rfl (books_onClient fun _ => rfl)

/-! ## Each client once -/

theorem count_fostered_set (hi : operations[i]? = some o) (o' : Operation) (c : Nat) :
    (fostered (operations.set i o')).count c + o.fosters?.toList.count c =
      (fostered operations).count c + o'.fosters?.toList.count c := by
  have cons : ∀ (a : Operation) l,
      (fostered (a :: l)).count c = a.fosters?.toList.count c + (fostered l).count c := by
    intro a l
    rw [fostered, List.filterMap_cons]
    cases a.fosters? with
    | none => simp [fostered]
    | some x => simp [fostered, List.count_cons, Nat.add_comm]
  induction operations generalizing i with
  | nil => cases hi
  | cons a l ih =>
    cases i with
    | zero =>
      obtain rfl : a = o := by simpa using hi
      rw [List.set_cons_zero, cons, cons]
      omega
    | succ i =>
      have hset := ih (i := i) (by simpa using hi)
      rw [List.set_cons_succ, cons, cons]
      omega

theorem fostered_set (hi : operations[i]? = some o) (hc : c ∈ fostered operations)
    (o' : Operation) :
    c ∈ fostered (operations.set i o') ∨ o.fosters? = some c := by
  have hcount := count_fostered_set hi o' c
  have hpos := List.count_pos_iff.2 hc
  by_cases ho : o.fosters? = some c
  · exact .inr ho
  · have hnone : o.fosters?.toList.count c = 0 := by
      refine List.count_eq_zero.2 fun hmem => ho ?_
      simpa using hmem
    exact .inl (List.count_pos_iff.1 (by omega))

theorem mem_fostered_set (hi : operations[i]? = some o) (ho' : o'.fosters? = some c) :
    c ∈ fostered (operations.set i o') :=
  List.mem_filterMap.2 ⟨o', List.mem_of_getElem? (List.getElem?_set_self
    (List.getElem?_eq_some_iff.1 hi).1), ho'⟩

theorem fosters?_of_isOpening {p : StartPoint} (hp : p.isOpening = true) : p.fosters? = none := by
  cases p with
  | makeDir => rfl
  | opening => rfl
  | _ => cases hp

theorem fosters?_of_connected {p : StartPoint} (hp : p.connected? = some c) :
    p.fosters? = some c := by
  cases p with
  | pairingChannel => cases hp
  | _ => exact hp

theorem opened_cut (b : Books) : b.cut.opened = b.opened := by
  unfold Books.cut
  split
  · rfl
  · simp [Books.opened, Books.cancel]

theorem disconnected_ask (b : Books) (c : Nat) (call : ClientCall) :
    (b.ask c call).disconnected =
      b.disconnected ++ if call = .disconnect then [c] else [] := by
  simp only [Books.disconnected, Books.ask, List.filterMap_append]
  split <;> simp [*]

theorem replaced_neglected (b : Books) : b.neglected.filterMap Loss.replaced? = [] := by
  refine List.filterMap_eq_nil_iff.2 fun loss hloss => ?_
  obtain ⟨c, -, rfl⟩ := List.mem_map.1 hloss
  rfl

theorem replaced_held (b : Books) :
    (b.held.toList.map Loss.replaced).filterMap Loss.replaced? = b.held.toList := by
  cases b.held <;> rfl

theorem loses_of_fosters {p : StartPoint} (hp : p.fosters? = some c) (hhold : p ≠ .holdClient c) :
    (Operation.start token p).loses b = [] := by
  cases p with
  | holdClient => cases hp; exact absurd rfl hhold
  | pairingChannel => rfl
  | connecting => rfl
  | pairing => rfl
  | _ => cases hp

theorem disconnected_cut (b : Books) : b.cut.disconnected = b.disconnected := by
  unfold Books.cut
  split <;> rfl

theorem held_cut (b : Books) : b.cut.held = b.held := by
  unfold Books.cut
  split <;> rfl

theorem opened_add (b : Books) (own : Option Address) :
    (b.add own).opened = b.opened + 1 := by
  simp [Books.add, Books.ask, Books.opened]

theorem disconnected_add (b : Books) (own : Option Address) :
    (b.add own).disconnected = b.disconnected := by
  have hcall : (if own.isSome then ClientCall.connect else .pairingChannel) ≠ .disconnect := by
    split <;> simp
  rw [Books.add, disconnected_ask, if_neg hcall, disconnected_ask]
  simp [Books.disconnected]

/-- Where clients are, as far as the operation knows. -/
def Books.places (b : Books) (o : Operation) : List Nat :=
  b.disconnected ++ b.held.toList ++ o.fosters?.toList

/-- What an operation takes from one place it brings to another. -/
theorem moved_of_deal (hdeal : Deal b o answer o' b') :
    ((o.loses b).filterMap Loss.replaced? ++ b'.places o' ++ List.range b.opened).Perm
      (b.places o ++ List.range b'.opened) := by
  -- Most rules leave all clients where they are.
  have still : (o.loses b).filterMap Loss.replaced? = [] → b'.disconnected = b.disconnected →
      b'.held = b.held → b'.opened = b.opened → o'.fosters? = o.fosters? →
      ((o.loses b).filterMap Loss.replaced? ++ b'.places o' ++ List.range b.opened).Perm
        (b.places o ++ List.range b'.opened) := by
    intro hloses hdisconnected hheld hopened hfosters
    rw [hloses, hopened, Books.places, hdisconnected, hheld, hfosters]
    exact .refl _
  have dropped : ∀ {f : Operation} {c}, b.held = some c → o.fosters? = none → f.fosters? = none →
      (b.neglected.filterMap Loss.replaced? ++ (b.drop c).places f ++ List.range b.opened).Perm
        (b.places o ++ List.range (b.drop c).opened) := by
    intro f c hh ho hf
    have hdropped : (b.drop c).disconnected = b.disconnected ++ [c] := disconnected_ask _ _ _
    have hnone : (b.drop c).held = none := rfl
    have hopened : (b.drop c).opened = b.opened := rfl
    rw [replaced_neglected, Books.places, Books.places, hdropped, hnone, hopened, hh, ho, hf]
    simp
  have opened : ∀ {own}, o'.fosters? = some b.opened → o.fosters? = none →
      ((b.add own).places o' ++ List.range b.opened).Perm
        (b.places o ++ List.range (b.add own).opened) := by
    intro own ho' ho
    have hheld : (b.add own).held = b.held := rfl
    rw [Books.places, Books.places, disconnected_add, hheld, ho', ho, opened_add,
      List.range_succ]
    refine List.perm_iff_count.2 fun x => ?_
    simp only [List.count_append, Option.toList_none, Option.toList_some, List.count_nil]
    omega
  cases hdeal with
  | refused => exact still rfl rfl rfl rfl rfl
  | checked => exact still rfl rfl rfl rfl rfl
  | cut => exact still rfl (disconnected_cut b) (held_cut b) (opened_cut b) rfl
  | drop hh => exact dropped hh rfl rfl
  | noClient hh hp => exact still (replaced_neglected b) rfl rfl rfl (fosters?_of_isOpening hp)
  | dropped hp => exact still rfl rfl rfl rfl (fosters?_of_isOpening hp)
  | made => exact still rfl rfl rfl rfl rfl
  | notMade => exact still rfl rfl rfl rfl rfl
  | notOpened => exact still rfl rfl rfl rfl rfl
  | openPaired => exact opened rfl rfl
  | openNew => exact opened rfl rfl
  | connect => exact still rfl ((disconnected_ask _ _ _).trans (List.append_nil _)) rfl rfl rfl
  | goOn hp hp' hhold =>
    have hfosters := fosters?_of_connected hp
    refine still ?_ rfl rfl rfl ((fosters?_of_connected hp').trans hfosters.symm)
    rw [loses_of_fosters hfosters hhold]
    rfl
  | @abandon t c p _ _ hp hhold =>
    have hopened : (b.abandon c).opened = b.opened := List.length_set
    have habandoned : (b.abandon c).disconnected = b.disconnected ++ [c] := disconnected_ask _ _ _
    have hheld : (b.abandon c).held = b.held := rfl
    have ho : (Operation.start t p).fosters? = some c := hp
    rw [loses_of_fosters hp hhold, Books.places, Books.places, habandoned, hopened, hheld, ho]
    refine List.perm_iff_count.2 fun x => ?_
    simp only [List.count_append, Operation.fosters?, StartPoint.fosters?, StartPoint.connected?,
      Option.toList_none, Option.toList_some, List.filterMap_nil, List.count_nil]
    omega
  | abandoned => exact still rfl rfl rfl rfl rfl
  | @hold t c =>
    have hold : ((Operation.start t (.holdClient c)).loses b).filterMap Loss.replaced? =
        b.held.toList := replaced_held b
    have hheld : (b.hold c).held = some c := rfl
    have hopened : (b.hold c).opened = b.opened := rfl
    have hsame : (b.hold c).disconnected = b.disconnected := rfl
    rw [hold, Books.places, Books.places, hsame, hheld, hopened]
    refine List.perm_iff_count.2 fun x => ?_
    simp only [List.count_append, Operation.fosters?, StartPoint.fosters?, StartPoint.connected?,
      Option.toList_none, Option.toList_some, List.count_nil]
    omega
  | guard => exact still rfl rfl rfl rfl rfl
  | stopChecked => exact still rfl rfl rfl rfl rfl
  | stopCut => exact still rfl (disconnected_cut b) (held_cut b) (opened_cut b) rfl
  | stopDrop hh => exact dropped hh rfl rfl
  | stopNoClient => exact still (replaced_neglected b) rfl rfl rfl rfl
  | stopDropped => exact still rfl rfl rfl rfl rfl
  | sending => exact still rfl rfl rfl rfl rfl
  | sent => exact still rfl rfl rfl rfl rfl
  | text => exact still rfl ((disconnected_ask _ _ _).trans (List.append_nil _)) rfl rfl rfl

theorem once_of_deal (hi : operations[i]? = some o)
    (h : (past.filterMap Loss.replaced? ++ b.disconnected ++ b.held.toList ++
      fostered operations).Perm (List.range b.opened)) (hdeal : Deal b o answer o' b') :
    ((past ++ o.loses b).filterMap Loss.replaced? ++ b'.disconnected ++ b'.held.toList ++
      fostered (operations.set i o')).Perm (List.range b'.opened) := by
  have hmoved := moved_of_deal hdeal
  rw [List.perm_iff_count] at h hmoved ⊢
  intro x
  have hx := h x
  have hmovedx := hmoved x
  have hset := count_fostered_set hi o' x
  simp only [Books.places, List.filterMap_append, List.count_append] at hx hmovedx ⊢
  omega

/-! ## Whose dispatcher was told -/

theorem untold_before_cancel {x : Nat} (h : (b.cancel x).cancelled[c]? = some false) :
    b.cancelled[c]? = some false ∧ c ≠ x := by
  simp only [Books.cancel, List.getElem?_set] at h
  split at h
  · split at h <;> cases h
  · rename_i hx
    exact ⟨h, Ne.symm hx⟩

theorem untold_before_cut (h : b.cut.cancelled[c]? = some false) :
    b.cancelled[c]? = some false ∧ b.dispatcher ≠ some c := by
  unfold Books.cut at h
  split at h
  · rename_i hnone
    exact ⟨h, by simp [hnone]⟩
  · rename_i x hsome
    obtain ⟨hbefore, hx⟩ := untold_before_cancel h
    exact ⟨hbefore, by simp [hsome, Ne.symm hx]⟩

/-- Dispatchers are never told to go on again; the one of a new client was not told yet. -/
theorem untold_before_deal (hdeal : Deal b o answer o' b') (h : b'.cancelled[c]? = some false) :
    b.cancelled[c]? = some false ∨ o'.fosters? = some c := by
  have opened : ∀ own, (b.add own).cancelled[c]? = some false →
      b.cancelled[c]? = some false ∨ b.opened = c := by
    intro own h
    have hadd : (b.add own).cancelled = b.cancelled ++ [false] := rfl
    rw [hadd, List.getElem?_append] at h
    split at h
    · exact .inl h
    · rename_i hlt
      obtain ⟨hlast, -⟩ := List.getElem?_eq_some_iff.1 h
      simp only [List.length_singleton] at hlast
      exact .inr (by simp only [Books.opened]; omega)
  cases hdeal with
  | cut => exact .inl (untold_before_cut h).1
  | stopCut => exact .inl (untold_before_cut h).1
  | openPaired => exact (opened _ h).imp id (congrArg some)
  | openNew => exact (opened _ h).imp id (congrArg some)
  | abandon => exact .inl (untold_before_cancel (b := b) h).1
  | _ => exact .inl h

theorem held_after_deal (hdeal : Deal b o answer o' b') (hheld : b.held = some c)
    (huntold : b.cancelled[c]? = some false) :
    b'.held = some c ∨ ∃ loss ∈ o.loses b, loss.client = c := by
  have neglected : .unheeded c ∈ b.neglected := by simp [Books.neglected, hheld, huntold]
  cases hdeal with
  | cut => exact .inl ((held_cut b).trans hheld)
  | stopCut => exact .inl ((held_cut b).trans hheld)
  | drop => exact .inr ⟨_, neglected, rfl⟩
  | stopDrop => exact .inr ⟨_, neglected, rfl⟩
  | hold => exact .inr ⟨.replaced c, by simp [Operation.loses, hheld], rfl⟩
  | _ => exact .inl hheld

theorem fostered_after_deal (hdeal : Deal b o answer o' b') (ho : o.fosters? = some c) :
    o'.fosters? = some c ∨ b'.held = some c ∨ b'.cancelled[c]? ≠ some false := by
  cases hdeal with
  | connect => exact .inl ho
  | goOn hp hp' => exact .inl ((fosters?_of_connected hp').trans
      ((fosters?_of_connected hp).symm.trans ho))
  | abandon hp =>
    obtain rfl := Option.some.inj (hp.symm.trans ho)
    exact .inr (.inr fun h => (untold_before_cancel (b := b) h).2 rfl)
  | hold => exact .inr (.inl ho)
  | _ => cases ho

theorem told_of_deal (hi : operations[i]? = some o) (h : Accounted past operations b)
    (hdeal : Deal b o answer o' b') (hc : b'.cancelled[c]? = some false) :
    b'.held = some c ∨ c ∈ fostered (operations.set i o') ∨
      ∃ loss ∈ past ++ o.loses b, loss.client = c := by
  rcases untold_before_deal hdeal hc with huntold | hnew
  · rcases h.told c huntold with hheld | hfostered | ⟨loss, hloss, rfl⟩
    · rcases held_after_deal hdeal hheld huntold with hheld' | ⟨loss, hloss, rfl⟩
      · exact .inl hheld'
      · exact .inr (.inr ⟨loss, List.mem_append_right _ hloss, rfl⟩)
    · rcases fostered_set hi hfostered o' with hkept | ho
      · exact .inr (.inl hkept)
      · rcases fostered_after_deal hdeal ho with ho' | hheld | htold
        · exact .inr (.inl (mem_fostered_set hi ho'))
        · exact .inl hheld
        · exact absurd hc htold
    · exact .inr (.inr ⟨loss, List.mem_append_left _ hloss, rfl⟩)
  · exact .inr (.inl (mem_fostered_set hi hnew))

/-! ## The whole run -/

theorem fostered_call (c : Call) :
    fostered (operations ++ [c.operation]) = fostered operations := by
  rw [fostered, List.filterMap_append]
  cases c <;> simp [fostered, Call.operation, Operation.fosters?, StartPoint.fosters?,
    StartPoint.connected?]

theorem Accounted.congr {operations' : List Operation} (h : Accounted past operations b)
    (hfostered : fostered operations' = fostered operations) : Accounted past operations' b :=
  ⟨hfostered ▸ h.once, hfostered ▸ h.told⟩

theorem accounted_of_step (h : Accounted past s.operations s.books) (hs : Step setup s m s') :
    Accounted (past ++ losses s m) s'.operations s'.books := by
  cases dealt_of_step hs with
  | called c hset hbooks =>
    have hnone : losses s (.call c) = [] := rfl
    rw [hbooks, hset, hnone, List.append_nil]
    exact h.congr (fostered_call c)
  | @dealt i o o' answer hi hset hdeal =>
    have hlosses : losses s (.resume i answer) = o.loses s.books := by simp only [losses, hi]
    rw [hset, hlosses]
    exact ⟨once_of_deal hi h.once hdeal, fun c hc => told_of_deal hi h hdeal hc⟩
  | quiet _ hresume hset hbooks =>
    have hnone : losses s m = [] := by
      cases m with
      | resume i answer => exact absurd rfl (hresume i answer)
      | _ => rfl
    rw [hset, hbooks, hnone, List.append_nil]
    exact h

/-- However operations overlap, what is lost is all that is missing. -/
theorem accounted_of_run {moves : List Move} (h : Accounted past s.operations s.books)
    (hrun : follow (step setup) s moves = some s') :
    Accounted (past ++ observe (step setup) losses s moves) s'.operations s'.books :=
  follow_notes (I := fun past t => Accounted past t.operations t.books) (Q := fun _ => True) losses
    (fun h _ hstep => accounted_of_step h (step_inv hstep)) past h (fun _ _ => trivial) hrun

theorem accounted_initial (bus : Bus) (fs : FileSystem) :
    Accounted [] (State.initial bus fs).operations (State.initial bus fs).books :=
  ⟨.refl _, by intro c hc; cases hc⟩

end

end ChatChannel.Native
