import ChatChannel.Connection
import ChatChannel.Native.Intake

/-!
# ChatChannel.Native.Lifecycle

The native transport as a machine. Its moves are the calls of its operations, what the platform's
client and the clock do, and the work of the dispatchers, each of which drains the events of one
client. Operations and dispatchers give way to each other only at the points that are named here,
and any of them may move next: `step` says what a move does, and `exec` follows a run.
-/

namespace ChatChannel.Native

/-- What stays the same while a transport is used. -/
structure Setup where
  storePath : String
  pairingTimeout : Duration
  intake : Intake

/-- What a client is asked to do. -/
inductive ClientCall where
  | addHandler
  | pairingChannel
  | connect
  | disconnect
  | sendText (target : Address) (text : String)
  | download (a : Attachment)
  deriving DecidableEq

/-- What a transport has done to its surroundings. -/
inductive Entry where
  /-- It has asked for the session store; `mode` are the permissions of the directory around it. -/
  | openStore (path : String) (mode : Option Nat)
  | client (number : Nat) (call : ClientCall)
  /-- It has shown a pairing code to the operator. -/
  | showCode (text : String)
  /-- It has asked for a transcription. -/
  | transcribe (request : Voice.Request)
  deriving DecidableEq

/-- Where a dispatcher is. -/
inductive Stage where
  /-- Between two events. -/
  | waiting
  /-- Downloading and transcribing the attachments of a message. -/
  | preparing (m : Message)
  /-- The bus has the message, whose files are kept until it is done. -/
  | delivering (media : Media.Transient)
  | ended
  deriving DecidableEq

/-- A client that was opened, with its dispatcher. -/
structure Client where
  /-- The address of the paired account, if there is one. -/
  own : Option Address
  /-- The client reports to be connected. -/
  linked : Bool
  /-- The token that the caller gave to the start that opened the client. -/
  token : Nat
  /-- The dispatcher was told to end. -/
  cancelled : Bool
  /-- The events that the dispatcher has not taken yet. -/
  queue : List Event
  stage : Stage
  deriving DecidableEq

/-- Adds an event to those that a dispatcher has not taken. After its end, events are lost. -/
def Client.receive (c : Client) (e : Event) : Client :=
  if c.stage = .ended then c else { c with queue := c.queue ++ [e] }

/-- Where the release of the held client is. -/
inductive ReleasePoint where
  | token
  | client
  | disconnecting (client : Nat)
  deriving DecidableEq, Repr

/-- Where a start is. -/
inductive StartPoint where
  | check
  | release (point : ReleasePoint)
  | makeDir (dir : String)
  | opening
  | pairingChannel (client : Nat)
  | connecting (client : Nat) (forPairing : Bool)
  | pairing (client deadline : Nat)
  /-- The start has failed, and its client is being disconnected. -/
  | abandoning (client : Nat) (error : ChannelError)
  | holdClient (client : Nat)
  | holdToken (client : Nat)
  deriving DecidableEq, Repr

/-- Where a stop is. -/
inductive StopPoint where
  | check
  | release (point : ReleasePoint)
  deriving DecidableEq, Repr

/-- Where a send is. -/
inductive SendPoint where
  | check
  | lookup
  | sending (target : Address)
  deriving DecidableEq, Repr

/-- An operation, in flight or finished. -/
inductive Operation where
  | start (token : Nat) (point : StartPoint)
  | stop (point : StopPoint)
  | send (message : OutboundMessage) (point : SendPoint)
  | finished (result : Except ChannelError Unit)

/-- A transport and its surroundings. -/
structure State where
  connection : ConnectionState
  bus : Bus
  /-- The client in use. -/
  held : Option Nat
  /-- The client whose dispatcher the transport can tell to end. -/
  dispatcher : Option Nat
  clients : List Client
  /-- The tokens of callers that have fired. -/
  fired : List Nat
  operations : List Operation
  fs : FileSystem
  /-- The time, in milliseconds. -/
  now : Nat
  log : List Entry

/-- An operation that a caller can ask for. -/
inductive Call where
  | start (token : Nat)
  | stop
  | send (message : OutboundMessage)
  deriving DecidableEq, Repr

/-- What an operation in flight may be waiting for. -/
inductive Answer where
  /-- It can go on, or what it asked for was done. -/
  | ready
  | failed (text : String)
  /-- The session store is open, and this is the address of the paired account. -/
  | opened (own : Option Address)
  | pairing (e : PairingEvent)
  /-- The pairing channel was closed. -/
  | closed
  /-- The time for the pairing is over. -/
  | expired
  deriving DecidableEq, Repr

/-- What can happen next. -/
inductive Move where
  | call (c : Call)
  | resume (operation : Nat) (answer : Answer)
  /-- The token of a caller fires. -/
  | cancel (token : Nat)
  | elapse (millis : Nat)
  /-- A client reports an event. -/
  | emit (client : Nat) (e : Event)
  | setLinked (client : Nat) (linked : Bool)
  | setOwn (client : Nat) (own : Option Address)
  /-- A dispatcher takes its next event. -/
  | take (client : Nat)
  /-- A dispatcher notices that it was told to end. -/
  | halt (client : Nat)
  /-- A dispatcher has prepared its message. -/
  | prepared (client : Nat) (attempts : AttachmentKind → Attempt)
  /-- The bus is done with the message of a dispatcher. -/
  | handled (client : Nat)

namespace State

/-- A transport that has not been started. -/
def initial (bus : Bus) (fs : FileSystem) : State :=
  { connection := .disconnected, bus, held := none, dispatcher := none, clients := [], fired := [],
    operations := [], fs, now := 0, log := [] }

/-- Adds to the log. -/
def record (s : State) (entries : List Entry) : State :=
  { s with log := s.log ++ entries }

/-- Notes a call of a client. -/
def asks (s : State) (client : Nat) (call : ClientCall) : State :=
  s.record [.client client call]

/-- Changes a client. -/
def onClient (s : State) (client : Nat) (f : Client → Client) : State :=
  { s with clients := s.clients.modify client f }

/-- Changes the connection state, unless the session is logged out. -/
def becomes (s : State) (next : ConnectionState) : State :=
  { s with connection := s.connection.unlessLoggedOut next }

/-- The dispatcher of a client was told to end, by the transport or by the caller. -/
def isCancelled (s : State) (c : Client) : Bool :=
  c.cancelled || s.fired.contains c.token

/-- Changes where an operation is. -/
def setOperation (s : State) (i : Nat) (operation : Operation) : State :=
  { s with operations := s.operations.set i operation }

/-- Ends an operation. -/
def finish (s : State) (i : Nat) (result : Except ChannelError Unit) : State :=
  s.setOperation i (.finished result)

/-- Lets a start go on from a point. -/
def startAt (s : State) (i token : Nat) (point : StartPoint) : State :=
  s.setOperation i (.start token point)

/-- One step of the release of the held client; nothing is left to do if there is no next
point. -/
def releaseFrom (s : State) : ReleasePoint → State × Option ReleasePoint
  | .token =>
    match s.dispatcher with
    | none => (s, some .client)
    | some c =>
      ({ s with dispatcher := none }.onClient c fun d => { d with cancelled := true },
        some .client)
  | .client =>
    match s.held with
    | none => (s, none)
    | some c => ({ s with held := none }.asks c .disconnect, some (.disconnecting c))
  | .disconnecting _ => (s, none)

/-- Asks for the session store. -/
def openStore (setup : Setup) (s : State) (i token : Nat) : State :=
  let mode := (Path.parent? setup.storePath).bind s.fs.mode?
  (s.record [.openStore setup.storePath mode]).startAt i token .opening

/-- The directory of the session store, unless its path has only one part. -/
def storeDir? (path : String) : Option String :=
  (Path.parent? path).filter (· ≠ "")

/-- Goes on with a start after the release. -/
def startReleased (setup : Setup) (s : State) (i token : Nat) : State :=
  let s := { s with connection := .connecting }
  match storeDir? setup.storePath with
  | some dir => s.startAt i token (.makeDir dir)
  | none => s.openStore setup i token

/-- Makes the directory of the session store, for its owner alone. -/
def makeStoreDir (setup : Setup) (s : State) (i token : Nat) (dir : String) : State :=
  match s.fs.makeDirectories dir 0o700 with
  | (.ok (), fs) => { s with fs }.openStore setup i token
  | (.error fault, fs) =>
    { s with fs }.finish i (.error (.external ("create store dir " ++ dir) fault.message))

/-- Takes a new client into use and starts its dispatcher. A client without an account is paired
first. -/
def welcome (s : State) (i token : Nat) (own : Option Address) : State :=
  let c := s.clients.length
  let client : Client := ⟨own, false, token, false, [], .waiting⟩
  let s := { s with clients := s.clients ++ [client] }.asks c .addHandler
  match own with
  | some _ => (s.asks c .connect).startAt i token (.connecting c false)
  | none => (s.asks c .pairingChannel).startAt i token (.pairingChannel c)

/-- Gives up on the client of a start. -/
def abandon (s : State) (i token client : Nat) (error : ChannelError) : State :=
  ((s.onClient client fun d => { d with cancelled := true }).asks client .disconnect).startAt i
    token (.abandoning client error)

/-- Goes on with a start whose client is connected and paired. -/
def settleIn (s : State) (i token client : Nat) : State :=
  (s.becomes .connected).startAt i token (.holdClient client)

/-- What pairing events do to a start. -/
def pairingEvent (s : State) (i token client : Nat) : PairingEvent → State
  | .code text => s.record [.showCode text]
  | .success => s.settleIn i token client
  | .timeout => s.abandon i token client (.timeout "whatsapp pairing")
  | .error reason => s.abandon i token client (.connectivity ("pairing failed: " ++ reason))

/-- What a start does with the answer that it was waiting for. -/
def resumeStart (setup : Setup) (s : State) (i token : Nat) :
    StartPoint → Answer → Option State
  | .check, .ready =>
    if s.connection = .loggedOut then
      some (s.finish i (.error (.loggedOut
        "whatsapp session was revoked, clear the session store and pair again")))
    else some (s.startAt i token (.release .token))
  | .release point, .ready =>
    match s.releaseFrom point with
    | (s, some point) => some (s.startAt i token (.release point))
    | (s, none) => some (s.startReleased setup i token)
  | .makeDir dir, .ready => some (s.makeStoreDir setup i token dir)
  | .opening, .opened own => some (s.welcome i token own)
  | .opening, .failed text =>
    some (s.finish i (.error (.external "open whatsapp session store" text)))
  | .pairingChannel c, .ready =>
    some ((s.asks c .connect).startAt i token (.connecting c true))
  | .pairingChannel c, .failed text =>
    some (s.abandon i token c (.external "open pairing channel" text))
  | .connecting c false, .ready => some (s.settleIn i token c)
  | .connecting c false, .failed text =>
    some (s.abandon i token c (.connectivity ("failed to connect: " ++ text)))
  | .connecting c true, .ready =>
    some ({ s with connection := .awaitingPairing }.startAt i token
      (.pairing c (s.now + setup.pairingTimeout.millis)))
  | .connecting c true, .failed text =>
    some (s.abandon i token c (.connectivity ("failed to connect for pairing: " ++ text)))
  | .pairing c _, .pairing e => some (s.pairingEvent i token c e)
  | .pairing c _, .closed =>
    some (s.abandon i token c (.connectivity "pairing channel closed before completion"))
  | .pairing c deadline, .expired =>
    if deadline ≤ s.now then some (s.abandon i token c (.timeout "whatsapp pairing")) else none
  | .abandoning _ error, .ready => some ((s.becomes .disconnected).finish i (.error error))
  | .holdClient c, .ready => some ({ s with held := some c }.startAt i token (.holdToken c))
  | .holdToken c, .ready =>
    some ({ s with dispatcher := some c, bus := s.bus.setRunning true }.finish i (.ok ()))
  | _, _ => none

/-- What a stop does with the answer that it was waiting for. -/
def resumeStop (s : State) (i : Nat) : StopPoint → Answer → Option State
  | .check, .ready =>
    some ({ s with bus := s.bus.setRunning false }.setOperation i (.stop (.release .token)))
  | .release point, .ready =>
    match s.releaseFrom point with
    | (s, some point) => some (s.setOperation i (.stop (.release point)))
    | (s, none) => some ((s.becomes .disconnected).finish i (.ok ()))
  | _, _ => none

/-- The client in use, if it is connected. -/
def linkedClient? (s : State) : Option Nat :=
  s.held.filter fun c => (s.clients[c]?.map Client.linked).getD false

/-- What a send does with the answer that it was waiting for. -/
def resumeSend (s : State) (i : Nat) (m : OutboundMessage) : SendPoint → Answer → Option State
  | .check, .ready =>
    if s.connection = .loggedOut then
      some (s.finish i (.error (.loggedOut "whatsapp session was revoked")))
    else some (s.setOperation i (.send m .lookup))
  | .lookup, .ready =>
    match s.linkedClient? with
    | none => some (s.finish i (.error (.connectivity "whatsapp client not connected")))
    | some c =>
      match Address.parseTarget m.chat with
      | .error error => some (s.finish i (.error error))
      | .ok target =>
        some ((s.asks c (.sendText target m.content)).setOperation i (.send m (.sending target)))
  | .sending _, .ready => some (s.finish i (.ok ()))
  | .sending target, .failed text =>
    some (s.finish i (.error (.delivery ("send to " ++ target.text) text)))
  | _, _ => none

/-- What an operation does with the answer that it was waiting for. -/
def resume (setup : Setup) (s : State) (i : Nat) (answer : Answer) : Option State :=
  match s.operations[i]? with
  | some (.start token point) => s.resumeStart setup i token point answer
  | some (.stop point) => s.resumeStop i point answer
  | some (.send m point) => s.resumeSend i m point answer
  | some (.finished _) => none
  | none => none

/-- The first point of an operation. -/
def begin (s : State) : Call → State
  | .start token => { s with operations := s.operations ++ [.start token .check] }
  | .stop => { s with operations := s.operations ++ [.stop .check] }
  | .send m => { s with operations := s.operations ++ [.send m .check] }

/-- Time does not pass the deadline of a pairing. -/
def mayElapse (s : State) (millis : Nat) : Bool :=
  s.operations.all fun
    | .start _ (.pairing _ deadline) => s.now + millis ≤ deadline
    | _ => true

/-- What a dispatcher does with an event. Only messages of others keep it busy. -/
def dispatch (s : State) (client : Nat) (own : Option Address) : Event → State
  | .message m =>
    if m.isForeign own then s.onClient client fun d => { d with stage := .preparing m } else s
  | .connected => s.becomes .connected
  | .disconnected => s.becomes .disconnected
  | .loggedOut _ => { s with connection := .loggedOut, bus := s.bus.setRunning false }
  | .history _ => s

/-- Prepares a message and hands it to the bus. The files of a message that is not for the bus are
removed at once. -/
def prepare (setup : Setup) (s : State) (client : Nat) (attempts : AttachmentKind → Attempt)
    (m : Message) : State :=
  let (message, draft) := setup.intake.takeIn attempts s.fs m
  let entries := draft.fetches.map (fun a => Entry.client client (.download a))
    ++ draft.asked.map Entry.transcribe
  let s := { s with fs := draft.fs }.record entries
  match message with
  | none => s.onClient client fun d => { d with stage := .waiting }
  | some message =>
    if s.bus.admits message.sender then
      { s with bus := s.bus.handle ⟨message, contents s.fs message.media⟩ }.onClient client
        fun d => { d with stage := .delivering draft.media }
    else
      { s with fs := draft.media.release s.fs }.onClient client
        fun d => { d with stage := .waiting }

end State

/-- What a move does; there is none if it is not possible. -/
def step (setup : Setup) (s : State) : Move → Option State
  | .call c => some (s.begin c)
  | .resume i answer => s.resume setup i answer
  | .cancel token => some { s with fired := s.fired ++ [token] }
  | .elapse millis => if s.mayElapse millis then some { s with now := s.now + millis } else none
  | .emit c e => some (s.onClient c fun d => d.receive e)
  | .setLinked c linked => some (s.onClient c fun d => { d with linked })
  | .setOwn c own => some (s.onClient c fun d => { d with own })
  | .take c =>
    match s.clients[c]? with
    | some d =>
      match d.stage, d.queue with
      | .waiting, e :: rest =>
        some ((s.onClient c fun d => { d with queue := rest }).dispatch c d.own e)
      | _, _ => none
    | none => none
  | .halt c =>
    match s.clients[c]? with
    | some d =>
      if d.stage = .waiting && s.isCancelled d then
        some (s.onClient c fun d => { d with stage := .ended, queue := [] })
      else none
    | none => none
  | .prepared c attempts =>
    match s.clients[c]? with
    | some d =>
      match d.stage with
      | .preparing m => some (s.prepare setup c attempts m)
      | _ => none
    | none => none
  | .handled c =>
    match s.clients[c]? with
    | some d =>
      match d.stage with
      | .delivering media =>
        some ({ s with fs := media.release s.fs }.onClient c fun d => { d with stage := .waiting })
      | _ => none
    | none => none

/-- Follows moves one after the other. -/
def exec (setup : Setup) : State → List Move → Option State
  | s, [] => some s
  | s, m :: rest => (step setup s m).bind fun s => exec setup s rest

end ChatChannel.Native
