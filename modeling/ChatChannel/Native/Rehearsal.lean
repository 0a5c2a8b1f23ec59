import ChatChannel.Native.Lifecycle

/-!
# ChatChannel.Native.Rehearsal

A transport played with a client that acts by a script. Of the runs that are possible, a rehearsal
follows the one in which everything that is pending is done before the next thing happens.
-/

namespace ChatChannel.Native

/-- How a client acts. -/
structure Script where
  /-- The address of the paired account, if there is one. -/
  own : Option Address
  /-- What can be downloaded, by path. -/
  blobs : List (String × ByteArray)
  failOpen : Option String
  failPairing : Option String
  failConnect : Option String
  failSend : Option String
  /-- The progress of a pairing, each with the milliseconds since the one before. -/
  pairing : List (Nat × PairingEvent)
  /-- The pairing channel stays open after the last event. -/
  pairingHold : Bool
  /-- What the client reports while it connects. -/
  onConnect : List Event
  /-- The client reports to be connected. -/
  connected : Bool

namespace Script

/-- A client that was never paired and does what it is asked. -/
def plain : Script :=
  { own := none, blobs := [], failOpen := none, failPairing := none, failConnect := none,
    failSend := none, pairing := [], pairingHold := false, onConnect := [], connected := false }

/-- What a download gives. -/
def fetch (s : Script) (a : Attachment) : Except String ByteArray :=
  match s.blobs.lookup a.directPath with
  | some data => .ok data
  | none => .error "404"

end Script

/-- The place of a kind among all kinds. -/
def AttachmentKind.index : AttachmentKind → Nat
  | .image => 0
  | .video => 1
  | .document => 2
  | .audio => 3

/-- How many kinds there are. -/
def AttachmentKind.count : Nat := 4

/-- The downloads for a message. Each has an identifier of its own, counted from `id`, and nothing
is in the way of its file but the file system. -/
def Script.attempts (s : Script) (id : Nat) (c : Content) (kind : AttachmentKind) : Attempt :=
  { fetched := match c.attachment? kind with
      | some a => s.fetch a
      | none => .error "no such attachment"
    id := .ofNat (id + kind.index)
    trouble := .none }

/-- A transport that is being played. -/
structure Rehearsal where
  setup : Setup
  script : Script
  state : State
  /-- How many starts there were. -/
  starts : Nat
  /-- The identifier of the next file. -/
  nextId : Nat
  /-- The pairing events to come, with their times. -/
  pairing : List (Nat × PairingEvent)

/-- How a step of a rehearsal ended. -/
inductive StepResult where
  | done
  | failed (error : ChannelError)
  /-- There is no client to report the events. -/
  | noHandler
  deriving DecidableEq, Repr

namespace Rehearsal

/-- A rehearsal before its first step. -/
def new (setup : Setup) (script : Script) (bus : Bus) (fs : FileSystem) (nextId : Nat) :
    Rehearsal :=
  { setup, script, state := .initial bus fs, starts := 0, nextId, pairing := [] }

/-- Makes a move if it is possible. -/
def perform (r : Rehearsal) (m : Move) : Rehearsal :=
  match step r.setup r.state m with
  | some state => { r with state }
  | none => r

/-- Prepares the message of a dispatcher, which may take time. -/
def prepare (r : Rehearsal) (client : Nat) (m : Message) : Rehearsal :=
  let attempts := r.script.attempts r.nextId m.content
  let waited := (r.setup.intake.takeIn attempts r.state.fs m).2.waited
  let r := (r.perform (.prepared client attempts)).perform (.elapse waited.millis)
  { r with nextId := r.nextId + AttachmentKind.count }

/-- Lets a dispatcher do its work; it notices an end before it takes another event. -/
def drain : Nat → Rehearsal → Nat → Rehearsal
  | 0, r, _ => r
  | fuel + 1, r, client =>
    match r.state.clients[client]? with
    | none => r
    | some c =>
      match c.stage with
      | .ended => r
      | .preparing m => drain fuel (r.prepare client m) client
      | .delivering _ => drain fuel (r.perform (.handled client)) client
      | .waiting =>
        if r.state.isCancelled c then r.perform (.halt client)
        else if c.queue = [] then r
        else drain fuel (r.perform (.take client)) client

/-- The work that the events of a dispatcher can make: each is taken, prepared and handled. -/
def workOf (c : Client) : Nat :=
  3 * c.queue.length + 3

/-- Lets every dispatcher do its work. -/
def settle (r : Rehearsal) : Rehearsal :=
  (List.range r.state.clients.length).foldl
    (fun r client => drain ((r.state.clients[client]?.map workOf).getD 0) r client) r

/-- The client reports to be connected, or not to be. -/
def link (r : Rehearsal) (connected : Bool) : Rehearsal :=
  let r := { r with script := { r.script with connected } }
  (List.range r.state.clients.length).foldl
    (fun r client => r.perform (.setLinked client connected)) r

/-- A client reports events, and they are handled. -/
def report (r : Rehearsal) (client : Nat) (events : List Event) : Rehearsal :=
  (events.foldl (fun r e => r.perform (.emit client e)) r).settle

/-- Pairing events with their times, the first of them counted from `now`. -/
def timed (now : Nat) : List (Nat × PairingEvent) → List (Nat × PairingEvent)
  | [] => []
  | (after, e) :: rest => (now + after, e) :: timed (now + after) rest

/-- Lets time pass up to a moment. -/
def elapseTo (r : Rehearsal) (moment : Nat) : Rehearsal :=
  r.perform (.elapse (moment - r.state.now))

/-- What comes next while a pairing is awaited: an event that is not too late, the end of the
events, or the end of the time. -/
def nextPairing (r : Rehearsal) (deadline : Nat) : Answer × Rehearsal :=
  match r.pairing with
  | (moment, e) :: rest =>
    if moment ≤ deadline then (.pairing e, { r.elapseTo moment with pairing := rest })
    else (.expired, r.elapseTo deadline)
  | [] => if r.script.pairingHold then (.expired, r.elapseTo deadline) else (.closed, r)

/-- The answer to a request that fails if there is a reason. -/
def readyUnless : Option String → Answer
  | none => .ready
  | some text => .failed text

/-- What a client does about the release of the held client. -/
def answerRelease (r : Rehearsal) : ReleasePoint → Rehearsal
  | .disconnecting _ => r.link false
  | _ => r

/-- What a client does about a start. -/
def answerStart (r : Rehearsal) : StartPoint → Answer × Rehearsal
  | .release point => (.ready, r.answerRelease point)
  | .opening =>
    match r.script.failOpen with
    | some text => (.failed text, r)
    | none => (.opened r.script.own, r)
  | .pairingChannel _ =>
    (readyUnless r.script.failPairing, { r with pairing := timed r.state.now r.script.pairing })
  | .connecting client _ =>
    let r := r.report client r.script.onConnect
    match r.script.failConnect with
    | some text => (.failed text, r)
    | none => (.ready, r.link true)
  | .pairing _ deadline => r.nextPairing deadline
  | .abandoning _ _ => (.ready, r.link false)
  | _ => (.ready, r)

/-- What a client does about an operation, unless it is finished. -/
def answer? (r : Rehearsal) : Operation → Option (Answer × Rehearsal)
  | .start _ point => some (r.answerStart point)
  | .stop (.release point) => some (.ready, r.answerRelease point)
  | .stop .check => some (.ready, r)
  | .send _ (.sending _) => some (readyUnless r.script.failSend, r)
  | .send _ _ => some (.ready, r)
  | .finished _ => none

/-- Plays an operation to its end. -/
def finish : Nat → Rehearsal → Nat → Rehearsal
  | 0, r, _ => r
  | fuel + 1, r, i =>
    match r.state.operations[i]?.bind r.answer? with
    | none => r
    | some (answer, r) => finish fuel (r.perform (.resume i answer)).settle i

/-- How many answers an operation waits for at most. -/
def patience (r : Rehearsal) : Nat :=
  r.script.pairing.length + 16

/-- How an operation ended. -/
def resultOf (r : Rehearsal) (i : Nat) : StepResult :=
  match r.state.operations[i]? with
  | some (.finished (.error e)) => .failed e
  | _ => .done

/-- Calls an operation and plays it to its end. -/
def call (r : Rehearsal) (c : Call) : StepResult × Rehearsal :=
  let i := r.state.operations.length
  let r := finish r.patience (r.perform (.call c)) i
  (r.resultOf i, r)

/-- Starts with a new token. -/
def start (r : Rehearsal) : StepResult × Rehearsal :=
  { r with starts := r.starts + 1 }.call (.start r.starts)

/-- Stops. -/
def stop (r : Rehearsal) : StepResult × Rehearsal :=
  r.call .stop

/-- Sends a message. -/
def send (r : Rehearsal) (m : OutboundMessage) : StepResult × Rehearsal :=
  r.call (.send m)

/-- The token of the latest start fires. -/
def cancel (r : Rehearsal) : StepResult × Rehearsal :=
  match r.starts with
  | 0 => (.done, r)
  | latest + 1 => (.done, (r.perform (.cancel latest)).settle)

/-- Changes how the client acts. -/
def change (r : Rehearsal) (f : Script → Script) : StepResult × Rehearsal :=
  let r := { r with script := f r.script }
  let r := (List.range r.state.clients.length).foldl
    (fun r client => r.perform (.setOwn client r.script.own)) r
  (.done, r.link r.script.connected)

/-- A client reports events: the one that was opened as number `handler`, or else the latest. -/
def emit (r : Rehearsal) (handler : Option Nat) (events : List Event) : StepResult × Rehearsal :=
  let client := handler.getD (r.state.clients.length - 1)
  if client < r.state.clients.length then (.done, r.report client events) else (.noHandler, r)

end Rehearsal

end ChatChannel.Native
