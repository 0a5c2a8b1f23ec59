import ChatChannel.Bus
import ChatChannel.Settings
import ChatChannel.Connection
import ChatChannel.Error
import ChatChannel.Frame

/-!
# ChatChannel.Bridge.Lifecycle

The bridge transport as a machine. Starts and stops take turns at a slot that holds the token of
the read loop; the loop reads frames from its socket, and dials again when the socket is lost.
Operations and loops give way to each other only at the points that are named here, and any of them
may move next: `step` says what a move does, and `exec` follows a run.
-/

namespace ChatChannel.Bridge

/-- What stays the same while a transport is used. -/
structure Setup where
  url : String
  timing : BridgeTiming

/-- What can be read from a socket. -/
inductive Incoming where
  | text (text : String)
  | binary (bytes : ByteArray)
  /-- A ping or a pong. -/
  | control
  /-- The peer closes the connection, or it breaks. -/
  | lost
  deriving DecidableEq

/-- Where a read loop is. -/
inductive LoopPoint where
  | reading (socket : Nat)
  /-- The bus has the message of a frame. -/
  | delivering (socket : Nat)
  /-- The socket is lost, and the published one is about to be taken back. -/
  | dropping
  /-- A lost socket is being closed. -/
  | closing (socket : Nat)
  /-- Waiting for the moment of the next dial. -/
  | resting (wake : Nat)
  | dialing (deadline : Nat)
  | publishing (socket : Nat)
  /-- The loop is over, and the published socket is about to be taken back. -/
  | ending
  | endClosing (socket : Nat)
  | ended
  deriving DecidableEq, Repr

/-- The moment that a loop waits for. -/
def LoopPoint.moment? : LoopPoint → Option Nat
  | .resting wake => some wake
  | .dialing deadline => some deadline
  | _ => none

/-- A read loop, with the token that its start was given. -/
structure ReadLoop where
  token : Nat
  /-- The loop was told to end by a later operation. -/
  cancelled : Bool
  point : LoopPoint
  deriving DecidableEq, Repr

/-- Where a start is. All points after `queued` are in its turn at the slot. -/
inductive StartPoint where
  | queued
  /-- Waiting for the end of a loop. -/
  | joining (loop : Nat)
  | dialing (deadline : Nat)
  | publishing (socket : Nat)
  deriving DecidableEq, Repr

/-- Where a stop is. Its turn at the slot ends with the loop. -/
inductive StopPoint where
  | check
  | queued
  | joining (loop : Nat)
  | dropping
  | closing (socket : Nat)
  deriving DecidableEq, Repr

/-- Where a send is. -/
inductive SendPoint where
  | lookup
  | writing (socket : Nat)
  deriving DecidableEq, Repr

/-- An operation, in flight or finished. -/
inductive Operation where
  | start (token : Nat) (point : StartPoint)
  | stop (point : StopPoint)
  | send (message : OutboundMessage) (point : SendPoint)
  | finished (result : Except ChannelError Unit)

/-- What a transport has done to its surroundings. -/
inductive Entry where
  /-- It has begun to connect at this time. -/
  | dial (time : Nat)
  | write (socket : Nat) (text : String)
  | close (socket : Nat)
  deriving DecidableEq, Repr

/-- A transport and its surroundings. -/
structure State where
  connection : ConnectionState
  bus : Bus
  /-- The socket that messages are written to. -/
  writer : Option Nat
  /-- The loop that the next start or stop ends. -/
  slot : Option Nat
  /-- The operation whose turn at the slot it is. -/
  turn : Option Nat
  loops : List ReadLoop
  /-- How many sockets have been opened. -/
  sockets : Nat
  /-- The tokens of callers that have fired. -/
  fired : List Nat
  operations : List Operation
  /-- The time, in milliseconds. -/
  now : Nat
  log : List Entry

/-- An operation that a caller can ask for. -/
inductive Call where
  | start (token : Nat)
  | stop
  | send (message : OutboundMessage)
  deriving DecidableEq, Repr

/-- What an operation or a loop may be waiting for. -/
inductive Answer where
  /-- It can go on, or what it asked for was done. -/
  | ready
  | failed (text : String)
  /-- The time for the handshake is over. -/
  | expired
  deriving DecidableEq, Repr

/-- What can happen next. -/
inductive Move where
  | call (c : Call)
  | resume (operation : Nat) (answer : Answer)
  /-- The token of a caller fires. -/
  | cancel (token : Nat)
  | elapse (millis : Nat)
  /-- A loop reads from its socket. -/
  | receive (loop : Nat) (incoming : Incoming)
  /-- A loop notices that it was told to end. -/
  | halt (loop : Nat)
  | proceed (loop : Nat) (answer : Answer)
  deriving DecidableEq

/-- Why a dial failed. -/
inductive DialFault where
  | refused (text : String)
  | late
  deriving DecidableEq, Repr

/-- The error of a failed dial. -/
def DialFault.error (setup : Setup) : DialFault → ChannelError
  | .refused text => .connectivity ("failed to connect to bridge " ++ setup.url ++ ": " ++ text)
  | .late =>
    let timeout : Duration := ⟨setup.timing.handshakeTimeout.toNat⟩
    .connectivity ("bridge handshake with " ++ setup.url ++ " timed out after " ++ timeout.text)

namespace State

/-- A transport that has not been started. -/
def initial (bus : Bus) : State :=
  { connection := .disconnected, bus, writer := none, slot := none, turn := none, loops := [],
    sockets := 0, fired := [], operations := [], now := 0, log := [] }

/-- Adds to the log. -/
def record (s : State) (entry : Entry) : State :=
  { s with log := s.log ++ [entry] }

/-- Changes a loop. -/
def onLoop (s : State) (loop : Nat) (f : ReadLoop → ReadLoop) : State :=
  { s with loops := s.loops.modify loop f }

/-- Lets a loop go on from a point. -/
def loopAt (s : State) (loop : Nat) (point : LoopPoint) : State :=
  s.onLoop loop fun l => { l with point }

/-- A loop was told to end, by a later operation or by the caller. -/
def isCancelled (s : State) (l : ReadLoop) : Bool :=
  l.cancelled || s.fired.contains l.token

/-- Changes where an operation is. -/
def setOperation (s : State) (i : Nat) (operation : Operation) : State :=
  { s with operations := s.operations.set i operation }

/-- Lets a start go on from a point. -/
def startAt (s : State) (i token : Nat) (point : StartPoint) : State :=
  s.setOperation i (.start token point)

/-- Ends an operation. -/
def finish (s : State) (i : Nat) (result : Except ChannelError Unit) : State :=
  s.setOperation i (.finished result)

/-- A loop is over. -/
def isEnded (s : State) (loop : Nat) : Bool :=
  match s.loops[loop]? with
  | some l => l.point = .ended
  | none => true

/-- Begins to connect; gives the moment at which the handshake takes too long. -/
def dial (setup : Setup) (s : State) : State × Nat :=
  ({ s with connection := .connecting }.record (.dial s.now),
    s.now + setup.timing.handshakeTimeout.toNat)

/-- A dial has failed. -/
def dialFailed (s : State) : State :=
  { s with connection := .disconnected }

/-- A socket was opened; gives its number. -/
def opened (s : State) : State × Nat :=
  ({ s with sockets := s.sockets + 1 }, s.sockets)

/-- Makes a socket the one that messages are written to. -/
def publish (s : State) (socket : Nat) : State :=
  { s with writer := some socket, connection := .connected }

/-- Takes back the published socket, which has to be closed. -/
def dropWriter (s : State) : State × Option Nat :=
  ({ s with writer := none, connection := .disconnected }, s.writer)

/-- Dials for a start. -/
def startDial (setup : Setup) (s : State) (i token : Nat) : State :=
  let (s, deadline) := s.dial setup
  s.startAt i token (.dialing deadline)

/-- Ends a start whose dial has failed; its turn is over. -/
def startFailed (setup : Setup) (s : State) (i : Nat) (fault : DialFault) : State :=
  { s.dialFailed with turn := none }.finish i (.error (fault.error setup))

/-- Takes the loop out of the slot and tells it to end. -/
def takeSlot (s : State) (i : Nat) : State × Option Nat :=
  match s.slot with
  | none => ({ s with turn := some i }, none)
  | some loop =>
    ({ s with turn := some i, slot := none }.onLoop loop fun l => { l with cancelled := true },
      some loop)

/-- Ends the turn of a start: a loop reads from its socket, and the channel is running. -/
def addLoop (s : State) (token socket : Nat) : State :=
  let loop : ReadLoop := ⟨token, false, .reading socket⟩
  { s with
    loops := s.loops ++ [loop]
    slot := some s.loops.length
    turn := none
    bus := s.bus.setRunning true }

/-- What a start does with the answer that it was waiting for. -/
def resumeStart (setup : Setup) (s : State) (i token : Nat) :
    StartPoint → Answer → Option State
  | .queued, .ready =>
    if s.turn.isSome then none
    else
      match s.takeSlot i with
      | (s, some loop) => some (s.startAt i token (.joining loop))
      | (s, none) => some (s.startDial setup i token)
  | .joining loop, .ready =>
    if s.isEnded loop then some (s.startDial setup i token) else none
  | .dialing _, .ready =>
    let (s, socket) := s.opened
    some (s.startAt i token (.publishing socket))
  | .dialing _, .failed text => some (s.startFailed setup i (.refused text))
  | .dialing deadline, .expired =>
    if deadline ≤ s.now then some (s.startFailed setup i .late) else none
  | .publishing socket, .ready =>
    some ((s.publish socket |>.addLoop token socket).finish i (.ok ()))
  | _, _ => none

/-- What a stop does with the answer that it was waiting for. -/
def resumeStop (s : State) (i : Nat) : StopPoint → Answer → Option State
  | .check, .ready =>
    some ({ s with bus := s.bus.setRunning false }.setOperation i (.stop .queued))
  | .queued, .ready =>
    if s.turn.isSome then none
    else
      match s.takeSlot i with
      | (s, some loop) => some (s.setOperation i (.stop (.joining loop)))
      | (s, none) => some ({ s with turn := none }.setOperation i (.stop .dropping))
  | .joining loop, .ready =>
    if s.isEnded loop then some ({ s with turn := none }.setOperation i (.stop .dropping))
    else none
  | .dropping, .ready =>
    match s.dropWriter with
    | (s, some socket) =>
      some ((s.record (.close socket)).setOperation i (.stop (.closing socket)))
    | (s, none) => some (s.finish i (.ok ()))
  | .closing _, _ => some (s.finish i (.ok ()))
  | _, _ => none

/-- What a send does with the answer that it was waiting for. -/
def resumeSend (s : State) (i : Nat) (m : OutboundMessage) : SendPoint → Answer → Option State
  | .lookup, .ready =>
    match s.writer with
    | none => some (s.finish i (.error (.connectivity "whatsapp bridge not connected")))
    | some socket =>
      some ((s.record (.write socket (Frame.outbound m.chat m.content))).setOperation i
        (.send m (.writing socket)))
  | .writing _, .ready => some (s.finish i (.ok ()))
  | .writing _, .failed text =>
    some (s.finish i (.error (.delivery "write bridge frame" text)))
  | _, _ => none

/-- What an operation does with the answer that it was waiting for. -/
def resume (setup : Setup) (s : State) (i : Nat) (answer : Answer) : Option State :=
  match s.operations[i]? with
  | some (.start token point) => s.resumeStart setup i token point answer
  | some (.stop point) => s.resumeStop i point answer
  | some (.send m point) => s.resumeSend i m point answer
  | some (.finished _) => none
  | none => none

/-- The first point of an operation. -/
def begin (s : State) : Call → State
  | .start token => { s with operations := s.operations ++ [.start token .queued] }
  | .stop => { s with operations := s.operations ++ [.stop .check] }
  | .send m => { s with operations := s.operations ++ [.send m .lookup] }

/-- The message that an incoming frame stands for. -/
def messageOf? : Incoming → Option InboundMessage
  | .text text => Frame.ofText? text
  | .binary bytes => Frame.ofBytes? bytes
  | .control => none
  | .lost => none

/-- What a loop does with what it has read. Frames that are no message change nothing. -/
def read (s : State) (loop socket : Nat) (incoming : Incoming) : State :=
  if incoming = .lost then s.loopAt loop .dropping
  else
    match messageOf? incoming with
    | none => s
    | some message =>
      if s.bus.admits message.sender then
        { s with bus := s.bus.handle ⟨message, []⟩ }.loopAt loop (.delivering socket)
      else s

/-- Lets a loop wait before its next dial. -/
def rest (s : State) (loop : Nat) (millis : UInt64) : State :=
  s.loopAt loop (.resting (s.now + millis.toNat))

/-- Dials for a loop. -/
def redial (setup : Setup) (s : State) (loop : Nat) : State :=
  let (s, deadline) := s.dial setup
  s.loopAt loop (.dialing deadline)

/-- A dial for a loop has failed. -/
def redialFailed (setup : Setup) (s : State) (loop : Nat) : State :=
  s.dialFailed.rest loop setup.timing.idleBackoff

/-- Ends a loop. -/
def endLoop (s : State) (loop : Nat) : State :=
  { s with bus := s.bus.setRunning false }.loopAt loop .ended

/-- What a loop does with the answer that it was waiting for. -/
def proceed (setup : Setup) (s : State) (loop : Nat) : LoopPoint → Answer → Option State
  | .delivering socket, .ready => some (s.loopAt loop (.reading socket))
  | .dropping, .ready =>
    match s.dropWriter with
    | (s, some socket) => some ((s.record (.close socket)).loopAt loop (.closing socket))
    | (s, none) => some (s.rest loop setup.timing.errorBackoff)
  | .closing _, _ => some (s.rest loop setup.timing.errorBackoff)
  | .resting wake, .ready => if wake ≤ s.now then some (s.redial setup loop) else none
  | .dialing _, .ready =>
    let (s, socket) := s.opened
    some (s.loopAt loop (.publishing socket))
  | .dialing _, .failed _ => some (s.redialFailed setup loop)
  | .dialing deadline, .expired =>
    if deadline ≤ s.now then some (s.redialFailed setup loop) else none
  | .publishing socket, .ready => some ((s.publish socket).loopAt loop (.reading socket))
  | .ending, .ready =>
    match s.dropWriter with
    | (s, some socket) => some ((s.record (.close socket)).loopAt loop (.endClosing socket))
    | (s, none) => some (s.endLoop loop)
  | .endClosing _, _ => some (s.endLoop loop)
  | _, _ => none

/-- A loop was told to end, and waits at a point where it notices. -/
def isHalting (s : State) (l : ReadLoop) : Bool :=
  s.isCancelled l &&
    match l.point with
    | .reading _ => true
    | .resting _ => true
    | _ => false

/-- Time does not pass a moment that a loop or a start waits for, and does not pass at all while a
loop is about to notice that it was told to end. -/
def mayElapse (s : State) (millis : Nat) : Bool :=
  let reached (moment : Nat) : Bool := s.now + millis ≤ moment
  (s.loops.all fun l => !s.isHalting l && l.point.moment?.all reached) &&
    s.operations.all fun
      | .start _ (.dialing deadline) => reached deadline
      | _ => true

end State

/-- What a move does; there is none if it is not possible. -/
def step (setup : Setup) (s : State) : Move → Option State
  | .call c => some (s.begin c)
  | .resume i answer => s.resume setup i answer
  | .cancel token => some { s with fired := s.fired ++ [token] }
  | .elapse millis => if s.mayElapse millis then some { s with now := s.now + millis } else none
  | .receive loop incoming =>
    match s.loops[loop]? with
    | some l =>
      match l.point with
      | .reading socket => some (s.read loop socket incoming)
      | _ => none
    | none => none
  | .halt loop =>
    match s.loops[loop]? with
    | some l =>
      if s.isHalting l then some (s.loopAt loop .ending) else none
    | none => none
  | .proceed loop answer =>
    match s.loops[loop]? with
    | some l => s.proceed setup loop l.point answer
    | none => none

/-- Follows moves one after the other. -/
def exec (setup : Setup) : State → List Move → Option State
  | s, [] => some s
  | s, m :: rest => (step setup s m).bind fun s => exec setup s rest

end ChatChannel.Bridge
