/-!
# ChatChannel.Connection

The state of a connection, as health reports show it, and shared handles on such states.
-/

namespace ChatChannel

/-- The lifecycle of a connection. -/
inductive ConnectionState where
  | disconnected
  | connecting
  | awaitingPairing
  | connected
  /-- The platform revoked the session, and the device has to be paired again. -/
  | loggedOut
  deriving DecidableEq, Repr

namespace ConnectionState

/-- The name of a state. -/
def name : ConnectionState → String
  | .disconnected => "disconnected"
  | .connecting => "connecting"
  | .awaitingPairing => "awaiting_pairing"
  | .connected => "connected"
  | .loggedOut => "logged_out"

/-- All states. -/
def all : List ConnectionState :=
  [.disconnected, .connecting, .awaitingPairing, .connected, .loggedOut]

/-- The state of this name. -/
def ofName? (s : String) : Option ConnectionState :=
  all.find? fun state => state.name = s

/-- The next state, unless the session is logged out: that stays. -/
def unlessLoggedOut (current next : ConnectionState) : ConnectionState :=
  if current = .loggedOut then current else next

end ConnectionState

/-- Connection states with handles on them. Handles can share a state, and a change through one of
them shows through the others. -/
structure SharedStates where
  cells : List ConnectionState
  handles : List Nat
  deriving DecidableEq, Repr

namespace SharedStates

/-- No handles. -/
def empty : SharedStates := ⟨[], []⟩

/-- Adds a handle on a state of its own. -/
def addHandle (s : SharedStates) : SharedStates :=
  ⟨s.cells ++ [.disconnected], s.handles ++ [s.cells.length]⟩

/-- Adds a handle on the state of another handle. -/
def clone (s : SharedStates) (handle : Nat) : SharedStates :=
  match s.handles[handle]? with
  | none => s
  | some cell => { s with handles := s.handles ++ [cell] }

/-- Changes the state behind a handle. -/
def update (s : SharedStates) (handle : Nat) (f : ConnectionState → ConnectionState) :
    SharedStates :=
  match s.handles[handle]? with
  | none => s
  | some cell => { s with cells := s.cells.modify cell f }

/-- The states that the handles show. -/
def view (s : SharedStates) : List ConnectionState :=
  s.handles.filterMap fun cell => s.cells[cell]?

end SharedStates

end ChatChannel
