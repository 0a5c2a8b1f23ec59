import ChatChannel.Bridge.Lifecycle
import ChatChannel.Bridge.Url

/-!
# ChatChannel.Bridge.Rehearsal

A transport played where no bridge can be reached: every dial fails, either because of the form of
the URL or for the reason that the network gives. Steps that need a connection, or that wait for
one, have no end.
-/

namespace ChatChannel.Bridge

/-- A transport that is being played. -/
structure Rehearsal where
  setup : Setup
  state : State
  /-- Why nothing can be reached. -/
  outage : String
  /-- How many starts there were. -/
  starts : Nat
  /-- The bridge is meant to listen. -/
  listening : Bool

/-- How a step of a rehearsal ended. -/
inductive StepResult where
  | done
  | failed (error : ChannelError)
  deriving DecidableEq, Repr

/-- Why a rehearsal cannot go on. -/
inductive Impasse where
  /-- A step needs a connection. -/
  | noConnection
  /-- A step waits for something that does not happen. -/
  | stuck
  deriving DecidableEq, Repr

/-- How a bridge is meant to meet a start. -/
inductive Welcome where
  | accept
  | reject
  | hang
  deriving DecidableEq, Repr

namespace Rehearsal

/-- A rehearsal before its first step. -/
def new (setup : Setup) (bus : Bus) (outage : String) : Rehearsal :=
  { setup, state := .initial bus, outage, starts := 0, listening := true }

/-- Makes a move if it is possible. -/
def perform (r : Rehearsal) (m : Move) : Rehearsal :=
  match step r.setup r.state m with
  | some state => { r with state }
  | none => r

/-- Why a dial fails. -/
def dialFault (r : Rehearsal) : String :=
  match Url.check r.setup.url with
  | .error fault => fault.message
  | .ok () => r.outage

/-- The answer to what an operation waits for, unless it is finished. -/
def answer? (r : Rehearsal) : Operation → Option Answer
  | .start _ (.dialing _) => some (.failed r.dialFault)
  | .start _ _ => some .ready
  | .stop _ => some .ready
  | .send _ _ => some .ready
  | .finished _ => none

/-- Plays an operation to its end. -/
def finish : Nat → Rehearsal → Nat → Rehearsal
  | 0, r, _ => r
  | fuel + 1, r, i =>
    match r.state.operations[i]?.bind r.answer? with
    | none => r
    | some answer => finish fuel (r.perform (.resume i answer)) i

/-- How many answers an operation waits for at most. -/
def patience : Nat := 8

/-- How an operation ended. -/
def resultOf (r : Rehearsal) (i : Nat) : StepResult :=
  match r.state.operations[i]? with
  | some (.finished (.error e)) => .failed e
  | _ => .done

/-- Calls an operation and plays it to its end. -/
def call (r : Rehearsal) (c : Call) : StepResult × Rehearsal :=
  let i := r.state.operations.length
  let r := finish patience (r.perform (.call c)) i
  (r.resultOf i, r)

/-- Starts with a new token. A bridge that is to reject a start has to be reached for it. -/
def start (r : Rehearsal) (welcome : Welcome) : Except Impasse (StepResult × Rehearsal) :=
  if welcome = .reject then .error .stuck
  else .ok ({ r with starts := r.starts + 1 }.call (.start r.starts))

/-- The token of the latest start fires. -/
def cancel (r : Rehearsal) : Rehearsal :=
  match r.starts with
  | 0 => r
  | latest + 1 => r.perform (.cancel latest)

/-- The bridge sends frames, which needs a connection. -/
def frames : Except Impasse (StepResult × Rehearsal) :=
  .error .noConnection

/-- The bridge vanishes. If it is meant to listen, it waits to be dialed again. -/
def drop (r : Rehearsal) : Except Impasse (StepResult × Rehearsal) :=
  if r.listening then .error .stuck else .ok (.done, r)

/-- The bridge does not listen any more. -/
def down (r : Rehearsal) : Rehearsal :=
  { r with listening := false }

/-- The bridge listens again and waits to be dialed. -/
def up : Except Impasse (StepResult × Rehearsal) :=
  .error .stuck

end Rehearsal

namespace State

/-- A read loop is running without a connection. -/
def isReconnecting (s : State) : Bool :=
  s.connection ≠ .connected && s.loops.any fun l => l.point ≠ .ended

end State

end ChatChannel.Bridge
