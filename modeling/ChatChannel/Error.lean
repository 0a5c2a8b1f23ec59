import ChatChannel.Text.Quoted

/-!
# ChatChannel.Error

What can go wrong with a channel, and how it is said.
-/

namespace ChatChannel

/-- A failure of a channel operation. -/
inductive ChannelError where
  /-- The channel is not connected, or connecting failed. -/
  | connectivity (message : String)
  /-- An operation did not end in time. -/
  | timeout (operation : String)
  /-- A destination is not an address. -/
  | invalidAddress (address reason : String)
  /-- The peer sent something that cannot be understood. -/
  | malformedFrame (message : String)
  /-- An outgoing message was rejected. -/
  | delivery (context source : String)
  /-- The platform revoked the session. -/
  | loggedOut (message : String)
  /-- No working channel can be built from the configuration. -/
  | invalidConfig (message : String)
  /-- Something outside the channel failed. -/
  | external (context source : String)
  deriving DecidableEq, Repr

namespace ChannelError

/-- The text of an error. -/
def message : ChannelError → String
  | .connectivity m => s!"channel not connected: {m}"
  | .timeout operation => s!"{operation} timed out"
  | .invalidAddress address reason =>
    "invalid address " ++ Text.quoted address ++ ": " ++ reason
  | .malformedFrame m => s!"malformed frame from peer: {m}"
  | .delivery context source => s!"failed to deliver message: {context}: {source}"
  | .loggedOut m => s!"session logged out: {m}"
  | .invalidConfig m => s!"invalid channel config: {m}"
  | .external context source => s!"channel operation failed: {context}: {source}"

/-- The text of the failure behind the error, if there is one. -/
def source? : ChannelError → Option String
  | .delivery _ source => some source
  | .external _ source => some source
  | _ => none

/-- The error means that there is no connection, and not that a message was refused. -/
def meansDisconnected : ChannelError → Bool
  | .connectivity _ => true
  | _ => false

end ChannelError

/-- A failure with a description of what was attempted. -/
structure Failure where
  context : String
  source : String
  deriving DecidableEq, Repr

/-- The text of a described failure. -/
def Failure.message (f : Failure) : String :=
  f.context ++ ": " ++ f.source

/-- Describes the failure of a result; the description is asked for only then. -/
def describing {α : Type} (result : Except String α) (context : Unit → String) :
    Except Failure α :=
  match result with
  | .ok a => .ok a
  | .error source => .error ⟨context (), source⟩

end ChatChannel
