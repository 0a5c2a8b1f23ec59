import ChatChannel.Gate
import ChatChannel.Message
import ChatChannel.Text.Utf8

/-!
# ChatChannel.Bus

What every channel shares with the application: its name, its allow-list, the running flag, and the
messages it has handed to the bus.
-/

namespace ChatChannel

/-- A message in the hands of the bus. `files` tells what each attachment of the message held at
that moment, if it was there; it is empty for messages whose files are not the channel's own. -/
structure Delivery where
  message : InboundMessage
  files : List (Option ByteArray)
  deriving DecidableEq

/-- A channel as the application sees it. `delivered` lists the messages that reached the bus. -/
structure Bus where
  name : String
  allow : List String
  running : Bool
  delivered : List Delivery
  deriving DecidableEq

namespace Bus

/-- A channel that is not running yet. -/
def new (name : String) (allow : List String) : Bus :=
  { name, allow, running := false, delivered := [] }

/-- The allow-list admits a sender. -/
def admits (b : Bus) (sender : String) : Bool :=
  Gate.admits b.allow sender

/-- Hands a message to the bus if its sender is admitted, and drops it otherwise. -/
def handle (b : Bus) (d : Delivery) : Bus :=
  if b.admits d.message.sender then { b with delivered := b.delivered ++ [d] } else b

/-- Sets the running flag. -/
def setRunning (b : Bus) (running : Bool) : Bus :=
  { b with running }

end Bus

end ChatChannel
