import ChatChannel.Bridge.Lifecycle
import ChatChannel.Native.Lifecycle

/-!
# ChatChannel.Channel

Building a channel from its settings. The settings select the transport once and for all, and the
channel is refused if they cannot make a working one.
-/

namespace ChatChannel

/-- The transport of a channel, set up. -/
inductive Channel where
  | native (setup : Native.Setup)
  | bridge (setup : Bridge.Setup)

namespace Channel

/-- The mode of a channel. -/
def mode : Channel → Mode
  | .native _ => .native
  | .bridge _ => .bridge

/-- A text begins with another one. -/
def beginsWith (start text : String) : Bool :=
  (Gate.afterStart start.toList text.toList).isSome

/-- Builds a channel. The native transport needs a client for the platform, and a bridge must have a
WebSocket URL. -/
def build (c : Settings) (host : Host) (hasClient : Bool) (annotator : Voice.Annotator) :
    Except ChannelError Channel :=
  match c.mode with
  | .native =>
    if hasClient then
      .ok (.native
        { storePath := c.sessionStore host
          pairingTimeout := c.pairingTimeout
          intake := ⟨⟨c.mediaDirectory host, Native.mediaStem⟩, annotator⟩ })
    else
      .error (.invalidConfig
        "native mode needs a protocol backend; set bridge_url to use a bridge")
  | .bridge =>
    let url := Text.trim c.bridgeUrl
    if beginsWith "ws://" url || beginsWith "wss://" url then .ok (.bridge ⟨url, c.bridge⟩)
    else
      .error (.invalidConfig
        ("bridge_url must be a ws:// or wss:// URL, got " ++ Text.quoted url))

/-- The bus of a channel that is not running yet. -/
def bus (c : Settings) : Bus :=
  .new channelName c.allow

end Channel

end ChatChannel
