import ChatChannel.Json.Decode
import ChatChannel.Json.Printer
import ChatChannel.Json.Reader
import ChatChannel.Message

/-!
# ChatChannel.Frame

Frames exchanged with a bridge, and the messages they stand for. Only the sender of an inbound
frame must be well formed; other parts that are not are as good as missing.
-/

namespace ChatChannel

/-- The name of the channel. -/
def channelName : String := "whatsapp"

/-- An inbound message as a bridge reports it. -/
structure Frame where
  sender : String
  chat : Option String
  content : String
  media : List String
  id : Option String
  senderName : Option String
  deriving DecidableEq, Repr

namespace Frame

/-- A string, or nothing in place of any other value. -/
def textOrNone : Json → Option String
  | .str s => some s
  | _ => none

/-- The strings of an array; other items and other values do not count. -/
def texts : Json → List String
  | .arr items => items.filterMap textOrNone
  | _ => []

/-- Takes one field. -/
def put (name : String) (v : Json) (f : Frame) : Except DecodeError Frame :=
  if name = "from" then v.asString.map fun sender => { f with sender }
  else if name = "chat" then .ok { f with chat := textOrNone v }
  else if name = "content" then .ok { f with content := (textOrNone v).getD "" }
  else if name = "media" then .ok { f with media := texts v }
  else if name = "id" then .ok { f with id := textOrNone v }
  else if name = "from_name" then .ok { f with senderName := textOrNone v }
  else .ok f

/-- Reads a frame. -/
def reader : RecordReader Frame where
  name := "BridgeInboundMessage"
  fields := ["from", "chat", "content", "media", "id", "from_name"]
  needed := ["from"]
  reached := ["from"]
  start := ⟨"", none, "", [], none, none⟩
  put := put

/-- Puts a fact under a key, if it is known. -/
def setKnown (m : InboundMessage) (key : String) : Option String → InboundMessage
  | none => m
  | some value => m.setMeta key value

/-- The message that a frame stands for, unless it has no sender or nothing to forward. A chat that
is not named is the one with the sender. -/
def message? (f : Frame) : Option InboundMessage :=
  if f.sender = "" then none
  else
    let chat := (f.chat.filter (· ≠ "")).getD f.sender
    let m := { InboundMessage.new channelName f.sender chat with
      content := f.content, media := f.media }
    if m.isEmpty then none
    else
      some (setKnown (setKnown m Metadata.messageId f.id) Metadata.userName f.senderName)

/-- The frame type of chat messages in both directions. -/
def messageType : String := "message"

/-- The message that an inbound value stands for: an object of the right type that is a frame. -/
def ofValue? (v : Json) : Option InboundMessage :=
  match v with
  | .obj _ =>
    if (v.get? "type").bind textOrNone = some messageType then
      match reader.read v with
      | .ok f => f.message?
      | .error _ => none
    else none
  | _ => none

/-- The message that an inbound text stands for. -/
def ofText? (text : String) : Option InboundMessage :=
  (Json.parse text).bind ofValue?

/-- The message that inbound bytes stand for. -/
def ofBytes? (bytes : ByteArray) : Option InboundMessage :=
  (Text.decode? bytes).bind ofText?

/-- The text of an outbound frame. -/
def outbound (chat content : String) : String :=
  Json.text (.obj [("type", .str messageType), ("to", .str chat), ("content", .str content)])

end Frame

end ChatChannel
