import ChatChannel.Json.Decode
import ChatChannel.Message

/-!
# ChatChannel.Message.Decode

Messages of the bus read from JSON.
-/

namespace ChatChannel

namespace InboundMessage

/-- Takes one field. -/
def put (name : String) (v : Json) (m : InboundMessage) : Except DecodeError InboundMessage :=
  if name = "channel" then v.asString.map fun channel => { m with channel }
  else if name = "sender_id" then v.asString.map fun sender => { m with sender }
  else if name = "chat_id" then v.asString.map fun chat => { m with chat }
  else if name = "content" then v.asString.map fun content => { m with content }
  else if name = "media_paths" then (v.asList Json.asPath).map fun media => { m with media }
  else if name = "session_key" then v.asString.map fun session => { m with session }
  else if name = "metadata" then
    (v.asTable Json.asString).map fun metadata => { m with metadata }
  else .ok m

/-- Reads a message. Attachments and metadata may be missing. -/
def reader : RecordReader InboundMessage where
  name := "InboundMessage"
  fields := ["channel", "sender_id", "chat_id", "content", "media_paths", "session_key",
    "metadata"]
  needed := ["channel", "sender_id", "chat_id", "content", "session_key"]
  reached := ["channel", "sender_id", "chat_id", "content", "session_key"]
  start := ⟨"", "", "", "", [], "", []⟩
  put := put

end InboundMessage

namespace OutboundMessage

/-- Takes one field. -/
def put (name : String) (v : Json) (m : OutboundMessage) : Except DecodeError OutboundMessage :=
  if name = "channel" then v.asString.map fun channel => { m with channel }
  else if name = "chat_id" then v.asString.map fun chat => { m with chat }
  else if name = "content" then v.asString.map fun content => { m with content }
  else .ok m

/-- Reads a message. -/
def reader : RecordReader OutboundMessage where
  name := "OutboundMessage"
  fields := ["channel", "chat_id", "content"]
  needed := ["channel", "chat_id", "content"]
  reached := ["channel", "chat_id", "content"]
  start := ⟨"", "", ""⟩
  put := put

end OutboundMessage

end ChatChannel
