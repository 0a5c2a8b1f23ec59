/-!
# ChatChannel.Message

The messages that a channel exchanges with the message bus.
-/

namespace ChatChannel

/-- Facts about a message, by key; a key occurs once. -/
abbrev Metadata := List (String × String)

namespace Metadata

/-- Key of the platform's message identifier. -/
def messageId : String := "message_id"

/-- Key of the sender's full address. -/
def senderAddress : String := "sender_jid"

/-- Key of the sender's display name. -/
def userName : String := "user_name"

/-- Key that marks messages from group chats. -/
def isGroup : String := "is_group"

/-- The value under a key. -/
def get? (m : Metadata) (key : String) : Option String :=
  (m.find? fun e => e.1 = key).map (·.2)

/-- Puts a value under a key, in place of the one that is there. -/
def set (key value : String) : Metadata → Metadata
  | [] => [(key, value)]
  | e :: rest => if e.1 = key then (key, value) :: rest else e :: set key value rest

end Metadata

/-- A message from a chat, whatever transport it came by. -/
structure InboundMessage where
  channel : String
  sender : String
  chat : String
  content : String
  media : List String
  session : String
  metadata : Metadata
  deriving DecidableEq, Repr

namespace InboundMessage

/-- An empty message of a chat. The session is the channel and the chat. -/
def new (channel sender chat : String) : InboundMessage :=
  { channel, sender, chat, content := "", media := [], session := channel ++ ":" ++ chat,
    metadata := [] }

/-- Neither text nor attachments: nothing to forward. -/
def isEmpty (m : InboundMessage) : Bool :=
  m.content = "" && m.media = []

/-- Two texts on lines of their own; an empty one takes no line. -/
def joinLine (content suffix : String) : String :=
  if suffix = "" then content
  else if content = "" then suffix
  else content ++ "\n" ++ suffix

/-- Adds a line to the content, unless it is empty. -/
def addLine (m : InboundMessage) (suffix : String) : InboundMessage :=
  { m with content := joinLine m.content suffix }

/-- Records a fact about the message. -/
def setMeta (m : InboundMessage) (key value : String) : InboundMessage :=
  { m with metadata := Metadata.set key value m.metadata }

/-- The platform's identifier of the message. -/
def messageId? (m : InboundMessage) : Option String :=
  m.metadata.get? Metadata.messageId

end InboundMessage

/-- A text on its way to a chat. -/
structure OutboundMessage where
  channel : String
  chat : String
  content : String
  deriving DecidableEq, Repr

/-- At most `limit` characters of a text, with three dots if that is not all of it. -/
def shorten (limit : Nat) (text : String) : String :=
  match text.toList.drop limit with
  | [] => text
  | _ :: _ => String.ofList (text.toList.take limit) ++ "..."

end ChatChannel
