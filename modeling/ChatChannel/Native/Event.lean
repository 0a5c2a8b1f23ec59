import ChatChannel.Address
import ChatChannel.Text.Utf8

/-!
# ChatChannel.Native.Event

What the platform's client reports: messages with their attachments, changes of the connection, and
the progress of a pairing.
-/

namespace ChatChannel.Native

/-- The envelope of a message. -/
structure Envelope where
  id : String
  chat : Address
  sender : Address
  /-- The account itself sent the message from another device. -/
  fromMe : Bool
  fromGroup : Bool
  /-- The name that the sender goes by, empty if it is not known. -/
  pushName : String
  deriving DecidableEq, Repr

/-- An attachment that can be downloaded. -/
structure Attachment where
  caption : Option String
  fileName : Option String
  mediaType : Option String
  directPath : String
  mediaKey : ByteArray
  fileLength : UInt64
  /-- The attachment is a recorded voice note. -/
  voiceNote : Bool
  deriving DecidableEq

/-- The parts of a message; any of them may be there. -/
structure Content where
  conversation : Option String
  extendedText : Option String
  image : Option Attachment
  video : Option Attachment
  document : Option Attachment
  audio : Option Attachment
  sticker : Option Attachment
  deriving DecidableEq

/-- A message as the client reports it. -/
structure Message where
  info : Envelope
  content : Content
  deriving DecidableEq

/-- What the client reports. -/
inductive Event where
  | message (m : Message)
  | connected
  | disconnected
  | loggedOut (reason : String)
  /-- Old messages, replayed after connecting. -/
  | history (messages : List Message)
  deriving DecidableEq

/-- The progress of a pairing. -/
inductive PairingEvent where
  /-- A code for the operator to scan. -/
  | code (text : String)
  | success
  | timeout
  | error (reason : String)
  deriving DecidableEq, Repr

end ChatChannel.Native
