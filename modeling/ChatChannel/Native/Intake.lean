import ChatChannel.Bus
import ChatChannel.Frame
import ChatChannel.Media.Extension
import ChatChannel.Media.Folder
import ChatChannel.Native.Event
import ChatChannel.Voice.Annotator

/-!
# ChatChannel.Native.Intake

Turning a reported message into one for the bus. The parts of the message become lines of its
content in a fixed order, and attachments become files that a guard removes after delivery. A
message of which nothing is left is dropped.
-/

namespace ChatChannel.Native

/-- The attachments that are downloaded. -/
inductive AttachmentKind where
  | image
  | video
  | document
  | audio
  deriving DecidableEq, Repr

/-- What comes of a download: what is fetched, the identifier that names the file, and what the
disk refuses. -/
structure Attempt where
  fetched : Except String ByteArray
  id : Media.FileId
  trouble : Media.Trouble

/-- What turns messages into messages for the bus: a folder for attachments, and notes on voice
messages. -/
structure Intake where
  folder : Media.Folder
  annotator : Voice.Annotator

/-- A message on its way to the bus, and what has been done for it. -/
structure Draft where
  message : InboundMessage
  /-- The files of the message. -/
  media : Media.Transient
  fs : FileSystem
  /-- The downloads that were asked for. -/
  fetches : List Attachment
  /-- The transcriptions that were asked for. -/
  asked : List Voice.Request
  /-- The time that this took. -/
  waited : Duration
  deriving DecidableEq

namespace Draft

/-- Adds a line to the content. -/
def append (d : Draft) (line : String) : Draft :=
  { d with message := d.message.addLine line }

/-- Adds a line that may be missing. -/
def appendCaption (d : Draft) (caption : Option String) : Draft :=
  d.append (caption.getD "")

/-- Adds a saved file to the message and to the guard. -/
def addFile (d : Draft) (path : String) : Draft :=
  { d with
    message := { d.message with media := d.message.media ++ [path] }
    media := d.media.track path }

/-- Adds the note on a voice message. -/
def addNote (d : Draft) (note : Voice.Annotation) : Draft :=
  { d.append note.text with
    asked := d.asked ++ note.asked.toList
    waited := ⟨d.waited.millis + note.waited.millis⟩ }

end Draft

/-- The note on a sticker, which is not downloaded. -/
def stickerNote : String := "[sticker]"

/-- What the names of attachment files begin with. -/
def mediaStem : String := "wa_"

/-- The extension of an image. -/
def imageExtension (a : Attachment) : String :=
  Media.declaredExtension a.mediaType ".jpg"

/-- The extension of a video. -/
def videoExtension (a : Attachment) : String :=
  Media.declaredExtension a.mediaType ".mp4"

/-- The extension of a document, which goes by its name. -/
def documentExtension (a : Attachment) : String :=
  Media.extensionOfName a.fileName

/-- The extension of a recording. -/
def audioExtension (a : Attachment) : String :=
  Media.declaredExtension a.mediaType ".ogg"

namespace Content

/-- The attachment of a kind. -/
def attachment? (c : Content) : AttachmentKind → Option Attachment
  | .image => c.image
  | .video => c.video
  | .document => c.document
  | .audio => c.audio

/-- The first text that is not empty. -/
def text (c : Content) : String :=
  match c.conversation.filter (· ≠ "") with
  | some text => text
  | none => (c.extendedText.filter (· ≠ "")).getD ""

end Content

namespace Intake

/-- Downloads an attachment and saves it as a file of the message. Gives the path, unless something
failed. -/
def attach (n : Intake) (attempt : Attempt) (a : Attachment) (extension : String) (d : Draft) :
    Option String × Draft :=
  let d := { d with fetches := d.fetches ++ [a] }
  match n.folder.download d.fs attempt.trouble attempt.id attempt.fetched extension with
  | (none, fs) => (none, { d with fs })
  | (some path, fs) => (some path, { d with fs }.addFile path)

/-- Takes in an attachment that may have a caption. The caption counts even if the download
fails. -/
def addCaptioned (n : Intake) (attempt : Attempt) (extension : Attachment → String)
    (attachment : Option Attachment) (d : Draft) : Draft :=
  match attachment with
  | none => d
  | some a => (n.attach attempt a (extension a) d).2.appendCaption a.caption

/-- Takes in a recording, with a note on it if it could be saved. -/
def addAudio (n : Intake) (attempt : Attempt) (attachment : Option Attachment) (d : Draft) :
    Draft :=
  match attachment with
  | none => d
  | some a =>
    match n.attach attempt a (audioExtension a) d with
    | (none, d) => d
    | (some path, d) => d.addNote (n.annotator.annotate d.fs path)

/-- Takes in a sticker. -/
def addSticker (sticker : Option Attachment) (d : Draft) : Draft :=
  match sticker with
  | none => d
  | some _ => d.append stickerNote

/-- The parts of a message, in the order in which they count. -/
def collect (n : Intake) (attempts : AttachmentKind → Attempt) (fs : FileSystem) (m : Message) :
    Draft :=
  let blank : Draft :=
    { message := InboundMessage.new channelName m.info.sender.text m.info.chat.text
      media := .empty, fs, fetches := [], asked := [], waited := ⟨0⟩ }
  let c := m.content
  addSticker c.sticker
    (n.addAudio (attempts .audio) c.audio
      (n.addCaptioned (attempts .document) documentExtension c.document
        (n.addCaptioned (attempts .video) videoExtension c.video
          (n.addCaptioned (attempts .image) imageExtension c.image
            { blank with message := { blank.message with content := c.text } }))))

/-- Adds the facts about a message. -/
def addFacts (info : Envelope) (m : InboundMessage) : InboundMessage :=
  let m := (m.setMeta Metadata.messageId info.id).setMeta Metadata.senderAddress info.sender.text
  let m := if info.pushName = "" then m else m.setMeta Metadata.userName info.pushName
  if info.fromGroup then m.setMeta Metadata.isGroup "true" else m

/-- Turns a message into one for the bus. If nothing is left of it, there is no message, and its
files are gone. -/
def takeIn (n : Intake) (attempts : AttachmentKind → Attempt) (fs : FileSystem) (m : Message) :
    Option InboundMessage × Draft :=
  let d := n.collect attempts fs m
  if d.message.isEmpty then (none, { d with media := .empty, fs := d.media.release d.fs })
  else
    let message := addFacts m.info d.message
    (some message, { d with message })

end Intake

/-- A message is for the bus: it comes from another account, and not through a broadcast list.
`own` is the address of the paired account, if there is one. -/
def Message.isForeign (own : Option Address) (m : Message) : Bool :=
  let fromOwn := match own with
    | none => false
    | some a => a.account = m.info.sender.account
  !(m.info.fromMe || fromOwn || m.info.chat.isBroadcast)

/-- What the files at these paths hold; a file that cannot be read holds nothing. -/
def contents (fs : FileSystem) (paths : List String) : List (Option ByteArray) :=
  paths.map fun path => (fs.readFile path).toOption

end ChatChannel.Native
