import ChatChannel.Path
import ChatChannel.Text.Lowercase

/-!
# ChatChannel.Media.Extension

The extension under which an attachment is saved, with its dot: from the declared media type, or
from the declared file name.
-/

namespace ChatChannel.Media

open Text

/-- The extensions of the media types that are known. -/
def extensionTable : List (String × String) :=
  [("image/jpeg", ".jpg"), ("image/jpg", ".jpg"), ("image/png", ".png"), ("image/webp", ".webp"),
   ("image/gif", ".gif"), ("video/mp4", ".mp4"), ("video/3gpp", ".3gp"),
   ("video/quicktime", ".mov"), ("audio/ogg", ".ogg"), ("audio/opus", ".ogg"),
   ("audio/mpeg", ".mp3"), ("audio/mp3", ".mp3"), ("audio/mp4", ".m4a"), ("audio/m4a", ".m4a"),
   ("audio/x-m4a", ".m4a"), ("audio/aac", ".aac"), ("audio/wav", ".wav"), ("audio/x-wav", ".wav"),
   ("application/pdf", ".pdf")]

/-- A media type as it is compared: without its parameters, without blanks around it, and with
ASCII letters in lower case. -/
def essence (mediaType : String) : String :=
  asciiLower (trim (String.ofList (mediaType.toList.takeWhile (· ≠ ';'))))

/-- The extension of a media type, if it is known. -/
def extensionOf? (mediaType : String) : Option String :=
  extensionTable.lookup (essence mediaType)

/-- The extension of the declared media type, or else a fallback. -/
def declaredExtension (mediaType : Option String) (fallback : String) : String :=
  (mediaType.bind extensionOf?).getD fallback

/-- The extension of attachments whose type cannot be determined. -/
def untypedExtension : String := ".bin"

/-- The extension of a declared file name, or the one of binary files if it has none. -/
def extensionOfName (name : Option String) : String :=
  match name.bind Path.extension? with
  | none => untypedExtension
  | some [] => untypedExtension
  | some ext => String.ofList ('.' :: ext)

end ChatChannel.Media
