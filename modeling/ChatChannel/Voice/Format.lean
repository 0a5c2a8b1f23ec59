import ChatChannel.Json.Decode
import ChatChannel.Path
import ChatChannel.Text.Lowercase

/-!
# ChatChannel.Voice.Format

Formats of voice recordings, with their names, media types and file extensions.
-/

namespace ChatChannel.Voice

/-- The container or codec of a recording. -/
inductive AudioFormat where
  | opus
  | mp3
  | m4a
  | aac
  | wav
  deriving DecidableEq, Repr

namespace AudioFormat

/-- The name of a format. -/
def name : AudioFormat → String
  | .opus => "opus"
  | .mp3 => "mp3"
  | .m4a => "m4a"
  | .aac => "aac"
  | .wav => "wav"

/-- All formats. -/
def all : List AudioFormat :=
  [.opus, .mp3, .m4a, .aac, .wav]

/-- The format of recordings about which nothing is known. -/
def usual : AudioFormat := .opus

/-- The media type of a format. -/
def mediaType : AudioFormat → String
  | .opus => "audio/ogg"
  | .mp3 => "audio/mpeg"
  | .m4a => "audio/mp4"
  | .aac => "audio/aac"
  | .wav => "audio/wav"

/-- The file extension of a format, without a dot. -/
def extension : AudioFormat → String
  | .opus => "ogg"
  | .mp3 => "mp3"
  | .m4a => "m4a"
  | .aac => "aac"
  | .wav => "wav"

/-- The extensions by which a format is recognised. -/
def extensionTable : List (String × AudioFormat) :=
  [("ogg", .opus), ("oga", .opus), ("opus", .opus), ("mp3", .mp3), ("m4a", .m4a), ("mp4", .m4a),
   ("aac", .aac), ("wav", .wav)]

/-- The format that the extension of a path stands for. -/
def ofPath? (path : String) : Option AudioFormat :=
  match Path.extension? path with
  | none => none
  | some ext => extensionTable.lookup (Text.asciiLower (String.ofList ext))

/-- Reads a format given by name. -/
def decode : Json → Except DecodeError AudioFormat :=
  Json.asVariant (all.map fun f => (f.name, f))

end AudioFormat

end ChatChannel.Voice
