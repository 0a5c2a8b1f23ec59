import ChatChannel.Duration
import ChatChannel.Json.Skim
import ChatChannel.Voice.Format

/-!
# ChatChannel.Voice.Transcript

What is asked of a transcription service, and what it answers.
-/

namespace ChatChannel.Voice

open Number

/-- A recording to be transcribed, with the language if it is known. -/
structure Request where
  audio : ByteArray
  format : AudioFormat
  language : Option String
  deriving DecidableEq

/-- A transcribed recording. -/
structure Transcript where
  text : String
  language : Option String
  /-- The length of the recording in seconds. -/
  duration : Option Real32
  deriving DecidableEq, Repr

namespace Transcript

/-- Takes a field of a transcript; `duration` is the name of the field for the length. -/
def put (duration name : String) (v : Json) (t : Transcript) : Except DecodeError Transcript :=
  if name = "text" then v.asString.map fun text => { t with text }
  else if name = "language" then
    (v.asOption Json.asString).map fun language => { t with language }
  else if name = duration then
    (v.asOption Json.asReal32).map fun duration => { t with duration }
  else .ok t

/-- A transcript about which nothing is known. -/
def blank : Transcript := ⟨"", none, none⟩

/-- Transcripts as they are kept. Only the text is needed, but arrays have all three fields. -/
def reader : RecordReader Transcript where
  name := "Transcript"
  fields := ["text", "language", "duration_seconds"]
  needed := ["text"]
  reached := ["text", "language", "duration_seconds"]
  start := blank
  put := put "duration_seconds"

/-- Transcripts as services send them. -/
def answerReader : RecordReader Transcript where
  name := "TranscriptionBody"
  fields := ["text", "language", "duration"]
  needed := ["text"]
  reached := ["text"]
  start := blank
  put := put "duration"

/-- A member named in a list occurs twice among members. -/
def repeats (names : List String) : List (String × Json) → Bool
  | [] => false
  | (k, _) :: rest => (names.contains k && rest.any fun m => m.1 = k) || repeats names rest

/-- Reads the answer of a service: one JSON value that is a transcript and gives no field twice.
Members that are no field are passed over, without a look at what their values say. -/
def ofAnswer? (body : ByteArray) : Option Transcript := do
  let v ← Json.skim answerReader.fields body
  match v with
  | .obj members =>
    if repeats answerReader.fields members then none else (answerReader.read v).toOption
  | v => (answerReader.read v).toOption

end Transcript

/-- What a transcription service does with one request: a transcript or an error text, after some
time; without a delay it never answers. -/
structure Reply where
  outcome : Except String Transcript
  delay : Option Duration

end ChatChannel.Voice
