import ChatChannel.Http.Status
import ChatChannel.Voice.Annotator

/-!
# ChatChannel.Voice.Groq

The Groq transcription service: the upload that a request turns into, and what its answers mean.
-/

namespace ChatChannel.Voice

/-- Settings of the service. -/
structure GroqSettings where
  apiKey : Option String
  model : Option String
  language : Option String
  baseUrl : Option String
  deriving DecidableEq, Repr

/-- Settings with nothing set. -/
def GroqSettings.unset : GroqSettings := ⟨none, none, none, none⟩

/-- A part of an uploaded form. -/
structure FormPart where
  name : String
  fileName : Option String
  mediaType : Option String
  content : ByteArray
  deriving DecidableEq

/-- A form part that holds a text. -/
def FormPart.ofText (name value : String) : FormPart :=
  ⟨name, none, none, value.toUTF8⟩

/-- A form that is sent to an endpoint. -/
structure Upload where
  url : String
  authorization : String
  parts : List FormPart
  deriving DecidableEq

/-- What comes of an upload: no answer at all, or a status and a body. -/
inductive Exchange where
  | failed
  | answered (status : Nat) (body : ByteArray)
  deriving DecidableEq

/-- Why the service gave no transcript. -/
inductive GroqError where
  | noKey
  | requestFailed
  | rejected (status : Nat) (body : String)
  | badAnswer
  deriving DecidableEq, Repr

/-- The text of an error. -/
def GroqError.message : GroqError → String
  | .noKey => "groq api key not configured"
  | .requestFailed => "groq transcription request failed"
  | .rejected status body =>
    "groq transcription rejected with " ++ Http.statusText status ++ ": " ++ Text.trim body
  | .badAnswer => "unexpected groq transcription response"

namespace GroqSettings

/-- The URL of the service, unless another one is set. -/
def usualBaseUrl : String := "https://api.groq.com/openai/v1"

/-- The model that transcribes, unless another one is set. -/
def usualModel : String := "whisper-large-v3-turbo"

/-- The place that uploads go to. Slashes at the end of the base URL do not count. -/
def endpoint (c : GroqSettings) : String :=
  let base := (c.baseUrl.getD usualBaseUrl).toList
  String.ofList (base.reverse.dropWhile (· = '/')).reverse ++ "/audio/transcriptions"

/-- The parts of the form. The language of the request counts before the one of the settings. -/
def parts (c : GroqSettings) (r : Request) : List FormPart :=
  let file : FormPart :=
    ⟨"file", some ("voice." ++ r.format.extension), some r.format.mediaType, r.audio⟩
  let language := match r.language <|> c.language with
    | none => []
    | some language => [FormPart.ofText "language" language]
  [file, .ofText "model" (c.model.getD usualModel), .ofText "response_format" "verbose_json"]
    ++ language

/-- The upload for a request. Without a key there is none. -/
def upload? (c : GroqSettings) (r : Request) : Option Upload :=
  c.apiKey.map fun key => ⟨c.endpoint, "Bearer " ++ key, c.parts r⟩

/-- What the end of an upload means. -/
def conclude : Exchange → Except GroqError Transcript
  | .failed => .error .requestFailed
  | .answered status body =>
    if Http.isSuccess status then
      match Transcript.ofAnswer? body with
      | some transcript => .ok transcript
      | none => .error .badAnswer
    else .error (.rejected status (Text.decodeLossy body))

/-- Transcribes a recording. Gives the result and the uploads that were made, of which `serve` says
what came. -/
def transcribe (c : GroqSettings) (serve : Upload → Exchange) (r : Request) :
    Except GroqError Transcript × List Upload :=
  match c.upload? r with
  | none => (.error .noKey, [])
  | some upload => (conclude (serve upload), [upload])

/-- The service behind an annotator; `latency` is how long its uploads take. -/
def provider (c : GroqSettings) (serve : Upload → Exchange) (latency : Upload → Option Duration) :
    Provider where
  id := "groq"
  configured := c.apiKey.isSome
  transcribe r :=
    { outcome := (c.transcribe serve r).1.mapError GroqError.message
      delay := match c.upload? r with
        | none => some ⟨0⟩
        | some upload => latency upload }

end GroqSettings

/-- The name of the service for an operator. -/
def groqName : String := "Groq"

end ChatChannel.Voice
