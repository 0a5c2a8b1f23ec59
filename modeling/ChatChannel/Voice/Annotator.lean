import ChatChannel.FileSystem
import ChatChannel.Text.Quoted
import ChatChannel.Voice.Transcript

/-!
# ChatChannel.Voice.Annotator

Notes on voice messages for readers of text: the transcription, or a placeholder that says why
there is none. Every file gets a note, and no note takes longer than the timeout.
-/

namespace ChatChannel.Voice

/-- A transcription service. One that is not configured is never asked. -/
structure Provider where
  id : String
  configured : Bool
  transcribe : Request → Reply

/-- Annotates voice messages by way of a service, if it has one. -/
structure Annotator where
  provider : Option Provider
  timeout : Duration

/-- A note, with the request that was made for it and the time that it took. -/
structure Annotation where
  text : String
  asked : Option Request
  waited : Duration
  deriving DecidableEq

/-- The note on a recording that no service transcribes. -/
def placeholder : String := "[voice]"

/-- The note on a recording whose transcription failed. -/
def failedPlaceholder : String := "[voice (transcription failed)]"

/-- The note on a transcribed recording. -/
def transcriptionNote (text : String) : String :=
  "[voice transcription: " ++ Text.trim text ++ "]"

/-- The longest time that an annotator waits unless it is told otherwise. -/
def usualTimeout : Duration := .ofSeconds 30

namespace Annotator

/-- An annotator without a service. -/
def silent : Annotator := ⟨none, usualTimeout⟩

/-- The service, if it is configured. -/
def ready? (a : Annotator) : Option Provider :=
  a.provider.filter fun p => p.configured

/-- The annotator has a service that is configured. -/
def isAvailable (a : Annotator) : Bool :=
  a.ready?.isSome

/-- The answer of a service within the timeout. -/
def await (timeout : Duration) (asked : Request) (reply : Reply) : Annotation :=
  let late : Annotation := ⟨failedPlaceholder, some asked, timeout⟩
  match reply.delay with
  | none => late
  | some delay =>
    if delay.millis ≤ timeout.millis then
      match reply.outcome with
      | .ok transcript => ⟨transcriptionNote transcript.text, some asked, delay⟩
      | .error _ => ⟨failedPlaceholder, some asked, delay⟩
    else late

/-- The note on a recording. The service is asked only about a file that can be read, and only if
there is time at all. -/
def annotate (a : Annotator) (fs : FileSystem) (path : String) : Annotation :=
  match a.ready? with
  | none => ⟨placeholder, none, ⟨0⟩⟩
  | some provider =>
    match fs.readFile path with
    | .error _ => ⟨failedPlaceholder, none, ⟨0⟩⟩
    | .ok audio =>
      if a.timeout.millis = 0 then ⟨failedPlaceholder, none, ⟨0⟩⟩
      else
        let asked : Request := ⟨audio, (AudioFormat.ofPath? path).getD .usual, none⟩
        await a.timeout asked (provider.transcribe asked)

/-- The annotator as it is shown to an operator. -/
def summary (a : Annotator) : String :=
  let provider := match a.provider with
    | none => "None"
    | some p => "Some(" ++ Text.quoted p.id ++ ")"
  "VoiceAnnotator \x7b provider: " ++ provider ++ ", timeout: " ++ a.timeout.text ++ " \x7d"

end Annotator

end ChatChannel.Voice
