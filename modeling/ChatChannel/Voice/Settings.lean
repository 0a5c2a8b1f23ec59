import ChatChannel.Voice.Groq

/-!
# ChatChannel.Voice.Settings

Settings for transcription: how they are read, written and shown. Settings that are not given have
their usual value. The key is written out, but never shown.
-/

namespace ChatChannel.Voice

open Text

namespace GroqSettings

/-- Takes one setting. -/
def put (name : String) (v : Json) (c : GroqSettings) : Except DecodeError GroqSettings :=
  if name = "api_key" then
    (v.asOption Json.asString).map fun apiKey => { c with apiKey }
  else if name = "model" then
    (v.asOption Json.asString).map fun model => { c with model }
  else if name = "language" then
    (v.asOption Json.asString).map fun language => { c with language }
  else if name = "base_url" then
    (v.asOption Json.asString).map fun baseUrl => { c with baseUrl }
  else .ok c

/-- Reads settings. -/
def reader : RecordReader GroqSettings where
  name := "GroqSttConfig"
  fields := ["api_key", "model", "language", "base_url"]
  needed := []
  reached := []
  start := .unset
  put := put

/-- A text or null. -/
def optionalText : Option String → Json
  | none => .null
  | some s => .str s

/-- The settings as JSON. A missing key is left out. -/
def toJson (c : GroqSettings) : Json :=
  let key := match c.apiKey with
    | none => []
    | some key => [("api_key", Json.str key)]
  .obj (key ++ [("model", optionalText c.model), ("language", optionalText c.language),
    ("base_url", optionalText c.baseUrl)])

/-- An optional text as it is shown. -/
def shownText : Option String → String
  | none => "None"
  | some s => "Some(" ++ quoted s ++ ")"

/-- The settings as they are shown. -/
def summary (c : GroqSettings) : String :=
  let key := match c.apiKey with
    | none => "None"
    | some _ => "Some(Secret([REDACTED alloc::string::String]))"
  "GroqSttConfig \x7b api_key: " ++ key ++ ", model: " ++ shownText c.model ++ ", language: "
    ++ shownText c.language ++ ", base_url: " ++ shownText c.baseUrl ++ " \x7d"

end GroqSettings

/-- Settings for transcription. -/
structure Settings where
  enabled : Bool
  /-- The name of the service. -/
  provider : String
  timeoutSecs : UInt64
  groq : GroqSettings
  deriving DecidableEq, Repr

namespace Settings

/-- The usual settings: no transcription. -/
def usual : Settings := ⟨false, "groq", 30, .unset⟩

/-- Takes one setting. -/
def put (name : String) (v : Json) (c : Settings) : Except DecodeError Settings :=
  if name = "enabled" then v.asBool.map fun enabled => { c with enabled }
  else if name = "provider" then v.asString.map fun provider => { c with provider }
  else if name = "timeout_secs" then v.asNatural.map fun timeoutSecs => { c with timeoutSecs }
  else if name = "groq" then (GroqSettings.reader.read v).map fun groq => { c with groq }
  else .ok c

/-- Reads settings. -/
def reader : RecordReader Settings where
  name := "SttConfig"
  fields := ["enabled", "provider", "timeout_secs", "groq"]
  needed := []
  reached := []
  start := .usual
  put := put

/-- The settings as JSON. -/
def toJson (c : Settings) : Json :=
  .obj [("enabled", .bool c.enabled), ("provider", .str c.provider),
    ("timeout_secs", .num (.natural c.timeoutSecs.toNat)), ("groq", c.groq.toJson)]

/-- The settings as they are shown. -/
def summary (c : Settings) : String :=
  "SttConfig \x7b enabled: " ++ (if c.enabled then "true" else "false") ++ ", provider: "
    ++ quoted c.provider ++ ", timeout_secs: " ++ toString c.timeoutSecs.toNat ++ ", groq: "
    ++ c.groq.summary ++ " \x7d"

/-- The settings of the service that is to be asked: transcription is on, and the service is
known. -/
def selected? (c : Settings) : Option GroqSettings :=
  if c.enabled && c.provider = "groq" then some c.groq else none

/-- The annotator that these settings describe. -/
def annotator (c : Settings) (serve : Upload → Exchange) (latency : Upload → Option Duration) :
    Annotator :=
  { provider := c.selected?.map fun groq => groq.provider serve latency
    timeout := .ofSeconds c.timeoutSecs.toNat }

end Settings

end ChatChannel.Voice
