import ChatChannel.Duration
import ChatChannel.Json.Decode
import ChatChannel.Path

/-!
# ChatChannel.Settings

Settings of a channel: how they are read and written, the paths they stand for, and the transport
they select. Settings that are not given have their usual value.
-/

namespace ChatChannel

open Text

/-- Delays of the bridge transport, in milliseconds. -/
structure BridgeTiming where
  handshakeTimeout : UInt64
  /-- The pause after a failed dial. -/
  idleBackoff : UInt64
  /-- The pause after a lost connection. -/
  errorBackoff : UInt64
  deriving DecidableEq, Repr

namespace BridgeTiming

/-- The usual delays. -/
def usual : BridgeTiming := ⟨10000, 1000, 2000⟩

/-- Takes one delay. -/
def put (name : String) (v : Json) (t : BridgeTiming) : Except DecodeError BridgeTiming :=
  if name = "handshake_timeout_ms" then
    v.asNatural.map fun handshakeTimeout => { t with handshakeTimeout }
  else if name = "idle_backoff_ms" then v.asNatural.map fun idleBackoff => { t with idleBackoff }
  else if name = "error_backoff_ms" then
    v.asNatural.map fun errorBackoff => { t with errorBackoff }
  else .ok t

/-- Reads delays. -/
def reader : RecordReader BridgeTiming where
  name := "BridgeOptions"
  fields := ["handshake_timeout_ms", "idle_backoff_ms", "error_backoff_ms"]
  needed := []
  reached := []
  start := .usual
  put := put

/-- The delays as JSON. -/
def toJson (t : BridgeTiming) : Json :=
  .obj [("handshake_timeout_ms", .num (.natural t.handshakeTimeout.toNat)),
    ("idle_backoff_ms", .num (.natural t.idleBackoff.toNat)),
    ("error_backoff_ms", .num (.natural t.errorBackoff.toNat))]

end BridgeTiming

/-- Settings of a channel. -/
structure Settings where
  enabled : Bool
  /-- The session store, where a tilde stands for the home directory. -/
  storePath : String
  /-- The URL of a bridge; one that is not blank selects the bridge transport. -/
  bridgeUrl : String
  allow : List String
  mediaDir : Option String
  pairingTimeoutSecs : UInt64
  bridge : BridgeTiming
  deriving DecidableEq, Repr

/-- What the machine provides: the home directory and the directory for temporary files. -/
structure Host where
  home : String
  temp : String
  deriving DecidableEq, Repr

/-- The ways of talking to the platform. -/
inductive Mode where
  | native
  | bridge
  deriving DecidableEq, Repr

/-- The name of a mode. -/
def Mode.name : Mode → String
  | .native => "native"
  | .bridge => "bridge"

/-- A path in which a tilde at the start stands for the home directory. -/
def expandHome (home path : String) : String :=
  match path.toList with
  | ['~'] => home
  | '~' :: '/' :: rest => Path.join home (String.ofList rest)
  | _ => path

namespace Settings

/-- The usual settings. -/
def usual : Settings := ⟨false, "", "", [], none, 180, .usual⟩

/-- Takes one setting. -/
def put (name : String) (v : Json) (c : Settings) : Except DecodeError Settings :=
  if name = "enabled" then v.asBool.map fun enabled => { c with enabled }
  else if name = "store_path" then v.asString.map fun storePath => { c with storePath }
  else if name = "bridge_url" then v.asString.map fun bridgeUrl => { c with bridgeUrl }
  else if name = "allow_from" then (v.asList Json.asString).map fun allow => { c with allow }
  else if name = "media_dir" then
    (v.asOption Json.asPath).map fun mediaDir => { c with mediaDir }
  else if name = "pairing_timeout_secs" then
    v.asNatural.map fun pairingTimeoutSecs => { c with pairingTimeoutSecs }
  else if name = "bridge" then (BridgeTiming.reader.read v).map fun bridge => { c with bridge }
  else .ok c

/-- Reads settings. -/
def reader : RecordReader Settings where
  name := "WhatsAppConfig"
  fields := ["enabled", "store_path", "bridge_url", "allow_from", "media_dir",
    "pairing_timeout_secs", "bridge"]
  needed := []
  reached := []
  start := .usual
  put := put

/-- The settings as JSON. -/
def toJson (c : Settings) : Json :=
  let mediaDir := match c.mediaDir with
    | none => Json.null
    | some dir => Json.str dir
  .obj [("enabled", .bool c.enabled), ("store_path", .str c.storePath),
    ("bridge_url", .str c.bridgeUrl), ("allow_from", .arr (c.allow.map .str)),
    ("media_dir", mediaDir),
    ("pairing_timeout_secs", .num (.natural c.pairingTimeoutSecs.toNat)),
    ("bridge", c.bridge.toJson)]

/-- The session store: where the settings say, or a file among the temporary ones. -/
def sessionStore (c : Settings) (host : Host) : String :=
  let path := trim c.storePath
  if path = "" then Path.join host.temp "wharf_whatsapp.db" else expandHome host.home path

/-- The directory for attachments that the host has by default. -/
def usualMediaDir (host : Host) : String :=
  Path.join host.temp "wharf_media"

/-- The directory for attachments. -/
def mediaDirectory (c : Settings) (host : Host) : String :=
  c.mediaDir.getD (usualMediaDir host)

/-- How long a pairing may take. -/
def pairingTimeout (c : Settings) : Duration :=
  .ofSeconds c.pairingTimeoutSecs.toNat

/-- The selected mode. -/
def mode (c : Settings) : Mode :=
  if trim c.bridgeUrl = "" then .native else .bridge

end Settings

end ChatChannel
