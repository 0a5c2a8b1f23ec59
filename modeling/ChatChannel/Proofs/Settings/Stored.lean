import ChatChannel.Proofs.Json.Records
import ChatChannel.Settings
import ChatChannel.Voice.Settings

/-!
# ChatChannel.Proofs.Settings.Stored

Settings read back from what was written of them. Every setting is read as it was written, and one
that was left out, there or in the object nested in it, has its usual value
(`stored_settings_read_back`).
-/

namespace ChatChannel

open Json

/-! ## Values of settings -/

section

variable {α : Type} {r : RecordReader α} {f : FieldCopy α} {c : α} {name : String} {v : Json}

theorem gives_of_put (hv : v.canonical = v) (h : ∀ a, r.put name v a = .ok (f.copy {name} c a)) :
    Gives r f c (name, v) := by
  intro a
  rw [hv]
  exact ⟨h a, h a⟩

end

theorem asNatural_toNat (n : UInt64) : asNatural (.num (.natural n.toNat)) = .ok n := by
  rw [asNatural, UInt64.ofNat_toNat]

theorem asList_str (texts : List String) :
    asList asString (.arr (texts.map .str)) = .ok texts := by
  rw [asList]
  induction texts with
  | nil => rfl
  | cons s rest ih => rw [List.map_cons, List.mapM_cons, ih]; rfl

theorem canonical_texts (texts : List String) :
    canonical (.arr (texts.map .str)) = .arr (texts.map .str) := by
  rw [canonical]
  refine congrArg _ (canonicalItems_of_forall fun v hv => ?_)
  obtain ⟨s, -, rfl⟩ := List.mem_map.1 hv
  rfl

theorem readable_toNat {depth : Nat} (n : UInt64) : Readable depth (.num (.natural n.toNat)) :=
  .natural n.toNat_lt

/-! ## Delays of the bridge -/

namespace BridgeTiming

def copied : FieldCopy BridgeTiming where
  copy names c a :=
    { handshakeTimeout :=
        if "handshake_timeout_ms" ∈ names then c.handshakeTimeout else a.handshakeTimeout
      idleBackoff := if "idle_backoff_ms" ∈ names then c.idleBackoff else a.idleBackoff
      errorBackoff := if "error_backoff_ms" ∈ names then c.errorBackoff else a.errorBackoff }
  copy_empty c a := by simp only [Finset.notMem_empty, if_false]
  copy_copy names more c a := by simp only [Finset.mem_union, ite_or]

/-- Delays with the usual values for those of these names. -/
def reset (gone : Finset String) (t : BridgeTiming) : BridgeTiming :=
  copied.copy gone .usual t

variable (t : BridgeTiming)

def members : List (String × Json) :=
  [("handshake_timeout_ms", .num (.natural t.handshakeTimeout.toNat)),
    ("idle_backoff_ms", .num (.natural t.idleBackoff.toNat)),
    ("error_backoff_ms", .num (.natural t.errorBackoff.toNat))]

theorem toJson_eq : t.toJson = .obj t.members :=
  rfl

theorem gives_members : ∀ m ∈ t.members, Gives reader copied t m := by
  simp only [members, List.forall_mem_cons]
  refine ⟨?_, ?_, ?_, nofun⟩ <;> refine gives_of_put rfl fun a => ?_
  all_goals simp [reader, put, copied, asNatural_toNat, Except.map]

theorem copy_given (gone : Finset String) :
    copied.copy ((names t.members).toFinset \ gone) t .usual = t.reset gone := by
  simp [copied, reset, names, members]

theorem readsAs_without (gone : Finset String) :
    ReadsAs reader (t.toJson.without gone) (t.reset gone) := by
  rw [toJson_eq, ← copy_given]
  exact ChatChannel.readsAs_without rfl t.gives_members gone

theorem readable (depth : Nat) : Readable (depth + 1) t.toJson := by
  refine .obj ?_
  simp only [List.forall_mem_cons]
  exact ⟨readable_toNat _, readable_toNat _, readable_toNat _, nofun⟩

end BridgeTiming

/-! ## Settings of the channel -/

namespace Settings

def copied : FieldCopy Settings where
  copy names c a :=
    { enabled := if "enabled" ∈ names then c.enabled else a.enabled
      storePath := if "store_path" ∈ names then c.storePath else a.storePath
      bridgeUrl := if "bridge_url" ∈ names then c.bridgeUrl else a.bridgeUrl
      allow := if "allow_from" ∈ names then c.allow else a.allow
      mediaDir := if "media_dir" ∈ names then c.mediaDir else a.mediaDir
      pairingTimeoutSecs :=
        if "pairing_timeout_secs" ∈ names then c.pairingTimeoutSecs else a.pairingTimeoutSecs
      bridge := if "bridge" ∈ names then c.bridge else a.bridge }
  copy_empty c a := by simp only [Finset.notMem_empty, if_false]
  copy_copy names more c a := by simp only [Finset.mem_union, ite_or]

/-- Settings with the usual values for those named in `outer`, and for delays named in `inner`. -/
def reset (outer inner : Finset String) (c : Settings) : Settings :=
  copied.copy outer .usual { c with bridge := c.bridge.reset inner }

variable (c : Settings) {bridge : Json}

/-- The members that settings are written as, with what is written of the delays. -/
def members (bridge : Json) : List (String × Json) :=
  [("enabled", .bool c.enabled), ("store_path", .str c.storePath),
    ("bridge_url", .str c.bridgeUrl), ("allow_from", .arr (c.allow.map .str)),
    ("media_dir", match c.mediaDir with
      | none => .null
      | some dir => .str dir),
    ("pairing_timeout_secs", .num (.natural c.pairingTimeoutSecs.toNat)), ("bridge", bridge)]

theorem toJson_eq : c.toJson = .obj (c.members c.bridge.toJson) :=
  rfl

theorem gives_members (h : ReadsAs BridgeTiming.reader bridge c.bridge) :
    ∀ m ∈ c.members bridge, Gives reader copied c m := by
  simp only [members, List.forall_mem_cons]
  refine ⟨gives_of_put rfl fun a => ?_, gives_of_put rfl fun a => ?_,
    gives_of_put rfl fun a => ?_, gives_of_put (canonical_texts _) fun a => ?_,
    gives_of_put ?_ fun a => ?_, gives_of_put rfl fun a => ?_, fun a => ⟨?_, ?_⟩, nofun⟩
  · simp [reader, put, copied, asBool, Except.map]
  · simp [reader, put, copied, asString, Except.map]
  · simp [reader, put, copied, asString, Except.map]
  · simp [reader, put, copied, asList_str, Except.map]
  · cases c.mediaDir <;> rfl
  · cases hdir : c.mediaDir <;> simp [reader, put, copied, asOption, asPath, Except.map, hdir]
  · simp [reader, put, copied, asNatural_toNat, Except.map]
  · simp [reader, put, copied, h.1, Except.map]
  · simp [reader, put, copied, h.2, Except.map]

theorem copy_given (gone : Finset String) :
    copied.copy ((names (c.members bridge)).toFinset \ gone) c .usual =
      copied.copy gone .usual c := by
  simp [copied, names, members]

theorem pruned_toJson (outer inner : Finset String) :
    c.toJson.pruned "bridge" outer inner =
      (Json.obj (c.members (c.bridge.toJson.without inner))).without outer := by
  rw [toJson_eq, pruned]
  rfl

theorem readsAs_pruned (outer inner : Finset String) :
    ReadsAs reader (c.toJson.pruned "bridge" outer inner) (c.reset outer inner) := by
  have hbridge := c.bridge.readsAs_without inner
  rw [pruned_toJson, reset, ← copy_given { c with bridge := c.bridge.reset inner }]
  exact readsAs_without rfl (gives_members { c with bridge := c.bridge.reset inner } hbridge) outer

theorem readable : Readable maxDepth c.toJson := by
  refine .obj ?_
  simp only [List.forall_mem_cons]
  refine ⟨.bool _, .str _, .str _, .arr fun v hv => ?_, ?_, readable_toNat _,
    c.bridge.readable 125, nofun⟩
  · obtain ⟨s, -, rfl⟩ := List.mem_map.1 hv
    exact .str s
  · cases c.mediaDir
    · exact .null
    · exact .str _

end Settings

/-! ## Settings of the transcription service -/

namespace Voice

namespace GroqSettings

def copied : FieldCopy GroqSettings where
  copy names c a :=
    { apiKey := if "api_key" ∈ names then c.apiKey else a.apiKey
      model := if "model" ∈ names then c.model else a.model
      language := if "language" ∈ names then c.language else a.language
      baseUrl := if "base_url" ∈ names then c.baseUrl else a.baseUrl }
  copy_empty c a := by simp only [Finset.notMem_empty, if_false]
  copy_copy names more c a := by simp only [Finset.mem_union, ite_or]

/-- Settings of the service without those of these names. -/
def reset (gone : Finset String) (c : GroqSettings) : GroqSettings :=
  copied.copy gone .unset c

theorem asOption_optionalText (text : Option String) :
    asOption asString (optionalText text) = .ok text := by
  cases text <;> rfl

theorem canonical_optionalText (text : Option String) :
    (optionalText text).canonical = optionalText text := by
  cases text <;> rfl

theorem readable_optionalText {depth : Nat} (text : Option String) :
    Readable depth (optionalText text) := by
  cases text
  · exact .null
  · exact .str _

variable (c : GroqSettings)

def keyMembers : List (String × Json) :=
  match c.apiKey with
  | none => []
  | some key => [("api_key", .str key)]

def members : List (String × Json) :=
  c.keyMembers ++ [("model", optionalText c.model), ("language", optionalText c.language),
    ("base_url", optionalText c.baseUrl)]

theorem toJson_eq : c.toJson = .obj c.members :=
  rfl

theorem mem_keyMembers {m : String × Json} (h : m ∈ c.keyMembers) :
    ∃ key, c.apiKey = some key ∧ m = ("api_key", .str key) := by
  unfold keyMembers at h
  split at h
  · cases h
  · rename_i key hkey
    exact ⟨key, hkey, List.mem_singleton.1 h⟩

theorem gives_members : ∀ m ∈ c.members, Gives reader copied c m := by
  simp only [members, List.forall_mem_append, List.forall_mem_cons]
  refine ⟨fun m hm => ?_, ?_, ?_, ?_, nofun⟩
  · obtain ⟨key, hkey, rfl⟩ := c.mem_keyMembers hm
    refine gives_of_put rfl fun a => ?_
    simp [reader, put, copied, asOption, asString, hkey, Except.map]
  all_goals
    refine gives_of_put (canonical_optionalText _) fun a => ?_
    simp [reader, put, copied, asOption_optionalText, Except.map]

/-- A key that is not written is none, as is the usual one. -/
theorem copy_given (gone : Finset String) :
    copied.copy ((names c.members).toFinset \ gone) c .unset = c.reset gone := by
  cases hkey : c.apiKey <;> simp [copied, reset, names, members, keyMembers, hkey, unset]

theorem readsAs_without (gone : Finset String) :
    ReadsAs reader (c.toJson.without gone) (c.reset gone) := by
  rw [toJson_eq, ← copy_given]
  exact ChatChannel.readsAs_without rfl c.gives_members gone

theorem readable (depth : Nat) : Readable (depth + 1) c.toJson := by
  rw [toJson_eq]
  refine .obj ?_
  simp only [members, List.forall_mem_append, List.forall_mem_cons]
  refine ⟨fun m hm => ?_, readable_optionalText _, readable_optionalText _,
    readable_optionalText _, nofun⟩
  obtain ⟨key, -, rfl⟩ := c.mem_keyMembers hm
  exact .str key

end GroqSettings

/-! ## Settings for transcription -/

namespace Settings

def copied : FieldCopy Settings where
  copy names c a :=
    { enabled := if "enabled" ∈ names then c.enabled else a.enabled
      provider := if "provider" ∈ names then c.provider else a.provider
      timeoutSecs := if "timeout_secs" ∈ names then c.timeoutSecs else a.timeoutSecs
      groq := if "groq" ∈ names then c.groq else a.groq }
  copy_empty c a := by simp only [Finset.notMem_empty, if_false]
  copy_copy names more c a := by simp only [Finset.mem_union, ite_or]

/-- Settings with the usual values for those named in `outer`, and without those of the service
named in `inner`. -/
def reset (outer inner : Finset String) (c : Settings) : Settings :=
  copied.copy outer .usual { c with groq := c.groq.reset inner }

variable (c : Settings) {groq : Json}

/-- The members that settings are written as, with what is written of those of the service. -/
def members (groq : Json) : List (String × Json) :=
  [("enabled", .bool c.enabled), ("provider", .str c.provider),
    ("timeout_secs", .num (.natural c.timeoutSecs.toNat)), ("groq", groq)]

theorem toJson_eq : c.toJson = .obj (c.members c.groq.toJson) :=
  rfl

theorem gives_members (h : ReadsAs GroqSettings.reader groq c.groq) :
    ∀ m ∈ c.members groq, Gives reader copied c m := by
  simp only [members, List.forall_mem_cons]
  refine ⟨gives_of_put rfl fun a => ?_, gives_of_put rfl fun a => ?_,
    gives_of_put rfl fun a => ?_, fun a => ⟨?_, ?_⟩, nofun⟩
  · simp [reader, put, copied, asBool, Except.map]
  · simp [reader, put, copied, asString, Except.map]
  · simp [reader, put, copied, asNatural_toNat, Except.map]
  · simp [reader, put, copied, h.1, Except.map]
  · simp [reader, put, copied, h.2, Except.map]

theorem copy_given (gone : Finset String) :
    copied.copy ((names (c.members groq)).toFinset \ gone) c .usual =
      copied.copy gone .usual c := by
  simp [copied, names, members]

theorem pruned_toJson (outer inner : Finset String) :
    c.toJson.pruned "groq" outer inner =
      (Json.obj (c.members (c.groq.toJson.without inner))).without outer := by
  rw [toJson_eq, pruned]
  rfl

theorem readsAs_pruned (outer inner : Finset String) :
    ReadsAs reader (c.toJson.pruned "groq" outer inner) (c.reset outer inner) := by
  have hgroq := c.groq.readsAs_without inner
  rw [pruned_toJson, reset, ← copy_given { c with groq := c.groq.reset inner }]
  exact readsAs_without rfl (gives_members { c with groq := c.groq.reset inner } hgroq) outer

theorem readable : Readable maxDepth c.toJson := by
  refine .obj ?_
  simp only [List.forall_mem_cons]
  exact ⟨.bool _, .str _, readable_toNat _, c.groq.readable 125, nofun⟩

end Settings

end Voice

theorem Settings.stored_pruned (c : Settings) (outer inner : Finset String) :
    Stored reader (c.toJson.pruned "bridge" outer inner) (c.reset outer inner) :=
  (c.readsAs_pruned outer inner).stored (c.readable.pruned "bridge" outer inner)

theorem Voice.Settings.stored_pruned (c : Voice.Settings) (outer inner : Finset String) :
    Stored reader (c.toJson.pruned "groq" outer inner) (c.reset outer inner) :=
  (c.readsAs_pruned outer inner).stored (c.readable.pruned "groq" outer inner)

theorem Settings.reset_empty (c : Settings) : c.reset ∅ ∅ = c := by
  rw [reset, copied.copy_empty, BridgeTiming.reset, BridgeTiming.copied.copy_empty]

theorem Voice.Settings.reset_empty (c : Voice.Settings) : c.reset ∅ ∅ = c := by
  rw [reset, copied.copy_empty, GroqSettings.reset, GroqSettings.copied.copy_empty]

/-- What is written of settings is read as these settings, the key of the service included. If some
members are left out, the settings they held have their usual values, and all others are those that
were written. -/
theorem stored_settings_read_back (c : Settings) (s : Voice.Settings) :
    Stored Settings.reader c.toJson c ∧
    Stored Voice.Settings.reader s.toJson s ∧
    ∀ outer inner : Finset String,
      Stored Settings.reader (c.toJson.pruned "bridge" outer inner) (c.reset outer inner) ∧
      Stored Voice.Settings.reader (s.toJson.pruned "groq" outer inner) (s.reset outer inner) := by
  refine ⟨?_, ?_, fun outer inner => ⟨c.stored_pruned outer inner, s.stored_pruned outer inner⟩⟩
  · have h := c.stored_pruned ∅ ∅
    rwa [pruned_empty, c.reset_empty] at h
  · have h := s.stored_pruned ∅ ∅
    rwa [pruned_empty, s.reset_empty] at h

end ChatChannel
