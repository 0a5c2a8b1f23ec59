import ChatChannel.Frame
import ChatChannel.Proofs.Json.Decode

/-!
# ChatChannel.Proofs.Frame

What frames are read from. A frame is read from an object by name (`ofObject`): its sender must be
a string, and every other part counts only as far as it is well formed.

* `reader_read_obj`: an object whose names occur once is a frame exactly if it has a sender, and
  then it is the one that `ofObject` gives.
* `reader_read_eq`: the same as an equation, with the errors of all other objects.
* `ofText?_eq_some_iff`: the texts that stand for a message.
-/

namespace ChatChannel.Frame

/-- The frame that is given by the members of an object, with this sender. -/
def ofObject (v : Json) (sender : String) : Frame where
  sender := sender
  chat := (v.get? "chat").bind textOrNone
  content := ((v.get? "content").bind textOrNone).getD ""
  media := ((v.get? "media").map texts).getD []
  id := (v.get? "id").bind textOrNone
  senderName := (v.get? "from_name").bind textOrNone

/-- What members put in the place of the fields of a frame. -/
def filled (members : List (String × Json)) (f : Frame) : Frame where
  sender := ((Json.lookup "from" members).bind textOrNone).getD f.sender
  chat := ((Json.lookup "chat" members).map textOrNone).getD f.chat
  content := ((Json.lookup "content" members).map fun v => (textOrNone v).getD "").getD f.content
  media := ((Json.lookup "media" members).map texts).getD f.media
  id := ((Json.lookup "id" members).map textOrNone).getD f.id
  senderName := ((Json.lookup "from_name" members).map textOrNone).getD f.senderName

theorem filled_nil (f : Frame) : filled [] f = f := by
  simp [filled, Json.lookup]

/-- All senders that members name are strings. -/
def SendersOk (members : List (String × Json)) : Prop :=
  ∀ v, ("from", v) ∈ members → ∃ sender, v = .str sender

theorem sendersOk_cons {k : String} {v : Json} {rest : List (String × Json)} :
    SendersOk ((k, v) :: rest) ↔ (k = "from" → ∃ sender, v = .str sender) ∧ SendersOk rest := by
  constructor
  · intro h
    exact ⟨fun hk => h v (hk ▸ List.mem_cons_self), fun w hw => h w (List.mem_cons_of_mem _ hw)⟩
  · rintro ⟨hv, hrest⟩ w hw
    rcases List.mem_cons.1 hw with heq | hw
    · obtain ⟨hk, hwv⟩ := Prod.mk.inj heq
      exact hwv ▸ hv hk.symm
    · exact hrest w hw

theorem lookup_from_of_sendersOk {members : List (String × Json)} (h : SendersOk members)
    {v : Json} (hv : Json.lookup "from" members = some v) : ∃ sender, v = .str sender :=
  h v (Json.mem_of_lookup hv)

/-- Members are taken one after the other, and a later one of the same name counts. -/
theorem filled_cons {k : String} {v : Json} {rest : List (String × Json)} (f : Frame)
    (h : SendersOk rest) : filled ((k, v) :: rest) f = filled rest (filled [(k, v)] f) := by
  have hfrom : ∀ w, Json.lookup "from" rest = some w → ∃ sender, w = .str sender :=
    fun w hw => lookup_from_of_sendersOk h hw
  simp only [filled, Json.lookup]
  congr 1
  · cases hl : Json.lookup "from" rest with
    | none => simp
    | some w =>
      obtain ⟨sender, rfl⟩ := hfrom w hl
      simp [textOrNone]
  · cases Json.lookup "chat" rest <;> simp
  · cases Json.lookup "content" rest <;> simp
  · cases Json.lookup "media" rest <;> simp
  · cases Json.lookup "id" rest <;> simp
  · cases Json.lookup "from_name" rest <;> simp

theorem put_of_ne {k : String} (hk : k ≠ "from") (v : Json) (f : Frame) :
    put k v f = .ok (filled [(k, v)] f) := by
  simp only [put, hk, if_false]
  split
  case isTrue h => subst h; rfl
  case isFalse =>
    split
    case isTrue h => subst h; rfl
    case isFalse =>
      split
      case isTrue h => subst h; rfl
      case isFalse =>
        split
        case isTrue h => subst h; rfl
        case isFalse =>
          split
          case isTrue h => subst h; rfl
          case isFalse => simp [filled, Json.lookup, *]

theorem put_eq_ok_iff {k : String} {v : Json} {f f' : Frame} :
    put k v f = .ok f' ↔
      (k = "from" → ∃ sender, v = .str sender) ∧ f' = filled [(k, v)] f := by
  by_cases hfrom : k = "from"
  · subst hfrom
    cases v <;> simp [put, Json.asString, Except.map, filled, Json.lookup, textOrNone, eq_comm]
  · simp [put_of_ne hfrom, hfrom, eq_comm]

theorem putAll_eq_ok_iff {members : List (String × Json)} {f f' : Frame} :
    reader.putAll f members = .ok f' ↔ SendersOk members ∧ f' = filled members f := by
  induction members generalizing f with
  | nil =>
    simp [RecordReader.putAll, SendersOk, filled_nil, pure, Except.pure, eq_comm]
  | cons m rest ih =>
    obtain ⟨k, v⟩ := m
    rw [RecordReader.putAll_cons, sendersOk_cons]
    show (put k v f).bind (reader.putAll · rest) = .ok f' ↔ _
    constructor
    · intro h
      cases hput : put k v f with
      | error e => rw [hput] at h; cases h
      | ok f₁ =>
        rw [hput] at h
        obtain ⟨hv, rfl⟩ := put_eq_ok_iff.1 hput
        obtain ⟨hrest, hf'⟩ := ih.1 h
        exact ⟨⟨hv, hrest⟩, hf'.trans (filled_cons f hrest).symm⟩
    · rintro ⟨⟨hv, hrest⟩, rfl⟩
      rw [put_eq_ok_iff.2 ⟨hv, rfl⟩]
      exact ih.2 ⟨hrest, filled_cons f hrest⟩

theorem lacking?_eq_none_iff {members : List (String × Json)} :
    reader.lacking? members = none ↔ ∃ v, ("from", v) ∈ members := by
  have hneed : reader.lacking? members = none ↔ "from" ∈ Json.names members := by
    simp [RecordReader.lacking?_eq_none_iff, reader]
  rw [hneed]
  constructor
  · intro h
    obtain ⟨⟨k, v⟩, hm, rfl⟩ := List.mem_map.1 h
    exact ⟨v, hm⟩
  · rintro ⟨v, hm⟩
    exact List.mem_map.2 ⟨_, hm, rfl⟩

theorem lacking?_of_not_mem {members : List (String × Json)} (h : ∀ v, ("from", v) ∉ members) :
    reader.lacking? members = some "from" := by
  have hany : members.any (fun m => m.1 = "from") = false := by
    rw [List.any_eq_false]
    rintro ⟨k, v⟩ hm hk
    have hk : k = "from" := by simpa using hk
    exact h v (hk ▸ hm)
  simp [RecordReader.lacking?, reader, hany]

/-- No other value than that of the sender keeps a frame from being read. -/
theorem putAll_of_bad_sender {v : Json} {members : List (String × Json)} {f : Frame}
    (hmem : ("from", v) ∈ members) (honly : ∀ w, ("from", w) ∈ members → w = v) {e : DecodeError}
    (hv : v.asString = .error e) : reader.putAll f members = .error e := by
  induction members generalizing f with
  | nil => cases hmem
  | cons m rest ih =>
    obtain ⟨k, w⟩ := m
    rw [RecordReader.putAll_cons]
    show (put k w f).bind (reader.putAll · rest) = .error e
    by_cases hk : k = "from"
    · subst hk
      rw [honly w List.mem_cons_self]
      simp [put, hv, Except.map, Except.bind]
    · rw [put_of_ne hk]
      have hrest : ("from", v) ∈ rest := by simpa [Ne.symm hk] using hmem
      exact ih hrest fun w hw => honly w (List.mem_cons_of_mem _ hw)

theorem reader_read_members {members : List (String × Json)} {f : Frame} :
    reader.read (.obj members) = .ok f ↔
      (∃ v, ("from", v) ∈ members) ∧ SendersOk members ∧ f = filled members reader.start := by
  simp only [RecordReader.read]
  constructor
  · intro h
    split at h
    · cases h
    · rename_i a ha
      split at h
      · cases h
      · rename_i hl
        cases h
        exact ⟨lacking?_eq_none_iff.1 hl, putAll_eq_ok_iff.1 ha⟩
  · rintro ⟨hfrom, hok⟩
    rw [putAll_eq_ok_iff.2 hok]
    simp only [lacking?_eq_none_iff.2 hfrom]

/-- An object whose names occur once is a frame exactly if its sender is a string. -/
theorem reader_read_obj {members : List (String × Json)} (hnodup : (Json.names members).Nodup)
    {f : Frame} :
    reader.read (.obj members) = .ok f ↔
      ∃ sender, Json.get? "from" (.obj members) = some (.str sender) ∧
        f = ofObject (.obj members) sender := by
  have hfilled : ∀ {sender}, Json.lookup "from" members = some (.str sender) →
      filled members reader.start = ofObject (.obj members) sender := by
    intro sender hs
    simp only [filled, ofObject, Json.get?, hs]
    congr 1
    · cases Json.lookup "chat" members <;> rfl
    · cases Json.lookup "content" members <;> rfl
    · cases Json.lookup "id" members <;> rfl
    · cases Json.lookup "from_name" members <;> rfl
  rw [reader_read_members]
  constructor
  · rintro ⟨⟨v, hv⟩, hok, rfl⟩
    obtain ⟨sender, rfl⟩ := hok v hv
    have hs := (Json.lookup_eq_some_iff hnodup).2 hv
    exact ⟨sender, hs, hfilled hs⟩
  · rintro ⟨sender, hs, rfl⟩
    have hmem := (Json.lookup_eq_some_iff hnodup).1 hs
    refine ⟨⟨_, hmem⟩, fun w hw => ?_, (hfilled hs).symm⟩
    have hw := (Json.lookup_eq_some_iff hnodup).2 hw
    exact ⟨sender, Option.some.inj (hw.symm.trans hs)⟩

/-- What comes of an object whose names occur once depends on its sender first. -/
theorem reader_read_eq {members : List (String × Json)} (hnodup : (Json.names members).Nodup) :
    reader.read (.obj members) =
      match Json.get? "from" (.obj members) with
      | none => .error (.missing "from")
      | some v => v.asString.map (ofObject (.obj members)) := by
  cases hfrom : Json.get? "from" (.obj members) with
  | none =>
    have hno : ∀ v, ("from", v) ∉ members := by
      intro v hv
      have hsome := Json.lookup_isSome_of_mem hv
      rw [show Json.lookup "from" members = none from hfrom] at hsome
      cases hsome
    have hok : SendersOk members := fun v hv => absurd hv (hno v)
    simp only [RecordReader.read, putAll_eq_ok_iff.2 ⟨hok, rfl⟩, lacking?_of_not_mem hno]
  | some v =>
    cases hv : v.asString with
    | ok sender =>
      have hstr : v = .str sender := by
        cases v <;> cases hv
        rfl
      simp only [hv, Except.map]
      exact (reader_read_obj hnodup).2 ⟨sender, hstr ▸ hfrom, rfl⟩
    | error e =>
      have hmem : ("from", v) ∈ members := (Json.lookup_eq_some_iff hnodup).1 hfrom
      have honly : ∀ w, ("from", w) ∈ members → w = v := fun w hw =>
        Option.some.inj (((Json.lookup_eq_some_iff hnodup).2 hw).symm.trans hfrom)
      simp only [RecordReader.read, putAll_of_bad_sender hmem honly hv, hv, Except.map]

theorem bind_textOrNone_eq_some_iff {v : Option Json} {text : String} :
    v.bind textOrNone = some text ↔ v = some (.str text) := by
  rcases v with _ | (_ | _ | _ | _ | _ | _) <;> simp [textOrNone]

theorem ofValue?_obj {members : List (String × Json)} (hnodup : (Json.names members).Nodup)
    {m : InboundMessage} :
    ofValue? (.obj members) = some m ↔
      ∃ sender, Json.get? "type" (.obj members) = some (.str messageType) ∧
        Json.get? "from" (.obj members) = some (.str sender) ∧
        (ofObject (.obj members) sender).message? = some m := by
  simp only [ofValue?]
  constructor
  · intro h
    split at h
    · rename_i htype
      split at h
      · rename_i f hf
        obtain ⟨sender, hs, rfl⟩ := (reader_read_obj hnodup).1 hf
        exact ⟨sender, bind_textOrNone_eq_some_iff.1 htype, hs, h⟩
      · cases h
    · cases h
  · rintro ⟨sender, htype, hs, hm⟩
    rw [if_pos (bind_textOrNone_eq_some_iff.2 htype), (reader_read_obj hnodup).2 ⟨sender, hs, rfl⟩]
    exact hm

/-- The texts that stand for a message: objects of the right type with a sender, of which something
is left to forward. -/
theorem ofText?_eq_some_iff {text : String} {m : InboundMessage} :
    ofText? text = some m ↔
      ∃ v sender, Json.parse text = some v ∧ v.get? "type" = some (.str messageType) ∧
        v.get? "from" = some (.str sender) ∧ (ofObject v sender).message? = some m := by
  unfold ofText?
  cases hparse : Json.parse text with
  | none => simp
  | some v =>
    cases v with
    | obj members => simp [ofValue?_obj (Json.parse_nodup hparse)]
    | null => simp [ofValue?, Json.get?]
    | bool b => simp [ofValue?, Json.get?]
    | num n => simp [ofValue?, Json.get?]
    | str s => simp [ofValue?, Json.get?]
    | arr items => simp [ofValue?, Json.get?]

end ChatChannel.Frame
