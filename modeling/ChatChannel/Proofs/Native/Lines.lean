import ChatChannel.Proofs.Native.Attachments

/-!
# ChatChannel.Proofs.Native.Lines

What a reported message says once it is on the bus. Its attachments are downloaded one after the
other (`saved?`), and its texts, captions and notes become the lines of one content (`lines`).

* `collect_message`: what is gathered from the parts of a message, in one equation.
* `takeIn_fst`: the message for the bus is what was gathered, with the facts about it, unless that
  is empty.
* `content_is_lines`: so the content is these lines and nothing else, and a message is dropped
  exactly if it has neither a line nor a file.
-/

namespace ChatChannel

namespace InboundMessage

/-- Texts on lines of their own; empty ones take no line. -/
def joinLines (texts : List String) : String :=
  "\n".intercalate (texts.filter (· ≠ ""))

section

variable {texts : List String} {text : String}

theorem joinLines_eq_empty_iff : joinLines texts = "" ↔ ∀ t ∈ texts, t = "" := by
  induction texts with
  | nil => simp [joinLines]
  | cons t rest ih =>
    by_cases ht : t = ""
    · simpa [joinLines, ht] using ih
    · simp only [joinLines, List.filter_cons, ht, ne_eq, not_false_eq_true, decide_true, if_true,
        List.mem_cons, forall_eq_or_imp, false_and, iff_false]
      -- Whatever follows, the first line is there.
      cases rest.filter (· ≠ "") <;> simp [ht]

theorem joinLines_concat : joinLines (texts ++ [text]) = joinLine (joinLines texts) text := by
  by_cases htext : text = ""
  · simp [joinLines, joinLine, htext]
  · have hfilter : (texts ++ [text]).filter (· ≠ "") = texts.filter (· ≠ "") ++ [text] := by
      simp [htext]
    by_cases hnone : texts.filter (· ≠ "") = []
    · have hempty : joinLines texts = "" := by rw [joinLines, hnone, String.intercalate_nil]
      rw [joinLine, if_neg htext, if_pos hempty, joinLines, hfilter, hnone, List.nil_append,
        String.intercalate_singleton]
    · have hsome : joinLines texts ≠ "" := by
        intro h
        exact hnone (List.filter_eq_nil_iff.2 (by simpa using joinLines_eq_empty_iff.1 h))
      rw [joinLine, if_neg htext, if_neg hsome, joinLines, hfilter,
        String.intercalate_append_of_ne_nil hnone (by simp), String.intercalate_singleton]
      rfl

theorem joinLines_toList (t : Option String) : joinLines t.toList = t.getD "" := by
  cases t with
  | none => rfl
  | some text => by_cases htext : text = "" <;> simp [joinLines, htext]

end

end InboundMessage

namespace Native

open InboundMessage (joinLines)

/-- The first of the texts of a message that is not empty. -/
def Content.firstText? (c : Content) : Option String :=
  ([c.conversation, c.extendedText].filterMap id).find? (· ≠ "")

/-- The captions of a message that count. -/
def Content.captions (c : Content) : List String :=
  [c.image, c.video, c.document].flatMap fun a => (a.bind Attachment.caption).toList

/-- The note on the sticker, if there is one. -/
def Content.stickerNote? (c : Content) : Option String :=
  c.sticker.map fun _ => stickerNote

namespace Intake

section

variable (n : Intake) (attempts : AttachmentKind → Attempt) (c : Content) (fs : FileSystem)

/-- Downloads the attachment of a kind, if there is one. -/
def fetch (k : AttachmentKind) : Option String × FileSystem :=
  match c.attachment? k with
  | none => (none, fs)
  | some a =>
    n.folder.download fs (attempts k).trouble (attempts k).id (attempts k).fetched (k.extension a)

/-- The file system after the attachments of these kinds have been downloaded in turn. -/
def fetchAll (kinds : List AttachmentKind) : FileSystem :=
  kinds.foldl (fun fs k => (n.fetch attempts c fs k).2) fs

/-- Where the attachment of a kind is saved, if there is one and its download succeeds. Those of the
kinds before it are downloaded first. -/
def saved? (k : AttachmentKind) : Option String :=
  (n.fetch attempts c (n.fetchAll attempts c fs (AttachmentKind.all.takeWhile (· ≠ k))) k).1

/-- The note on the recording, if there is one and its download succeeds. -/
def voiceNote? : Option String :=
  (n.saved? attempts c fs .audio).map fun path =>
    (n.annotator.annotate (n.fetchAll attempts c fs AttachmentKind.all) path).text

/-- The lines that the parts of a message make. -/
def lines : List String :=
  c.firstText?.toList ++ c.captions ++ (n.voiceNote? attempts c fs).toList ++
    c.stickerNote?.toList

end

/-- What is gathered from the parts of a message. -/
def gathered (n : Intake) (attempts : AttachmentKind → Attempt) (fs : FileSystem) (m : Message) :
    InboundMessage :=
  { InboundMessage.new channelName m.info.sender.text m.info.chat.text with
    content := joinLines (n.lines attempts m.content fs)
    media := AttachmentKind.all.filterMap (n.saved? attempts m.content fs) }

end Intake

/-- These lines and the attachments of these kinds have been added to a blank message; `fs` is what
was there before. -/
structure Draft.Holds (n : Intake) (attempts : AttachmentKind → Attempt) (c : Content)
    (fs : FileSystem) (blank : InboundMessage) (lines : List String) (kinds : List AttachmentKind)
    (d : Draft) : Prop where
  message : d.message =
    { blank with content := joinLines lines, media := kinds.filterMap (n.saved? attempts c fs) }
  fs : d.fs = n.fetchAll attempts c fs kinds

section

variable {n : Intake} {attempts : AttachmentKind → Attempt} {c : Content} {fs : FileSystem}
  {blank : InboundMessage} {lines : List String} {kinds : List AttachmentKind} {k : AttachmentKind}
  {d : Draft}

theorem Draft.Holds.append (h : d.Holds n attempts c fs blank lines kinds) (line : String) :
    (d.append line).Holds n attempts c fs blank (lines ++ [line]) kinds := by
  refine ⟨?_, h.fs⟩
  simp only [Draft.append, InboundMessage.addLine, h.message, InboundMessage.joinLines_concat]

theorem Draft.Holds.appendCaption (h : d.Holds n attempts c fs blank lines kinds)
    (caption : Option String) :
    (d.appendCaption caption).Holds n attempts c fs blank (lines ++ caption.toList) kinds := by
  cases caption with
  | some text => exact h.append text
  | none =>
    have hsame : d.appendCaption none = d := rfl
    rw [hsame, Option.toList_none, List.append_nil]
    exact h

theorem fetchAll_concat :
    n.fetchAll attempts c fs (kinds ++ [k]) =
      (n.fetch attempts c (n.fetchAll attempts c fs kinds) k).2 := by
  simp [Intake.fetchAll]

theorem Draft.Holds.absent (h : d.Holds n attempts c fs blank lines kinds)
    (ha : c.attachment? k = none) :
    n.saved? attempts c fs k = none ∧ d.Holds n attempts c fs blank lines (kinds ++ [k]) := by
  have hsaved : n.saved? attempts c fs k = none := by simp only [Intake.saved?, Intake.fetch, ha]
  refine ⟨hsaved, ?_, ?_⟩
  · simp [h.message, hsaved]
  · rw [fetchAll_concat, h.fs, Intake.fetch, ha]

theorem Draft.Holds.attach (h : d.Holds n attempts c fs blank lines kinds)
    (hk : AttachmentKind.all.takeWhile (· ≠ k) = kinds) {a : Attachment}
    (ha : c.attachment? k = some a) :
    (n.attach (attempts k) a (k.extension a) d).1 = n.saved? attempts c fs k ∧
      (n.attach (attempts k) a (k.extension a) d).2.Holds n attempts c fs blank lines
        (kinds ++ [k]) := by
  have hsaved : n.saved? attempts c fs k = (n.fetch attempts c d.fs k).1 := by
    rw [Intake.saved?, hk, h.fs]
  have hfs : n.fetchAll attempts c fs (kinds ++ [k]) = (n.fetch attempts c d.fs k).2 := by
    rw [fetchAll_concat, h.fs]
  simp only [Intake.fetch, ha] at hsaved hfs
  simp only [Intake.attach]
  split
  · rename_i fs' hdownload
    rw [hdownload] at hsaved hfs
    exact ⟨hsaved.symm, by simp [h.message, hsaved], hfs.symm⟩
  · rename_i path fs' hdownload
    rw [hdownload] at hsaved hfs
    exact ⟨hsaved.symm, by simp [Draft.addFile, h.message, hsaved], hfs.symm⟩

theorem Draft.Holds.addCaptioned (h : d.Holds n attempts c fs blank lines kinds)
    (hk : AttachmentKind.all.takeWhile (· ≠ k) = kinds) :
    (n.addCaptioned (attempts k) k.extension (c.attachment? k) d).Holds n attempts c fs blank
      (lines ++ ((c.attachment? k).bind Attachment.caption).toList) (kinds ++ [k]) := by
  cases ha : c.attachment? k with
  | none => simpa [Intake.addCaptioned] using (h.absent ha).2
  | some a => exact (h.attach hk ha).2.appendCaption a.caption

theorem Draft.Holds.addNote (h : d.Holds n attempts c fs blank lines kinds)
    (note : Voice.Annotation) :
    (d.addNote note).Holds n attempts c fs blank (lines ++ [note.text]) kinds :=
  ⟨(h.append note.text).message, h.fs⟩

theorem Draft.Holds.addAudio
    (h : d.Holds n attempts c fs blank lines [.image, .video, .document]) :
    (n.addAudio (attempts .audio) c.audio d).Holds n attempts c fs blank
      (lines ++ (n.voiceNote? attempts c fs).toList) AttachmentKind.all := by
  cases haudio : c.audio with
  | none =>
    obtain ⟨hsaved, hdraft⟩ := h.absent (k := .audio) haudio
    have hnote : n.voiceNote? attempts c fs = none := by rw [Intake.voiceNote?, hsaved]; rfl
    rw [Intake.addAudio, hnote, Option.toList_none, List.append_nil]
    exact hdraft
  | some a =>
    obtain ⟨hpath, hdraft⟩ := h.attach (k := .audio) rfl haudio
    simp only [AttachmentKind.extension] at hpath hdraft
    simp only [Intake.addAudio, Intake.voiceNote?, ← hpath]
    split
    · rename_i d' hattach
      rw [hattach] at hdraft ⊢
      rw [Option.map_none, Option.toList_none, List.append_nil]
      exact hdraft
    · rename_i path d' hattach
      rw [hattach] at hdraft ⊢
      rw [← show d'.fs = n.fetchAll attempts c fs AttachmentKind.all from hdraft.fs]
      exact hdraft.addNote _

theorem Draft.Holds.addSticker (h : d.Holds n attempts c fs blank lines kinds) :
    (Intake.addSticker c.sticker d).Holds n attempts c fs blank (lines ++ c.stickerNote?.toList)
      kinds := by
  cases hsticker : c.sticker with
  | none => simpa [Intake.addSticker, Content.stickerNote?, hsticker] using h
  | some _ =>
    simp only [Intake.addSticker, Content.stickerNote?, hsticker]
    exact h.append stickerNote

end

theorem text_eq_getD (c : Content) : c.text = c.firstText?.getD "" := by
  have hfilter : ∀ t : Option String, (t.toList.find? (· ≠ "")) = t.filter (· ≠ "") := by
    intro t
    cases t with
    | none => rfl
    | some text => by_cases htext : text = "" <;> simp [Option.filter, htext]
  have hfirst : c.firstText? =
      (c.conversation.filter (· ≠ "")).or (c.extendedText.filter (· ≠ "")) := by
    rw [← hfilter, ← hfilter, ← List.find?_append, Content.firstText?]
    cases c.conversation <;> cases c.extendedText <;> rfl
  rw [hfirst, Content.text]
  cases c.conversation.filter (· ≠ "") <;> rfl

section

variable (n : Intake) (attempts : AttachmentKind → Attempt) (fs : FileSystem) (m : Message)

theorem holds_collect :
    (n.collect attempts fs m).Holds n attempts m.content fs
      (.new channelName m.info.sender.text m.info.chat.text) (n.lines attempts m.content fs)
      AttachmentKind.all := by
  let blank := InboundMessage.new channelName m.info.sender.text m.info.chat.text
  let d : Draft := ⟨{ blank with content := m.content.text }, .empty, fs, [], [], ⟨0⟩⟩
  have htext : d.Holds n attempts m.content fs blank m.content.firstText?.toList [] :=
    ⟨by simp [d, blank, text_eq_getD, InboundMessage.joinLines_toList, InboundMessage.new], rfl⟩
  have himage := htext.addCaptioned (k := .image) rfl
  have hvideo := himage.addCaptioned (k := .video) rfl
  have hdocument := hvideo.addCaptioned (k := .document) rfl
  have hparts := hdocument.addAudio.addSticker
  have hlines : n.lines attempts m.content fs =
      m.content.firstText?.toList ++
        ((m.content.attachment? .image).bind Attachment.caption).toList ++
        ((m.content.attachment? .video).bind Attachment.caption).toList ++
        ((m.content.attachment? .document).bind Attachment.caption).toList ++
        (n.voiceNote? attempts m.content fs).toList ++ m.content.stickerNote?.toList := by
    simp [Intake.lines, Content.captions, Content.attachment?]
  rw [hlines]
  exact hparts

theorem collect_message : (n.collect attempts fs m).message = n.gathered attempts fs m :=
  (holds_collect n attempts fs m).message

/-- The message for the bus. -/
theorem takeIn_fst :
    (n.takeIn attempts fs m).1 =
      if (n.gathered attempts fs m).isEmpty then none
      else some (Intake.addFacts m.info (n.gathered attempts fs m)) := by
  rw [← collect_message, Intake.takeIn]
  dsimp only
  split <;> rfl

theorem isEmpty_gathered_iff :
    (n.gathered attempts fs m).isEmpty = true ↔
      (∀ line ∈ n.lines attempts m.content fs, line = "") ∧
        ∀ k, n.saved? attempts m.content fs k = none := by
  have hall : ∀ k, k ∈ AttachmentKind.all := by
    intro k
    cases k <;> decide
  simp only [InboundMessage.isEmpty, Intake.gathered, Bool.and_eq_true, decide_eq_true_eq,
    InboundMessage.joinLines_eq_empty_iff, List.filterMap_eq_nil_iff]
  exact and_congr_right fun _ => ⟨fun h k => h k (hall k), fun h k _ => h k⟩

theorem content_addFacts (info : Envelope) (message : InboundMessage) :
    (Intake.addFacts info message).content = message.content := by
  unfold Intake.addFacts
  split <;> split <;> rfl

/-- The content of a message for the bus is the lines that its parts make, and a message is dropped
exactly if none of them is there and no attachment was saved. -/
theorem content_is_lines :
    ((n.takeIn attempts fs m).1 = none ↔
      (∀ line ∈ n.lines attempts m.content fs, line = "") ∧
        ∀ k, n.saved? attempts m.content fs k = none) ∧
    ∀ message, (n.takeIn attempts fs m).1 = some message →
      message.content = joinLines (n.lines attempts m.content fs) := by
  rw [takeIn_fst, ← isEmpty_gathered_iff]
  refine ⟨by simp, fun message h => ?_⟩
  split at h
  · cases h
  · cases h
    rw [content_addFacts, Intake.gathered]

end

/-- An intake whose service hears the same in every recording. -/
def listeningIntake : Intake :=
  ⟨⟨"/media", mediaStem⟩,
    ⟨some ⟨"service", true, fun _ => ⟨.ok ⟨" noon ", none, none⟩, some ⟨10⟩⟩⟩, ⟨1000⟩⟩⟩

/-- The image has expired; the other attachments can be downloaded. -/
def expiredImage : AttachmentKind → Attempt
  | .image => ⟨.error "expired", .ofNat 1, .none⟩
  | .video => ⟨.ok ⟨#[1]⟩, .ofNat 2, .none⟩
  | .document => ⟨.ok ⟨#[2]⟩, .ofNat 3, .none⟩
  | .audio => ⟨.ok ⟨#[3]⟩, .ofNat 4, .none⟩

/-- A message with all parts: an empty text and an empty caption are among them, and the recording
has a caption, which does not count. -/
def allParts : Message :=
  let captioned (caption : Option String) : Attachment :=
    ⟨caption, none, none, "", ⟨#[]⟩, 0, false⟩
  let sender : Address := .ofAccount "a" "s"
  ⟨⟨"id", sender, sender, false, false, ""⟩,
    ⟨some "", some "look", some (captioned (some "sunset")), some (captioned none),
      some (captioned (some "")), some (captioned (some "voice")), some (captioned none)⟩⟩

theorem allParts_lines : ∃ message,
    (listeningIntake.takeIn expiredImage .empty allParts).1 = some message ∧
      message.content = "look\nsunset\n[voice transcription: noon]\n[sticker]" := by
  obtain ⟨-, hcontent⟩ := content_is_lines listeningIntake expiredImage .empty allParts
  have hsome : (listeningIntake.takeIn expiredImage .empty allParts).1.isSome = true := by
    decide +kernel
  obtain ⟨message, hmessage⟩ := Option.isSome_iff_exists.1 hsome
  refine ⟨message, hmessage, (hcontent message hmessage).trans ?_⟩
  decide +kernel

end Native

end ChatChannel
