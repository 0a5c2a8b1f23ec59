import ChatChannel.Proofs.Native.Lines

/-!
# ChatChannel.Proofs.Native.Captions

Which captions reach the bus. The captions of images, videos and documents are lines of the content,
however their downloads end. The caption of a recording is read by nobody: the message for the bus
is the same without it.
-/

namespace ChatChannel

/-- The content is put together from texts with line ends between them, and this is one of them. -/
def InboundMessage.IsPiece (piece content : String) : Prop :=
  ∃ before after, content = "\n".intercalate (before ++ piece :: after)

theorem InboundMessage.isPiece_of_mem {texts : List String} {text : String} (h : text ∈ texts)
    (htext : text ≠ "") : IsPiece text (joinLines texts) := by
  have hmem : text ∈ texts.filter (· ≠ "") := List.mem_filter.2 ⟨h, by simpa using htext⟩
  obtain ⟨before, after, hsplit⟩ := List.append_of_mem hmem
  exact ⟨before, after, by rw [joinLines, hsplit]⟩

namespace Native

open InboundMessage (IsPiece isPiece_of_mem)

/-- The caption of the attachment of a kind, if both are there. -/
def Content.caption? (c : Content) (k : AttachmentKind) : Option String :=
  (c.attachment? k).bind Attachment.caption

def Content.withoutVoiceCaption (c : Content) : Content :=
  { c with audio := c.audio.map fun a => { a with caption := none } }

def Message.withoutVoiceCaption (m : Message) : Message :=
  { m with content := m.content.withoutVoiceCaption }

/-- The message is not dropped, and the caption is a piece of what it says on the bus. -/
def Intake.Keeps (n : Intake) (attempts : AttachmentKind → Attempt) (fs : FileSystem) (m : Message)
    (caption : String) : Prop :=
  ∃ message, (n.takeIn attempts fs m).1 = some message ∧ IsPiece caption message.content

section

variable {n : Intake} {attempts : AttachmentKind → Attempt} {fs : FileSystem} {m : Message}
  {c : Content} {k : AttachmentKind} {caption : String}

/-! ## Captions that are lines -/

theorem mem_captions (hk : k ≠ .audio) (h : c.caption? k = some caption) :
    caption ∈ c.captions := by
  have hkind : c.attachment? k ∈ [c.image, c.video, c.document] := by
    cases k with
    | image | video | document => simp [Content.attachment?]
    | audio => exact absurd rfl hk
  exact List.mem_flatMap.2 ⟨_, hkind, Option.mem_toList.2 h⟩

theorem keeps_of_mem_lines (h : caption ∈ n.lines attempts m.content fs) (hcaption : caption ≠ "") :
    n.Keeps attempts fs m caption := by
  have hfull : ¬(n.gathered attempts fs m).isEmpty := fun hempty =>
    hcaption (((isEmpty_gathered_iff n attempts fs m).1 hempty).1 caption h)
  refine ⟨Intake.addFacts m.info (n.gathered attempts fs m), ?_, ?_⟩
  · rw [takeIn_fst, if_neg hfull]
  · rw [content_addFacts]
    exact isPiece_of_mem h hcaption

theorem mem_lines_of_mem_captions (h : caption ∈ c.captions) :
    caption ∈ n.lines attempts c fs := by
  simp [Intake.lines, h]

/-! ## The caption of a recording -/

theorem fetch_withoutVoiceCaption :
    n.fetch attempts c.withoutVoiceCaption fs k = n.fetch attempts c fs k := by
  cases k with
  | image | video | document => rfl
  | audio =>
    -- Only the media type of a recording goes into the name of its file.
    cases haudio : c.audio <;>
      simp [Intake.fetch, Content.attachment?, Content.withoutVoiceCaption, haudio,
        AttachmentKind.extension, audioExtension]

theorem fetchAll_withoutVoiceCaption (kinds : List AttachmentKind) :
    n.fetchAll attempts c.withoutVoiceCaption fs kinds = n.fetchAll attempts c fs kinds := by
  simp only [Intake.fetchAll, fetch_withoutVoiceCaption]

theorem saved?_withoutVoiceCaption :
    n.saved? attempts c.withoutVoiceCaption fs = n.saved? attempts c fs := by
  funext k
  rw [Intake.saved?, Intake.saved?, fetchAll_withoutVoiceCaption, fetch_withoutVoiceCaption]

theorem lines_withoutVoiceCaption :
    n.lines attempts c.withoutVoiceCaption fs = n.lines attempts c fs := by
  have hnote : n.voiceNote? attempts c.withoutVoiceCaption fs = n.voiceNote? attempts c fs := by
    rw [Intake.voiceNote?, Intake.voiceNote?, saved?_withoutVoiceCaption,
      fetchAll_withoutVoiceCaption]
  rw [Intake.lines, Intake.lines, hnote]
  rfl

/-- Nothing of a recording's caption reaches the bus. -/
theorem takeIn_withoutVoiceCaption :
    (n.takeIn attempts fs m.withoutVoiceCaption).1 = (n.takeIn attempts fs m).1 := by
  have hgathered :
      n.gathered attempts fs m.withoutVoiceCaption = n.gathered attempts fs m := by
    simp only [Intake.gathered, Message.withoutVoiceCaption, lines_withoutVoiceCaption,
      saved?_withoutVoiceCaption]
  rw [takeIn_fst, takeIn_fst, hgathered]
  rfl

/-- A caption is kept exactly if it is not the caption of a recording, or if the message without it
has that piece, too. -/
theorem keeps_caption_iff (h : m.content.caption? k = some caption) (hcaption : caption ≠ "") :
    n.Keeps attempts fs m caption ↔
      k ≠ .audio ∨ n.Keeps attempts fs m.withoutVoiceCaption caption := by
  constructor
  · intro hkeeps
    refine .inr ?_
    rwa [Intake.Keeps, takeIn_withoutVoiceCaption]
  · rintro (hk | hkeeps)
    · exact keeps_of_mem_lines (mem_lines_of_mem_captions (mem_captions hk h)) hcaption
    · rwa [Intake.Keeps, takeIn_withoutVoiceCaption] at hkeeps

end

/-- The image of the message has expired, but its caption is kept. -/
theorem expiredImage_keeps_caption :
    allParts.content.caption? .image = some "sunset" ∧ "sunset" ≠ "" ∧
      listeningIntake.Keeps expiredImage .empty allParts "sunset" := by
  have h : allParts.content.caption? .image = some "sunset" := by decide
  have hcaption : "sunset" ≠ "" := by decide
  exact ⟨h, hcaption, (keeps_caption_iff h hcaption).2 (.inl (by decide))⟩

/-- A message with nothing but a recording, which has a caption. -/
def captionedRecording : Message :=
  let sender : Address := .ofAccount "15551234567" "s.whatsapp.net"
  ⟨⟨"3EB0C767D26A", sender, sender, false, false, "Ann"⟩,
    ⟨none, none, none, none, none,
      some ⟨some "cap", none, none, "/gone", ⟨#[1, 255]⟩, 7, false⟩, none⟩⟩

/-- Every attachment has expired. -/
def expired (_ : AttachmentKind) : Attempt :=
  ⟨.error "expired", .ofNat 1, .none⟩

/-- The recording cannot be downloaded, and the message is dropped with its caption. -/
theorem voiceCaption_lost :
    captionedRecording.content.caption? .audio = some "cap" ∧ "cap" ≠ "" ∧
      (listeningIntake.takeIn expired .empty captionedRecording).1 = none ∧
      ¬listeningIntake.Keeps expired .empty captionedRecording "cap" := by
  have hnone : (listeningIntake.takeIn expired .empty captionedRecording).1 = none := by
    decide +kernel
  refine ⟨by decide, by decide, hnone, ?_⟩
  rintro ⟨message, hmessage, -⟩
  rw [hnone] at hmessage
  cases hmessage

end Native

end ChatChannel
