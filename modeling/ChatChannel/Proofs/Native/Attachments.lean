import ChatChannel.Native.Intake
import ChatChannel.Proofs.Media

/-!
# ChatChannel.Proofs.Native.Attachments

The files of a message that is being taken in. `Sound` is the invariant of a draft: its message
names exactly the files that its guard tracks, each is in place with the bytes that were fetched for
one of the attachments, and nothing else has been added to the file system but directories.

* `takeIn_some`: a message for the bus comes with a sound draft.
* `takeIn_none`: a message of which nothing is left leaves no file.
-/

namespace ChatChannel.Native

open FileSystem Media

/-- The extension of an attachment of this kind. -/
def AttachmentKind.extension : AttachmentKind → Attachment → String
  | .image => imageExtension
  | .video => videoExtension
  | .document => documentExtension
  | .audio => audioExtension

/-- The kinds of attachments, in the order in which they are downloaded. -/
def AttachmentKind.all : List AttachmentKind := [.image, .video, .document, .audio]

/-- A file that came of a download, with the kind of its attachment. -/
abbrev Saved := AttachmentKind × StoredFile

/-- The file holds what was fetched for the attachment of its kind, under the name for it. -/
def Saved.IsFrom (n : Intake) (attempts : AttachmentKind → Attempt) (c : Content) (e : Saved) :
    Prop :=
  ∃ a, c.attachment? e.1 = some a ∧ (attempts e.1).fetched = .ok e.2.content ∧
    e.2.path = n.folder.filePath (attempts e.1).id (e.1.extension a)

/-- Directories for the folder, and new files at these places. -/
abbrev FolderGrows (folder : Folder) (places : List Place) (fs fs' : FileSystem) : Prop :=
  Grows 0o700 (Path.ancestors folder.dir) places fs fs'

/-- The draft names and tracks these files, which are in place; `fs` is what was there before. -/
structure Sound (n : Intake) (attempts : AttachmentKind → Attempt) (c : Content)
    (fs : FileSystem) (saved : List Saved) (d : Draft) : Prop where
  named : d.message.media = saved.map (·.2.path)
  tracked : d.media.paths = saved.map (·.2.path)
  inPlace : ∀ e ∈ saved, d.fs.InPlace e.2
  origin : ∀ e ∈ saved, e.IsFrom n attempts c
  grows : FolderGrows n.folder (saved.map (·.2.place)) fs d.fs

/-- The draft is sound, with files of these kinds at most. -/
def SoundUpTo (n : Intake) (attempts : AttachmentKind → Attempt) (c : Content) (fs : FileSystem)
    (kinds : List AttachmentKind) (d : Draft) : Prop :=
  ∃ saved : List Saved, (saved.map (·.1)).Sublist kinds ∧ Sound n attempts c fs saved d

section

variable {n : Intake} {attempts : AttachmentKind → Attempt} {c : Content} {fs : FileSystem}
  {saved : List Saved} {kinds : List AttachmentKind} {d d' : Draft}

theorem Sound.congr (h : Sound n attempts c fs saved d)
    (hmessage : d'.message.media = d.message.media) (hmedia : d'.media = d.media)
    (hfs : d'.fs = d.fs) : Sound n attempts c fs saved d' :=
  ⟨hmessage ▸ h.named, hmedia ▸ h.tracked, hfs ▸ h.inPlace, h.origin, hfs ▸ h.grows⟩

theorem SoundUpTo.congr (h : SoundUpTo n attempts c fs kinds d)
    (hmessage : d'.message.media = d.message.media) (hmedia : d'.media = d.media)
    (hfs : d'.fs = d.fs) : SoundUpTo n attempts c fs kinds d' := by
  obtain ⟨saved, hkinds, h⟩ := h
  exact ⟨saved, hkinds, h.congr hmessage hmedia hfs⟩

theorem SoundUpTo.append (h : SoundUpTo n attempts c fs kinds d) (line : String) :
    SoundUpTo n attempts c fs kinds (d.append line) :=
  h.congr rfl rfl rfl

theorem SoundUpTo.of_append (k : AttachmentKind) (h : SoundUpTo n attempts c fs kinds d) :
    SoundUpTo n attempts c fs (kinds ++ [k]) d := by
  obtain ⟨saved, hkinds, h⟩ := h
  exact ⟨saved, hkinds.trans (List.sublist_append_left kinds [k]), h⟩

theorem Sound.stock (h : Sound n attempts c fs saved d) :
    Stock n.folder fs (saved.map (·.2)) d.fs where
  inPlace := List.forall_mem_map.2 h.inPlace
  grows := by
    rw [List.map_map]
    exact h.grows

theorem sound_of_stock (named : d.message.media = saved.map (·.2.path))
    (tracked : d.media.paths = saved.map (·.2.path))
    (hstock : Stock n.folder fs (saved.map (·.2)) d.fs)
    (origin : ∀ e ∈ saved, e.IsFrom n attempts c) : Sound n attempts c fs saved d := by
  refine ⟨named, tracked, List.forall_mem_map.1 hstock.inPlace, origin, ?_⟩
  have hgrows := hstock.grows
  rwa [List.map_map] at hgrows

theorem soundUpTo_attach (h : SoundUpTo n attempts c fs kinds d) {k : AttachmentKind}
    {a : Attachment} (ha : c.attachment? k = some a) :
    SoundUpTo n attempts c fs (kinds ++ [k]) (n.attach (attempts k) a (k.extension a) d).2 := by
  obtain ⟨saved, hkinds, h⟩ := h
  unfold Intake.attach
  dsimp only
  split
  · rename_i fs' hdownload
    exact ⟨saved, hkinds.trans (List.sublist_append_left kinds [k]),
      sound_of_stock h.named h.tracked (h.stock.download_none hdownload) h.origin⟩
  · rename_i path fs' hdownload
    obtain ⟨place, data, hfetched, hpath, hstock, -⟩ := h.stock.download_some hdownload
    let e : Saved := (k, ⟨path, place, data⟩)
    refine ⟨saved ++ [e], ?_, sound_of_stock ?_ ?_ ?_ ?_⟩
    · rw [List.map_append]
      exact hkinds.append (List.Sublist.refl [k])
    · simp [Draft.addFile, h.named, e]
    · simp [Draft.addFile, Transient.track, h.tracked, e]
    · rw [List.map_append]
      exact hstock
    · intro e' he'
      rcases List.mem_append.1 he' with he' | he'
      · exact h.origin e' he'
      · obtain rfl := List.mem_singleton.1 he'
        exact ⟨a, ha, hfetched, hpath⟩

theorem soundUpTo_addCaptioned (k : AttachmentKind) (h : SoundUpTo n attempts c fs kinds d) :
    SoundUpTo n attempts c fs (kinds ++ [k])
      (n.addCaptioned (attempts k) k.extension (c.attachment? k) d) := by
  unfold Intake.addCaptioned
  split
  · exact h.of_append k
  · rename_i a ha
    exact (soundUpTo_attach h ha).append _

theorem soundUpTo_addAudio (h : SoundUpTo n attempts c fs kinds d) :
    SoundUpTo n attempts c fs (kinds ++ [.audio]) (n.addAudio (attempts .audio) c.audio d) := by
  unfold Intake.addAudio
  split
  · exact h.of_append .audio
  · rename_i a ha
    have hattach := soundUpTo_attach (k := .audio) h ha
    split
    · rename_i hnone
      rw [AttachmentKind.extension, hnone] at hattach
      exact hattach
    · rename_i path d' hsome
      rw [AttachmentKind.extension, hsome] at hattach
      exact hattach.congr rfl rfl rfl

theorem soundUpTo_addSticker (sticker : Option Attachment)
    (h : SoundUpTo n attempts c fs kinds d) :
    SoundUpTo n attempts c fs kinds (Intake.addSticker sticker d) := by
  unfold Intake.addSticker
  split
  · exact h
  · exact h.append _

end

theorem soundUpTo_collect (n : Intake) (attempts : AttachmentKind → Attempt) (fs : FileSystem)
    (m : Message) :
    SoundUpTo n attempts m.content fs AttachmentKind.all (n.collect attempts fs m) := by
  let message := InboundMessage.new channelName m.info.sender.text m.info.chat.text
  let blank : Draft := ⟨{ message with content := m.content.text }, .empty, fs, [], [], ⟨0⟩⟩
  have hblank : SoundUpTo n attempts m.content fs [] blank :=
    ⟨[], List.Sublist.refl [], rfl, rfl, fun _ he => absurd he List.not_mem_nil,
      fun _ he => absurd he List.not_mem_nil, .of_same fun _ => rfl⟩
  have himage := soundUpTo_addCaptioned .image hblank
  have hvideo := soundUpTo_addCaptioned .video himage
  have hdocument := soundUpTo_addCaptioned .document hvideo
  exact soundUpTo_addSticker m.content.sticker (soundUpTo_addAudio hdocument)

theorem media_addFacts (info : Envelope) (m : InboundMessage) :
    (Intake.addFacts info m).media = m.media := by
  unfold Intake.addFacts
  split <;> split <;> rfl

section

variable {n : Intake} {attempts : AttachmentKind → Attempt} {fs : FileSystem} {m : Message}
  {saved : List Saved} {d : Draft}

theorem Sound.grows_release {c : Content} (h : Sound n attempts c fs saved d) :
    FolderGrows n.folder [] fs (d.media.release d.fs) := by
  have hmedia : d.media = ⟨(saved.map (·.2)).map StoredFile.path⟩ := by
    have hpaths : d.media = ⟨d.media.paths⟩ := rfl
    rw [hpaths, h.tracked, List.map_map]
    rfl
  rw [hmedia]
  refine Transient.grows_release ?_ ?_
  · rw [List.map_map]
    exact h.grows
  · intro f hf
    obtain ⟨e, he, rfl⟩ := List.mem_map.1 hf
    exact h.inPlace e he

theorem takeIn_some {message : InboundMessage}
    (h : n.takeIn attempts fs m = (some message, d)) :
    ∃ saved : List Saved, (saved.map (·.1)).Sublist AttachmentKind.all ∧
      Sound n attempts m.content fs saved d ∧ message.media = saved.map (·.2.path) := by
  obtain ⟨saved, hkinds, hsound⟩ := soundUpTo_collect n attempts fs m
  unfold Intake.takeIn at h
  dsimp only at h
  split at h
  · cases h
  · cases h
    refine ⟨saved, hkinds, hsound.congr (media_addFacts _ _) rfl rfl, ?_⟩
    rw [media_addFacts, hsound.named]

theorem takeIn_none (h : n.takeIn attempts fs m = (none, d)) : FolderGrows n.folder [] fs d.fs := by
  obtain ⟨saved, -, hsound⟩ := soundUpTo_collect n attempts fs m
  unfold Intake.takeIn at h
  dsimp only at h
  split at h
  · cases h
    exact hsound.grows_release
  · cases h

end

end ChatChannel.Native
