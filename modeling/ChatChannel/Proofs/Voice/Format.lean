import ChatChannel.Proofs.Media
import ChatChannel.Proofs.Media.Types
import ChatChannel.Proofs.Voice.Annotator

/-!
# ChatChannel.Proofs.Voice.Format

The format of a recording on its way from the peer that declares it to the service that transcribes
it. Three tables take part: the declared media type gives an extension, the extension of the saved
file a format, and the format the media type of the upload. For recordings they agree
(`audio_entries`), so nothing is lost on the way (`declared_audio_survives`).
-/

namespace ChatChannel.Voice

open Media

/-- The media type is one of those for sounds whose extension is known. -/
def IsKnownAudio (mediaType : String) : Prop :=
  ['a', 'u', 'd', 'i', 'o', '/'] <+: (essence mediaType).toList ∧
    essence mediaType ∈ Media.extensionTable.map Prod.fst

/-- Every known type of sounds has the extension of a format, and the media type of the format has
the same one. -/
theorem audio_entries :
    ∀ entry ∈ Media.extensionTable, ['a', 'u', 'd', 'i', 'o', '/'] <+: entry.1.toList →
      Media.extensionTable.lookup entry.1 = some entry.2 ∧
        ∃ f ∈ AudioFormat.all, entry.2 = "." ++ f.extension ∧
          extensionOf? f.mediaType = some entry.2 := by
  decide +kernel

namespace AudioFormat

variable {f : AudioFormat} {path : String}

theorem ofPath?_of_extension (h : Path.extension? path = some f.extension.toList) :
    ofPath? path = some f := by
  rw [ofPath?, h]
  cases f <;> decide +kernel

/-- A file that is saved under the extension of a format is taken for this format. -/
theorem ofPath?_filePath (f : AudioFormat) (folder : Folder) (id : FileId) :
    ofPath? (folder.filePath id ("." ++ f.extension)) = some f := by
  refine ofPath?_of_extension (Folder.extension?_filePath folder id ?_)
  cases f <;> decide +kernel

end AudioFormat

theorem IsKnownAudio.exists_format {mediaType : String} (h : IsKnownAudio mediaType) :
    ∃ f : AudioFormat, extensionOf? mediaType = some ("." ++ f.extension) ∧
      extensionOf? f.mediaType = some ("." ++ f.extension) := by
  obtain ⟨haudio, hknown⟩ := h
  obtain ⟨entry, hentry, hname⟩ := List.mem_map.1 hknown
  obtain ⟨hlookup, f, -, hext, hback⟩ := audio_entries entry hentry (hname ▸ haudio)
  refine ⟨f, ?_, hext ▸ hback⟩
  rw [extensionOf?, ← hname, hlookup, hext]

/-- A service is asked about the format that the path stands for, if it is asked at all. -/
theorem format_of_asked {a : Annotator} {fs : FileSystem} {path : String} {r : Request}
    (h : (a.annotate fs path).asked = some r) :
    r.format = (AudioFormat.ofPath? path).getD .usual := by
  unfold Annotator.annotate at h
  split at h
  · cases h
  · split at h
    · cases h
    · split at h
      · cases h
      · rw [Annotator.await_asked] at h
        cases h
        rfl

/-- What a peer declares about a recording is what the service is told. However a known media type
of sounds is spelled, its extension is that of a format with a media type of this extension; and a
recording that is saved under it, in whatever directory and with whatever stem, is taken for a
recording of this format, by everyone who is asked about it. -/
theorem declared_audio_survives {mediaType : String} (h : IsKnownAudio mediaType) :
    ∃ (ext : String) (f : AudioFormat), extensionOf? mediaType = some ext ∧
      (∀ other, SameType mediaType other → extensionOf? other = some ext) ∧
      ext = "." ++ f.extension ∧ extensionOf? f.mediaType = some ext ∧
      ∀ (folder : Folder) fs trouble id data path left,
        folder.save fs trouble id data ext = (.ok path, left) →
          AudioFormat.ofPath? path = some f ∧
            ∀ (a : Annotator) fs' r, (a.annotate fs' path).asked = some r → r.format = f := by
  obtain ⟨f, hext, hback⟩ := h.exists_format
  refine ⟨"." ++ f.extension, f, hext, fun other hother => ?_, rfl, hback, ?_⟩
  · rw [extensionOf?, ← essence_eq_iff.2 hother]
    exact hext
  · intro folder fs trouble id data path left hsave
    obtain ⟨rfl, -⟩ := Folder.save_ok hsave
    have hformat := f.ofPath?_filePath folder id
    refine ⟨hformat, fun a fs' r hr => ?_⟩
    rw [format_of_asked hr, hformat, Option.getD_some]

/-- A type in capital letters, with a parameter and blanks; a directory and a stem with dots. -/
theorem shoutedType_survives :
    let mediaType := " AUDIO/X-M4A\t; codecs=\"mp4a;x\""
    let folder : Folder := ⟨"/srv/media.d", "note.wav_"⟩
    let path := "/srv/media.d/note.wav_0000000000000000000000000000000c.m4a"
    IsKnownAudio mediaType ∧ SameType mediaType "audio/x-m4a" ∧
      (folder.save .empty .none (.ofNat 12) ⟨#[1]⟩ ".m4a").1 = .ok path ∧
      AudioFormat.ofPath? path = some .m4a := by
  intro mediaType folder path
  have hessence : essence mediaType = "audio/x-m4a" := by decide +kernel
  have hknown : IsKnownAudio mediaType := by
    rw [IsKnownAudio, hessence]
    decide +kernel
  have hsame : SameType mediaType "audio/x-m4a" := by
    rw [← essence_eq_iff, hessence]
    decide +kernel
  have hsave : (folder.save .empty .none (.ofNat 12) ⟨#[1]⟩ ".m4a").1 = .ok path := by
    decide +kernel
  obtain ⟨ext, f, hext, -, hname, -, hsaved⟩ := declared_audio_survives hknown
  obtain rfl : ext = ".m4a" := Option.some.inj (hext.symm.trans (by decide +kernel))
  obtain rfl : f = .m4a := by
    revert hname
    cases f <;> decide +kernel
  exact ⟨hknown, hsame, hsave, (hsaved _ _ _ _ _ _ _ (Prod.ext hsave rfl)).1⟩

end ChatChannel.Voice
