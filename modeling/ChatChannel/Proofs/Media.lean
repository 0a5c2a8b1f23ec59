import ChatChannel.Proofs.FileSystem
import ChatChannel.Proofs.Media.Names

/-!
# ChatChannel.Proofs.Media

Saving attachments and removing them again, as the file system sees it.

* `download_some`, `download_none`: a download leaves one new file, or nothing but directories.
* `Stock`: the files that have been saved since a moment. One more download adds one file at a place
  of its own, or none.
* `shrinks_release`: the guard removes its files as far as it can, and nothing else.
-/

namespace ChatChannel.Media

open FileSystem

variable {fs fs' : FileSystem} {f : Folder} {trouble : Trouble} {id : FileId} {ext path : String}
  {data : ByteArray}

namespace Folder

theorem hasEntry_filePath (hstem : '/' ∉ f.stem.toList) {place : Place}
    (h : fs.locate (f.filePath id ext) = .ok place) :
    fs.HasEntry f.dir (f.fileName id ext) place := by
  obtain ⟨hslash, hname⟩ := plain_fileName hstem id ext
  exact hasEntry_of_locate hslash hname h

/-- A file that is written leaves nothing else behind. -/
theorem writeNew_ok {ups : List String} {mode : Nat} {saved : String}
    (h : writeNew fs trouble data path = (.ok saved, fs')) :
    saved = path ∧ ∃ place, fs'.InPlace ⟨path, place, data⟩ ∧ Grows mode ups [place] fs fs' := by
  unfold writeNew at h
  split at h
  · cases h
  · cases h
  · rename_i place created _ hcreate
    split at h
    · cases h
      obtain ⟨hlocate, hnone, hwritable, rfl⟩ := createNew_inv hcreate
      have hempty : (fs.insert place (.file ByteArray.empty)).node? place =
          some (.file ByteArray.empty) := by rw [node?_insert hnone, if_pos rfl]
      have hnode : ∀ p, ((fs.insert place (.file ByteArray.empty)).overwrite place data).node? p =
          if p = place then some (.file data) else fs.node? p := by
        intro p
        rw [node?_overwrite hempty, node?_insert hnone]
        split <;> rfl
      have hgrows : Grows mode ups [place] fs
          ((fs.insert place (.file ByteArray.empty)).overwrite place data) := by
        constructor
        · intro p hp
          obtain rfl := List.mem_singleton.1 hp
          exact hnone
        · intro p hp
          have hp : p ≠ place := fun h => hp (List.mem_singleton.2 h)
          exact .inl (by rw [hnode, if_neg hp])
      have hdirs := hgrows.extends.keepsDirectories
      refine ⟨rfl, place, ⟨hdirs.locate hlocate, ?_, hdirs.writableAround hwritable⟩, hgrows⟩
      rw [hnode, if_pos rfl]
    · split at h <;> cases h

/-- A file that cannot be written is gone again. -/
theorem writeNew_error {error : SaveError}
    (h : writeNew fs trouble data path = (.error error, fs')) :
    ∀ p, fs'.node? p = fs.node? p := by
  unfold writeNew at h
  split at h
  · cases h
    exact fun _ => rfl
  · cases h
    exact fun _ => rfl
  · rename_i place created _ hcreate
    obtain ⟨hlocate, hnone, hwritable, rfl⟩ := createNew_inv hcreate
    have hdirs : fs.KeepsDirectories (fs.insert place (.file ByteArray.empty)) :=
      (extends_insert hnone).keepsDirectories
    have hempty : (fs.insert place (.file ByteArray.empty)).node? place =
        some (.file ByteArray.empty) := by rw [node?_insert hnone, if_pos rfl]
    have hremove := removeFile_file (hdirs.locate hlocate) hempty (hdirs.writableAround hwritable)
    split at h
    · cases h
    · rw [hremove] at h
      cases h
      intro p
      rw [node?_erase (place_ne_nil hnone), node?_insert hnone]
      by_cases hp : p = place
      · rw [if_pos hp, hp, hnone]
      · rw [if_neg hp, if_neg hp]

theorem save_ok {saved : String} (h : f.save fs trouble id data ext = (.ok saved, fs')) :
    saved = f.filePath id ext ∧ ∃ place, fs'.InPlace ⟨saved, place, data⟩ ∧
      Grows 0o700 (Path.ancestors f.dir) [place] fs fs' := by
  have hmake := grows_makeDirectories fs f.dir 0o700
  unfold save at h
  split at h
  · cases h
  · cases h
  · rename_i made _ hmade
    rw [hmade] at hmake
    obtain ⟨rfl, place, hplace, hgrows⟩ := writeNew_ok h
    exact ⟨rfl, place, hplace, hmake.trans hgrows⟩

theorem save_error {error : SaveError}
    (h : f.save fs trouble id data ext = (.error error, fs')) :
    Grows 0o700 (Path.ancestors f.dir) [] fs fs' := by
  have hmake := grows_makeDirectories fs f.dir 0o700
  unfold save at h
  split at h
  · cases h
    exact .of_same fun _ => rfl
  · rename_i fault left _ hleft
    rw [hleft] at hmake
    cases h
    exact hmake
  · rename_i made _ hmade
    rw [hmade] at hmake
    exact hmake.trans (.of_same (writeNew_error h))

/-- A download is the save of what was fetched. -/
theorem download_ok :
    f.download fs trouble id (.ok data) ext =
      ((f.save fs trouble id data ext).1.toOption, (f.save fs trouble id data ext).2) := by
  rw [download]
  split
  · rename_i hsave
    rw [hsave]
    rfl
  · rename_i hsave
    rw [hsave]
    rfl

/-- A download that gives a path has saved what was fetched there. -/
theorem download_some {fetched : Except String ByteArray}
    (h : f.download fs trouble id fetched ext = (some path, fs')) :
    path = f.filePath id ext ∧ ∃ place data, fetched = .ok data ∧
      fs'.InPlace ⟨path, place, data⟩ ∧ Grows 0o700 (Path.ancestors f.dir) [place] fs fs' := by
  unfold download at h
  split at h
  · cases h
  · rename_i data
    split at h
    · rename_i saved hsave
      cases h
      obtain ⟨hpath, place, hplace, hgrows⟩ := save_ok hsave
      exact ⟨hpath, place, data, rfl, hplace, hgrows⟩
    · cases h

/-- A download that gives no path leaves no file. -/
theorem download_none {fetched : Except String ByteArray}
    (h : f.download fs trouble id fetched ext = (none, fs')) :
    Grows 0o700 (Path.ancestors f.dir) [] fs fs' := by
  unfold download at h
  split at h
  · cases h
    exact .of_same fun _ => rfl
  · split at h
    · cases h
    · rename_i hsave
      cases h
      exact save_error hsave

end Folder

/-! ## Saved files -/

/-- Since the file system was `fs₀`, these files have been saved to the folder, and nothing else has
been added but directories. -/
structure Stock (f : Folder) (fs₀ : FileSystem) (files : List StoredFile) (fs : FileSystem) :
    Prop where
  inPlace : ∀ g ∈ files, fs.InPlace g
  grows : Grows 0o700 (Path.ancestors f.dir) (files.map StoredFile.place) fs₀ fs

section

variable {fs₀ : FileSystem} {files : List StoredFile} {fetched : Except String ByteArray}

theorem Stock.download_none (h : Stock f fs₀ files fs)
    (hdownload : f.download fs trouble id fetched ext = (none, fs')) : Stock f fs₀ files fs' := by
  have hgrows := Folder.download_none hdownload
  refine ⟨fun g hg => (h.inPlace g hg).extends hgrows.extends, ?_⟩
  have hall := h.grows.trans hgrows
  rwa [List.append_nil] at hall

theorem Stock.download_some (h : Stock f fs₀ files fs)
    (hdownload : f.download fs trouble id fetched ext = (some path, fs')) :
    ∃ place data, fetched = .ok data ∧ path = f.filePath id ext ∧
      Stock f fs₀ (files ++ [⟨path, place, data⟩]) fs' ∧ place ∉ files.map StoredFile.place := by
  obtain ⟨hpath, place, data, hfetched, hplace, hgrows⟩ := Folder.download_some hdownload
  refine ⟨place, data, hfetched, hpath, ⟨fun g hg => ?_, ?_⟩, fun hmem => ?_⟩
  · rcases List.mem_append.1 hg with hg | hg
    · exact (h.inPlace g hg).extends hgrows.extends
    · obtain rfl := List.mem_singleton.1 hg
      exact hplace
  · rw [List.map_append]
    exact h.grows.trans hgrows
  · -- The place was empty before the download, and those of the other files were not.
    obtain ⟨g, hg, rfl⟩ := List.mem_map.1 hmem
    have hnone := hgrows.fresh g.place List.mem_cons_self
    rw [(h.inPlace g hg).file] at hnone
    cases hnone

/-- The files that are there now are those that were there before, and the saved ones. -/
theorem Stock.node?_file_iff (h : Stock f fs₀ files fs) {place : Place} :
    fs.node? place = some (.file data) ↔
      fs₀.node? place = some (.file data) ∨ ∃ g ∈ files, g.place = place ∧ g.content = data := by
  constructor
  · intro hnode
    by_cases hmem : place ∈ files.map StoredFile.place
    · obtain ⟨g, hg, rfl⟩ := List.mem_map.1 hmem
      rw [(h.inPlace g hg).file] at hnode
      cases hnode
      exact .inr ⟨g, hg, rfl, rfl⟩
    · exact .inl ((h.grows.file_iff hmem).1 hnode)
  · rintro (hnode | ⟨g, hg, rfl, rfl⟩)
    · exact h.grows.extends place _ hnode
    · exact (h.inPlace g hg).file

end

/-! ## Removal -/

namespace Transient

/-- One of the tracked paths leads to a file at this place, which can be removed. -/
def Holds (t : Transient) (fs : FileSystem) (place : Place) : Prop :=
  ∃ f, f.path ∈ t.paths ∧ f.place = place ∧ fs.InPlace f

theorem removeIfPossible_of_error {fault : FileFault} (h : fs.removeFile path = .error fault) :
    removeIfPossible fs path = fs := by
  simp only [removeIfPossible, h]

/-- One attempt takes away the file to which the path leads, or nothing. -/
theorem shrinks_removeIfPossible (fs : FileSystem) (path : String) :
    Shrinks (Holds ⟨[path]⟩ fs) fs (removeIfPossible fs path) := by
  cases hremove : fs.removeFile path with
  | error fault =>
    rw [removeIfPossible_of_error hremove]
    refine .of_none ?_
    rintro p ⟨f, hpath, -, hf⟩
    rw [← List.mem_singleton.1 hpath, hf.removeFile] at hremove
    cases hremove
  | ok removed =>
    obtain ⟨f, rfl, hf, rfl⟩ := removeFile_inv hremove
    simp only [removeIfPossible, hremove]
    refine (shrinks_erase hf).congr fun p => ⟨?_, ?_⟩
    · rintro rfl
      exact ⟨f, List.mem_singleton_self _, rfl, hf⟩
    · rintro ⟨g, hpath, rfl, hg⟩
      exact hg.place_eq hf (List.mem_singleton.1 hpath)

/-- Removing the files one after the other takes away those that could be removed at the start. A
path whose file went with an earlier path finds nothing any more, and all others find what they
would have found. -/
theorem shrinks_release (t : Transient) (fs : FileSystem) :
    Shrinks (t.Holds fs) fs (t.release fs) := by
  obtain ⟨paths⟩ := t
  induction paths generalizing fs with
  | nil => exact .of_none fun p ⟨_, hpath, _⟩ => absurd hpath List.not_mem_nil
  | cons path rest ih =>
    have hstep := shrinks_removeIfPossible fs path
    refine (hstep.trans (ih (removeIfPossible fs path))).congr fun p => ?_
    -- What the rest holds after the first attempt, it held before, less what went with this path.
    constructor
    · rintro (⟨f, hpath, hplace, hf⟩ | ⟨f, hpath, hplace, hf⟩)
      · exact ⟨f, List.mem_cons.2 (.inl (List.mem_singleton.1 hpath)), hplace, hf⟩
      · exact ⟨f, List.mem_cons_of_mem _ hpath, hplace, (hstep.inPlace_iff.1 hf).1⟩
    · rintro ⟨f, hpath, rfl, hf⟩
      by_cases hgone : Holds ⟨[path]⟩ fs f.place
      · exact .inl hgone
      · right
        rcases List.mem_cons.1 hpath with hpath | hpath
        · exact absurd ⟨f, List.mem_singleton.2 hpath, rfl, hf⟩ hgone
        · exact ⟨f, hpath, rfl, hstep.inPlace_iff.2 ⟨hf, hgone⟩⟩

/-- The guard removes its files and nothing else. -/
theorem release_node? {files : List StoredFile} (h : ∀ f ∈ files, fs.InPlace f) :
    (∀ p, (release ⟨files.map StoredFile.path⟩ fs).node? p =
        if p ∈ files.map StoredFile.place then none else fs.node? p) ∧
      fs.KeepsDirectories (release ⟨files.map StoredFile.path⟩ fs) := by
  have hshrinks := shrinks_release ⟨files.map StoredFile.path⟩ fs
  refine ⟨fun p => ?_, hshrinks.keepsDirectories⟩
  split
  · rename_i hp
    obtain ⟨f, hf, rfl⟩ := List.mem_map.1 hp
    exact hshrinks.node?_of_gone ⟨f, List.mem_map_of_mem hf, rfl, h f hf⟩
  · rename_i hp
    refine hshrinks.node?_of_not_gone ?_
    rintro ⟨g, hpath, rfl, hg⟩
    obtain ⟨f, hf, hpath⟩ := List.mem_map.1 hpath
    exact hp (List.mem_map.2 ⟨f, hf, (h f hf).place_eq hg hpath⟩)

/-- Once the files that were new are removed, the file system is what it was, but for
directories. -/
theorem grows_release {mode : Nat} {ups : List String} {fs₀ : FileSystem}
    {files : List StoredFile} (hgrows : Grows mode ups (files.map StoredFile.place) fs₀ fs)
    (h : ∀ f ∈ files, fs.InPlace f) :
    Grows mode ups [] fs₀ (release ⟨files.map StoredFile.path⟩ fs) := by
  obtain ⟨hnode, hdirs⟩ := release_node? h
  refine ⟨fun _ hp => absurd hp List.not_mem_nil, fun p _ => ?_⟩
  rw [hnode]
  by_cases hp : p ∈ files.map StoredFile.place
  · rw [if_pos hp, hgrows.fresh p hp]
    exact .inl rfl
  · rw [if_neg hp]
    rcases hgrows.rest p hp with hsame | ⟨hnone, hdir, up, hup, hlocate⟩
    · exact .inl hsame
    · refine .inr ⟨hnone, ?_, up, hup, hdirs.locate hlocate⟩
      rw [hnode, if_neg hp, hdir]

end Transient

end ChatChannel.Media
