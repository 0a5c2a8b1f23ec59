import ChatChannel.Proofs.FileSystem.Room
import ChatChannel.Proofs.Media

/-!
# ChatChannel.Proofs.Media.Confinement

What a save can do to a file system, whatever extension a peer has chosen: it adds one file, as an
entry of the folder itself, or it leaves every file as it was.

* `Added`: the one new file, and the directories on the way to the folder.
* `save_fails_of_taken`: a name that is taken is not taken over.
* `save_is_confined`: both outcomes of a save, and the downloads that are made of it.
-/

namespace ChatChannel.Media.Folder

open FileSystem

/-- A file with this content has been added as an entry of the folder, and nothing else but the
missing directories on the way there. -/
structure Added (f : Folder) (fs fs' : FileSystem) (path name : String) (place : Place)
    (data : ByteArray) : Prop where
  path_eq : path = Path.join f.dir name
  last : Path.fileName? path = some name.toList
  named : f.Names name
  entry : fs'.HasEntry f.dir name place
  content : fs'.lookup path = .ok (place, .file data)
  fresh : fs.node? place = none
  /-- The path led to nothing before. -/
  absent : ∀ found, fs.lookup path ≠ .ok found
  /-- Every other file is what it was. -/
  files : ∀ p, p ≠ place →
    ∀ content, fs'.node? p = some (.file content) ↔ fs.node? p = some (.file content)
  rest : ∀ p, p ≠ place → fs'.node? p = fs.node? p ∨ Made 0o700 (Path.ancestors f.dir) fs fs' p

/-- No file has been added, removed or changed; what is new are directories on the way to the
folder. -/
structure Unchanged (f : Folder) (fs fs' : FileSystem) : Prop where
  files : ∀ p content, fs'.node? p = some (.file content) ↔ fs.node? p = some (.file content)
  rest : ∀ p, fs'.node? p = fs.node? p ∨ Made 0o700 (Path.ancestors f.dir) fs fs' p

section

variable {f : Folder} {fs fs' : FileSystem} {trouble : Trouble} {id : FileId} {data : ByteArray}
  {ext path : String}

theorem unchanged_of_grows (h : Grows 0o700 (Path.ancestors f.dir) [] fs fs') :
    f.Unchanged fs fs' where
  files _ _ := h.file_iff List.not_mem_nil
  rest p := h.rest p List.not_mem_nil

theorem added_of_save (hstem : '/' ∉ f.stem.toList)
    (h : f.save fs trouble id data ext = (.ok path, fs')) :
    ∃ place, f.Added fs fs' path (f.fileName id ext) place data := by
  obtain ⟨rfl, place, hplace, hgrows⟩ := save_ok h
  obtain ⟨hslash, hname⟩ := plain_fileName hstem id ext
  have hfresh := hgrows.fresh place (List.mem_singleton_self place)
  have hothers : ∀ p, p ≠ place → p ∉ [place] := fun p hp h => hp (List.mem_singleton.1 h)
  refine ⟨place, rfl, Path.fileName?_join f.dir hslash hname, names_fileName f id ext,
    hasEntry_filePath hstem hplace.located, lookup_eq hplace.located hplace.file, hfresh, ?_,
    fun p hp _ => hgrows.file_iff (hothers p hp), fun p hp => hgrows.rest p (hothers p hp)⟩
  -- What the path led to before would still be there, but it is the new file that is.
  rintro ⟨old, node⟩ hfound
  obtain ⟨hlocate, hnode⟩ := lookup_inv hfound
  have hsame := hgrows.extends.keepsDirectories.locate hlocate
  rw [hplace.located] at hsame
  cases hsame
  rw [hfresh] at hnode
  cases hnode

/-- What has the name already is left alone. -/
theorem save_fails_of_taken (hstem : '/' ∉ f.stem.toList) {found : Place × FileNode}
    (h : fs.lookup (f.filePath id ext) = .ok found) :
    ∃ error fs', f.save fs trouble id data ext = (.error error, fs') ∧
      fs'.lookup (f.filePath id ext) = .ok found := by
  cases hsave : f.save fs trouble id data ext with
  | mk result fs' =>
    cases result with
    | ok path =>
      obtain ⟨rfl, -⟩ := save_ok hsave
      obtain ⟨place, hadded⟩ := added_of_save hstem hsave
      exact absurd h (hadded.absent found)
    | error error =>
      obtain ⟨place, node⟩ := found
      obtain ⟨hlocate, hnode⟩ := lookup_inv h
      have hextends := (save_error hsave).extends
      exact ⟨error, fs', rfl,
        lookup_eq (hextends.keepsDirectories.locate hlocate) (hextends _ _ hnode)⟩

end

/-- A save is confined to its folder and atomic. Whatever the disk refuses and whatever extension is
asked for, either one new file holds the data, as an entry of the folder under a name of its own; or
the save fails, and all files are what they were. A name that is taken makes it fail. A download is
the save of what was fetched, and touches nothing if nothing was. -/
theorem save_is_confined {f : Folder} (hstem : '/' ∉ f.stem.toList) (fs : FileSystem)
    (trouble : Trouble) (id : FileId) (data : ByteArray) (ext : String) :
    (∀ path fs', f.save fs trouble id data ext = (.ok path, fs') →
      ∃ name place, f.Added fs fs' path name place data) ∧
    (∀ error fs', f.save fs trouble id data ext = (.error error, fs') → f.Unchanged fs fs') ∧
    (∀ found, fs.lookup (f.filePath id ext) = .ok found →
      ∃ error fs', f.save fs trouble id data ext = (.error error, fs') ∧
        fs'.lookup (f.filePath id ext) = .ok found) ∧
    f.download fs trouble id (.ok data) ext =
      ((f.save fs trouble id data ext).1.toOption, (f.save fs trouble id data ext).2) ∧
    ∀ failure, f.download fs trouble id (.error failure) ext = (none, fs) := by
  refine ⟨fun path fs' hsave => ?_, fun error fs' hsave => ?_, fun found hfound => ?_, download_ok,
    fun _ => rfl⟩
  · exact ⟨_, added_of_save hstem hsave⟩
  · exact unchanged_of_grows (save_error hsave)
  · exact save_fails_of_taken hstem hfound

/-- An extension that is a way out of the folder is saved as letters, inside; and nothing is left of
it on a disk that is full. -/
theorem wayOut_is_confined :
    let f : Folder := ⟨"/media", "wa_"⟩
    let wayOut := "../../etc/\x00.pass\u00df"
    '/' ∉ f.stem.toList ∧
      (∃ fs' name place, f.save .empty .none (.ofNat 7) ⟨#[1]⟩ wayOut =
          (.ok "/media/wa_00000000000000000000000000000007.etcpass", fs') ∧
        f.Added .empty fs' "/media/wa_00000000000000000000000000000007.etcpass" name place ⟨#[1]⟩) ∧
      ∃ error fs', f.save .empty ⟨none, none, some (.other "disk full")⟩ (.ofNat 7) ⟨#[1]⟩ wayOut =
          (.error error, fs') ∧ f.Unchanged .empty fs' := by
  intro f wayOut
  have hstem : '/' ∉ f.stem.toList := by decide
  refine ⟨hstem, ?_, ?_⟩
  · obtain ⟨hadded, -⟩ := save_is_confined hstem .empty .none (.ofNat 7) ⟨#[1]⟩ wayOut
    have hpath : (f.save .empty .none (.ofNat 7) ⟨#[1]⟩ wayOut).1 =
        .ok "/media/wa_00000000000000000000000000000007.etcpass" := by decide +kernel
    cases hsave : f.save .empty .none (.ofNat 7) ⟨#[1]⟩ wayOut with
    | mk result fs' =>
      rw [hsave] at hpath
      obtain rfl := hpath
      obtain ⟨name, place, h⟩ := hadded _ _ hsave
      exact ⟨fs', name, place, rfl, h⟩
  · let full : Trouble := ⟨none, none, some (.other "disk full")⟩
    obtain ⟨-, hunchanged, -⟩ := save_is_confined hstem .empty full (.ofNat 7) ⟨#[1]⟩ wayOut
    have hfails : (f.save .empty full (.ofNat 7) ⟨#[1]⟩ wayOut).1.isOk = false := by decide +kernel
    cases hsave : f.save .empty full (.ofNat 7) ⟨#[1]⟩ wayOut with
    | mk result fs' =>
      rw [hsave] at hfails
      cases result with
      | ok path => cases hfails
      | error error => exact ⟨error, fs', rfl, hunchanged _ _ hsave⟩

end ChatChannel.Media.Folder
