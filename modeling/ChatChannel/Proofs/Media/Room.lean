import ChatChannel.Proofs.FileSystem.Room
import ChatChannel.Proofs.Media

/-!
# ChatChannel.Proofs.Media.Room

When a save succeeds. If the folder can be used and the name is fresh, all that can go wrong is that
the name is too long.

* `HasRoom`: the folder takes an entry of this name.
* `hasRoom_download`: downloads under other names leave the room.
* `save_fst`: what comes of a save where there is room.
-/

namespace ChatChannel.Media.Folder

open FileSystem

/-- The folder is there or can be made, it takes new entries, and none of its entries has this
name. -/
def HasRoom (f : Folder) (fs : FileSystem) (name : String) : Prop :=
  ∃ made up, fs.makeDirectories f.dir 0o700 = (.ok (), made) ∧ made.LeadsTo f.dir up ∧
    made.writableAround (up ++ [name]) = true ∧ made.node? (up ++ [name]) = none

variable {f : Folder} {fs made fs' : FileSystem} {up : Place} {trouble : Trouble} {id : FileId}
  {data : ByteArray} {ext name path : String}

theorem hasRoom_of_leadsTo (hdir : fs.LeadsTo f.dir up)
    (hwritable : fs.writableAround (up ++ [name]) = true)
    (hfresh : fs.node? (up ++ [name]) = none) : f.HasRoom fs name :=
  ⟨fs, up, makeDirectories_of_leadsTo hdir, hdir, hwritable, hfresh⟩

/-! ## Downloads under other names -/

/-- Writing a file keeps the directories, and takes no other name. -/
theorem writeNew_keeps {result : Except SaveError String}
    (h : writeNew fs trouble data (f.filePath id ext) = (result, fs'))
    (hstem : '/' ∉ f.stem.toList) (hne : f.fileName id ext ≠ name) (up : Place) :
    fs.KeepsDirectories fs' ∧
      (fs.node? (up ++ [name]) = none → fs'.node? (up ++ [name]) = none) := by
  cases result with
  | error error =>
    have hsame := writeNew_error h
    exact ⟨fun p mode hp => (hsame p).trans hp, fun hfresh => (hsame _).trans hfresh⟩
  | ok path =>
    obtain ⟨-, place, hplace, hgrows⟩ : path = f.filePath id ext ∧
        ∃ place, fs'.InPlace ⟨_, place, data⟩ ∧ Grows 0 [] [place] fs fs' := writeNew_ok h
    refine ⟨hgrows.extends.keepsDirectories, fun hfresh => ?_⟩
    have hother : up ++ [name] ∉ [place] := by
      obtain ⟨dir, rfl, -⟩ := hasEntry_filePath hstem hplace.located
      intro hmem
      obtain ⟨-, hlast⟩ := List.append_inj' (List.mem_singleton.1 hmem) rfl
      exact hne (List.singleton_inj.1 hlast).symm
    rcases hgrows.rest _ hother with hsame | ⟨-, -, _, hup, -⟩
    · rw [hsame, hfresh]
    · cases hup

/-- A download under another name leaves the room for this one, however it ends. -/
theorem hasRoom_download (hroom : f.HasRoom fs name) (hstem : '/' ∉ f.stem.toList)
    (hne : f.fileName id ext ≠ name) (fetched : Except String ByteArray) :
    f.HasRoom (f.download fs trouble id fetched ext).2 name := by
  cases fetched with
  | error failure => exact hroom
  | ok data =>
    rw [download_ok]
    unfold save
    split
    · exact hroom
    · rename_i hmade
      obtain ⟨_, _, hmade', -⟩ := hroom
      rw [hmade] at hmade'
      cases hmade'
    · rename_i made hmade
      obtain ⟨_, up, hmade', hdir, hwritable, hfresh⟩ := hroom
      rw [hmade] at hmade'
      cases hmade'
      obtain ⟨hdirs, hkept⟩ := writeNew_keeps rfl hstem hne up
      exact hasRoom_of_leadsTo (hdirs.leadsTo hdir) (hdirs.writableAround hwritable) (hkept hfresh)

/-! ## Saving where there is room -/

/-- Where there is room, a save succeeds unless the name is too long. -/
theorem save_fst (hroom : f.HasRoom fs (f.fileName id ext)) (hstem : '/' ∉ f.stem.toList)
    (hnul : '\x00' ∉ f.stem.toList) :
    (f.save fs .none id data ext).1 =
      if maxName < (f.fileName id ext).utf8ByteSize then
        .error (.create (f.filePath id ext) .nameTooLong)
      else .ok (f.filePath id ext) := by
  obtain ⟨made, up, hmade, hdir, hwritable, hfresh⟩ := hroom
  obtain ⟨hslash, hname⟩ := plain_fileName hstem id ext
  have hcreate : made.createNew (f.filePath id ext) = _ :=
    createNew_join hdir hslash hname (nul_not_mem_fileName hnul) hwritable hfresh
  have hsave : f.save fs .none id data ext = writeNew made .none data (f.filePath id ext) := by
    simp only [save, hmade, Trouble.none]
  rw [hsave, writeNew, hcreate]
  by_cases hlong : maxName < (f.fileName id ext).utf8ByteSize
  · simp only [hlong, if_true, Trouble.none]
  · simp only [hlong, if_false, Trouble.none]

theorem download_fst (hroom : f.HasRoom fs (f.fileName id ext)) (hstem : '/' ∉ f.stem.toList)
    (hnul : '\x00' ∉ f.stem.toList) :
    (f.download fs .none id (.ok data) ext).1 =
      if maxName < (f.fileName id ext).utf8ByteSize then none else some (f.filePath id ext) := by
  rw [download_ok]
  dsimp only
  rw [save_fst hroom hstem hnul]
  split <;> rfl

end ChatChannel.Media.Folder
