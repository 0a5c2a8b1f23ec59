import ChatChannel.Proofs.Native.Lines
import Mathlib.Data.List.Nodup

/-!
# ChatChannel.Proofs.Native.Inventory

The files of one message. The attachments are downloaded in turn, and each download that succeeds
adds one file at a place of its own (`Inventory`). The message names these files, its guard tracks
them, and the file system holds them: three books that are kept apart from each other.

* `inventory_all`: what the downloads of all attachments leave.
* `files_are_booked`: the three books agree, and a message that is dropped leaves no file.
-/

namespace ChatChannel.Native

open FileSystem Media

/-- These files have been saved for the attachments of these kinds: one for each of which the
download succeeded, in order. -/
structure Inventory (n : Intake) (attempts : AttachmentKind → Attempt) (c : Content)
    (fs : FileSystem) (kinds : List AttachmentKind) (saved : List Saved) : Prop where
  listed : saved.map (fun e => (e.1, e.2.path)) =
    kinds.filterMap fun k => (n.saved? attempts c fs k).map (k, ·)
  origin : ∀ e ∈ saved, e.IsFrom n attempts c
  stock : Stock n.folder fs (saved.map (·.2)) (n.fetchAll attempts c fs kinds)
  apart : (saved.map (·.2.place)).Nodup

/-- The books of a message agree. -/
structure Booked (n : Intake) (attempts : AttachmentKind → Attempt) (c : Content)
    (fs : FileSystem) (message : InboundMessage) (d : Draft) : Prop where
  /-- The message names the files of the downloads that succeeded, in order. -/
  named : message.media = AttachmentKind.all.filterMap (n.saved? attempts c fs)
  /-- The guard tracks the same files. -/
  tracked : d.media.paths = message.media
  /-- No two of them are one file. -/
  apart : (message.media.map d.fs.locate).Nodup
  /-- Each is a new file in the folder itself, and holds what was fetched for its attachment. -/
  saved : ∀ k path, n.saved? attempts c fs k = some path →
    ∃ a place data, c.attachment? k = some a ∧ (attempts k).fetched = .ok data ∧
      fs.node? place = none ∧ d.fs.lookup path = .ok (place, .file data) ∧
      d.fs.HasEntry n.folder.dir (n.folder.fileName (attempts k).id (k.extension a)) place
  /-- All other files are those that were there before. -/
  files : ∀ place data, d.fs.node? place = some (.file data) ↔
    fs.node? place = some (.file data) ∨
      ∃ path ∈ message.media, d.fs.lookup path = .ok (place, .file data)

section

variable {n : Intake} {attempts : AttachmentKind → Attempt} {c : Content} {fs fs₁ fs' : FileSystem}
  {kinds : List AttachmentKind} {k : AttachmentKind} {saved : List Saved} {files : List StoredFile}
  {path : String}

/-! ## Downloads in turn -/

theorem stock_fetch_none (h : Stock n.folder fs files fs₁)
    (hfetch : n.fetch attempts c fs₁ k = (none, fs')) : Stock n.folder fs files fs' := by
  unfold Intake.fetch at hfetch
  split at hfetch
  · cases hfetch
    exact h
  · exact h.download_none hfetch

theorem stock_fetch_some (h : Stock n.folder fs files fs₁)
    (hfetch : n.fetch attempts c fs₁ k = (some path, fs')) :
    ∃ f : StoredFile, f.path = path ∧ Saved.IsFrom n attempts c (k, f) ∧
      Stock n.folder fs (files ++ [f]) fs' ∧ f.place ∉ files.map StoredFile.place := by
  unfold Intake.fetch at hfetch
  split at hfetch
  · cases hfetch
  · rename_i a ha
    obtain ⟨place, data, hfetched, hpath, hstock, hfresh⟩ := h.download_some hfetch
    exact ⟨⟨path, place, data⟩, rfl, ⟨a, ha, hfetched, hpath⟩, hstock, hfresh⟩

theorem inventory_nil (n : Intake) (attempts : AttachmentKind → Attempt) (c : Content)
    (fs : FileSystem) : Inventory n attempts c fs [] [] where
  listed := rfl
  origin := nofun
  stock := ⟨nofun, .of_same fun _ => rfl⟩
  apart := List.nodup_nil

/-- The next download adds a file or nothing. -/
theorem Inventory.next (h : Inventory n attempts c fs kinds saved)
    (hk : AttachmentKind.all.takeWhile (· ≠ k) = kinds) :
    ∃ saved', Inventory n attempts c fs (kinds ++ [k]) saved' := by
  have hsaved : n.saved? attempts c fs k =
      (n.fetch attempts c (n.fetchAll attempts c fs kinds) k).1 := by
    rw [Intake.saved?, hk]
  have hfs : n.fetchAll attempts c fs (kinds ++ [k]) = _ := fetchAll_concat
  cases hfetch : n.fetch attempts c (n.fetchAll attempts c fs kinds) k with
  | mk path? fs' =>
    rw [hfetch] at hsaved hfs
    cases path? with
    | none =>
      refine ⟨saved, ?_, h.origin, hfs ▸ stock_fetch_none h.stock hfetch, h.apart⟩
      simp [h.listed, hsaved]
    | some path =>
      obtain ⟨f, hpath, horigin, hstock, hfresh⟩ := stock_fetch_some h.stock hfetch
      refine ⟨saved ++ [(k, f)], ?_, ?_, ?_, ?_⟩
      · simp [h.listed, hsaved, hpath]
      · intro e he
        rcases List.mem_append.1 he with he | he
        · exact h.origin e he
        · obtain rfl := List.mem_singleton.1 he
          exact horigin
      · rw [List.map_append, hfs]
        exact hstock
      · rw [List.map_map] at hfresh
        rw [List.map_append]
        exact List.Nodup.append h.apart (List.nodup_singleton _) (List.disjoint_singleton.2 hfresh)

theorem Inventory.paths (h : Inventory n attempts c fs kinds saved) :
    saved.map (·.2.path) = kinds.filterMap (n.saved? attempts c fs) := by
  have hpaths := congrArg (List.map Prod.snd) h.listed
  rw [List.map_map, List.map_filterMap] at hpaths
  refine hpaths.trans (List.filterMap_congr fun k _ => ?_)
  cases n.saved? attempts c fs k <;> rfl

theorem Inventory.mem_of_saved? (h : Inventory n attempts c fs kinds saved) (hk : k ∈ kinds)
    (hpath : n.saved? attempts c fs k = some path) :
    ∃ f : StoredFile, (k, f) ∈ saved ∧ f.path = path := by
  have hmem : (k, path) ∈ saved.map fun e => (e.1, e.2.path) := by
    rw [h.listed, List.mem_filterMap]
    exact ⟨k, hk, by rw [hpath]; rfl⟩
  obtain ⟨⟨k', f⟩, he, hsame⟩ := List.mem_map.1 hmem
  obtain ⟨rfl, rfl⟩ := Prod.mk.inj hsame
  exact ⟨f, he, rfl⟩

end

theorem inventory_all (n : Intake) (attempts : AttachmentKind → Attempt) (c : Content)
    (fs : FileSystem) : ∃ saved, Inventory n attempts c fs AttachmentKind.all saved := by
  obtain ⟨_, himage⟩ := (inventory_nil n attempts c fs).next (k := .image) rfl
  obtain ⟨_, hvideo⟩ := himage.next (k := .video) rfl
  obtain ⟨_, hdocument⟩ := hvideo.next (k := .document) rfl
  exact hdocument.next (k := .audio) rfl

/-! ## The books -/

section

variable {n : Intake} {attempts : AttachmentKind → Attempt} {c : Content} {fs : FileSystem}
  {m : Message} {message : InboundMessage} {saved : List Saved} {d : Draft}

theorem AttachmentKind.mem_all (k : AttachmentKind) : k ∈ AttachmentKind.all := by
  cases k <;> decide

theorem Inventory.booked (h : Inventory n attempts c fs AttachmentKind.all saved)
    (hstem : '/' ∉ n.folder.stem.toList) (hfs : d.fs = n.fetchAll attempts c fs AttachmentKind.all)
    (hnamed : message.media = AttachmentKind.all.filterMap (n.saved? attempts c fs))
    (htracked : d.media.paths = message.media) : Booked n attempts c fs message d := by
  have hstock : Stock n.folder fs (saved.map (·.2)) d.fs := hfs ▸ h.stock
  have hplace : ∀ e ∈ saved, d.fs.InPlace e.2 := List.forall_mem_map.1 hstock.inPlace
  have hmedia : message.media = saved.map (·.2.path) := hnamed.trans h.paths.symm
  refine ⟨hnamed, htracked, ?_, ?_, ?_⟩
  · have hlocated : message.media.map d.fs.locate = (saved.map (·.2.place)).map .ok := by
      rw [hmedia, List.map_map, List.map_map]
      exact List.map_congr_left fun e he => (hplace e he).located
    rw [hlocated]
    exact List.Nodup.map (fun _ _ => Except.ok.inj) h.apart
  · intro k path hpath
    obtain ⟨f, hf, rfl⟩ := h.mem_of_saved? k.mem_all hpath
    obtain ⟨a, ha, hfetched, hname⟩ := h.origin _ hf
    have hin := hplace _ hf
    have hfresh := hstock.grows.fresh f.place (by simpa using ⟨k, f, hf, rfl⟩)
    refine ⟨a, f.place, f.content, ha, hfetched, hfresh, ?_, ?_⟩
    · simp only [lookup, hin.located, hin.file]
    · exact Folder.hasEntry_filePath hstem (hname ▸ hin.located)
  · intro place data
    rw [hstock.node?_file_iff, hmedia]
    refine or_congr_right ⟨?_, ?_⟩
    · rintro ⟨f, hf, rfl, rfl⟩
      obtain ⟨e, he, rfl⟩ := List.mem_map.1 hf
      refine ⟨e.2.path, List.mem_map_of_mem he, ?_⟩
      simp only [lookup, (hplace e he).located, (hplace e he).file]
    · rintro ⟨path, hpath, hlookup⟩
      obtain ⟨e, he, rfl⟩ := List.mem_map.1 hpath
      simp only [lookup, (hplace e he).located, (hplace e he).file] at hlookup
      cases hlookup
      exact ⟨e.2, List.mem_map_of_mem he, rfl, rfl⟩

theorem fs_of_takeIn (h : n.takeIn attempts fs m = (some message, d)) :
    d.fs = n.fetchAll attempts m.content fs AttachmentKind.all := by
  unfold Intake.takeIn at h
  dsimp only at h
  split at h
  · cases h
  · cases h
    exact (holds_collect n attempts fs m).fs

theorem media_of_takeIn (h : n.takeIn attempts fs m = (some message, d)) :
    message.media = AttachmentKind.all.filterMap (n.saved? attempts m.content fs) := by
  have hfst := takeIn_fst n attempts fs m
  rw [h] at hfst
  split at hfst
  · cases hfst
  · cases hfst
    rw [media_addFacts, Intake.gathered]

theorem saved?_of_takeIn_none (h : n.takeIn attempts fs m = (none, d)) (k : AttachmentKind) :
    n.saved? attempts m.content fs k = none := by
  have hfst := takeIn_fst n attempts fs m
  rw [h] at hfst
  split at hfst
  · rename_i hempty
    exact ((isEmpty_gathered_iff n attempts fs m).1 hempty).2 k
  · cases hfst

end

/-- Whatever the platform and the disk refuse, the books of a message for the bus agree. A message
is dropped only if no attachment was saved, and then it leaves no file. -/
theorem files_are_booked {n : Intake} (hstem : '/' ∉ n.folder.stem.toList)
    (attempts : AttachmentKind → Attempt) (fs : FileSystem) (m : Message) :
    (∀ message d, n.takeIn attempts fs m = (some message, d) →
      Booked n attempts m.content fs message d) ∧
    ∀ d, n.takeIn attempts fs m = (none, d) → (∀ k, n.saved? attempts m.content fs k = none) ∧
      ∀ place data,
        d.fs.node? place = some (.file data) ↔ fs.node? place = some (.file data) := by
  constructor
  · intro message d h
    obtain ⟨saved, hinventory⟩ := inventory_all n attempts m.content fs
    obtain ⟨_, -, hsound, hmedia⟩ := takeIn_some h
    exact hinventory.booked hstem (fs_of_takeIn h) (media_of_takeIn h)
      (hsound.tracked.trans hmedia.symm)
  · intro d h
    refine ⟨saved?_of_takeIn_none h, fun place data => ?_⟩
    have hstock : Stock n.folder fs [] d.fs := ⟨nofun, takeIn_none h⟩
    have hiff : d.fs.node? place = some (.file data) ↔ _ := hstock.node?_file_iff
    simpa using hiff

/-- All attachments can be downloaded, but they get one identifier. -/
def sameId (_ : AttachmentKind) : Attempt :=
  ⟨.ok ⟨#[1]⟩, .ofNat 7, .none⟩

/-- A message whose image and document are both saved with the extension of a document. -/
def twoDocuments : Message :=
  let plain (fileName mediaType : Option String) : Attachment :=
    ⟨none, fileName, mediaType, "", ⟨#[]⟩, 0, false⟩
  { allParts with
    content := ⟨none, none, some (plain none "application/pdf"), some (plain none none),
      some (plain "a.pdf" none), none, none⟩ }

/-- The document finds its name taken, so it is left out of all three books. -/
theorem twoDocuments_booked : '/' ∉ listeningIntake.folder.stem.toList ∧ ∃ message d,
    listeningIntake.takeIn sameId .empty twoDocuments = (some message, d) ∧
      message.media = ["/media/wa_00000000000000000000000000000007.pdf",
        "/media/wa_00000000000000000000000000000007.mp4"] ∧
      Booked listeningIntake sameId twoDocuments.content .empty message d := by
  have hstem : '/' ∉ listeningIntake.folder.stem.toList := by decide
  obtain ⟨hbooked, -⟩ := files_are_booked hstem sameId .empty twoDocuments
  have hmedia : (listeningIntake.takeIn sameId .empty twoDocuments).1.map (·.media) =
      some ["/media/wa_00000000000000000000000000000007.pdf",
        "/media/wa_00000000000000000000000000000007.mp4"] := by
    decide +kernel
  cases htake : listeningIntake.takeIn sameId .empty twoDocuments with
  | mk message? d =>
    rw [htake] at hmedia
    obtain ⟨message, rfl, hmedia⟩ := Option.map_eq_some_iff.1 hmedia
    exact ⟨hstem, message, d, rfl, Option.some.inj hmedia, hbooked message d htake⟩

end ChatChannel.Native
