import ChatChannel.Proofs.Media.Room
import ChatChannel.Proofs.Native.Inventory

/-!
# ChatChannel.Proofs.Native.Documents

What becomes of the name that a peer gives a document. Only the letters and digits of its extension
get into the name of the saved file; the two places where the extension is chosen and cleaned do not
know of each other, and neither knows how long a name may be.

* `document_saved_iff`: a document is lost exactly if its extension is too long.
* `document_extension_iff`: its file has the extension that is due, unless the declared one is made
  of characters that are all dropped.
-/

namespace ChatChannel.Native

open FileSystem Media

/-- The characters of a declared name's extension that can stand in the name of a file. -/
def usableChars (declared : Option String) : List Char :=
  ((declared.bind Path.extension?).getD []).filter Char.isAlphanum

/-- The extension that is due to a document with this declared name: its usable characters, or the
one of attachments whose type cannot be determined. -/
def dueExtension (declared : Option String) : List Char :=
  if usableChars declared = [] then untypedExtension.toList else '.' :: usableChars declared

/-- The declared name has an extension, but none of its characters can be used. -/
def HasUnusableExtension (declared : Option String) : Prop :=
  usableChars declared = [] ∧ ∃ ext, ext ≠ [] ∧ declared.bind Path.extension? = some ext

section

variable {n : Intake} {attempts : AttachmentKind → Attempt} {c : Content} {fs : FileSystem}
  {k : AttachmentKind} {m : Message} {a : Attachment} {declared : Option String}
  {path name : String} {data : ByteArray}

/-! ## Extensions of documents -/

theorem isExtension_dueExtension (declared : Option String) :
    IsExtension (dueExtension declared) := by
  unfold dueExtension
  split
  · exact ⟨['b', 'i', 'n'], rfl, by simp, by simp⟩
  · rename_i hne
    exact ⟨usableChars declared, rfl, hne, fun c hc => (List.mem_filter.1 hc).2⟩

theorem toList_normalizedExtension (ext : String) :
    (normalizedExtension ext).toList =
      if ext.toList.filter Char.isAlphanum = [] then []
      else '.' :: ext.toList.filter Char.isAlphanum := by
  have hchars : isExtensionChar = Char.isAlphanum := rfl
  unfold normalizedExtension
  rw [hchars]
  split
  · rename_i hnil
    rw [if_pos hnil]
    rfl
  · rename_i hne
    rw [if_neg hne, String.toList_ofList]

/-- The extension that a document's file gets is the one that is due, or none. -/
theorem documentExtension_cases (a : Attachment) :
    HasUnusableExtension a.fileName ∧ (normalizedExtension (documentExtension a)).toList = [] ∨
      ¬HasUnusableExtension a.fileName ∧
        (normalizedExtension (documentExtension a)).toList = dueExtension a.fileName := by
  have huntyped : (normalizedExtension untypedExtension).toList = untypedExtension.toList := by
    decide
  rw [documentExtension, extensionOfName]
  cases hext : a.fileName.bind Path.extension? with
  | none =>
    refine .inr ⟨?_, ?_⟩
    · rintro ⟨-, ext, -, hsome⟩
      rw [hext] at hsome
      cases hsome
    · rw [dueExtension, if_pos (by rw [usableChars, hext]; rfl)]
      exact huntyped
  | some ext =>
    cases ext with
    | nil =>
      refine .inr ⟨?_, ?_⟩
      · rintro ⟨-, ext, hne, hsome⟩
        rw [hext] at hsome
        cases hsome
        exact hne rfl
      · rw [dueExtension, if_pos (by rw [usableChars, hext]; rfl)]
        exact huntyped
    | cons first rest =>
      -- The dot that is put before the extension is dropped with what cannot be used.
      have husable : (String.ofList ('.' :: first :: rest)).toList.filter Char.isAlphanum =
          usableChars a.fileName := by
        rw [usableChars, hext, String.toList_ofList, List.filter_cons_of_neg (by decide)]
        rfl
      rw [toList_normalizedExtension, husable]
      by_cases hnone : usableChars a.fileName = []
      · exact .inl ⟨⟨hnone, _, List.cons_ne_nil first rest, hext⟩, if_pos hnone⟩
      · exact .inr ⟨fun h => hnone h.1, by rw [if_neg hnone, dueExtension, if_neg hnone]⟩

/-! ## Saved attachments -/

theorem path_of_saved? (h : n.saved? attempts c fs k = some path) :
    ∃ a, c.attachment? k = some a ∧
      path = n.folder.filePath (attempts k).id (k.extension a) := by
  unfold Intake.saved? Intake.fetch at h
  split at h
  · cases h
  · rename_i a ha
    exact ⟨a, ha, (Folder.download_some (Prod.ext h rfl)).1⟩

/-- A saved attachment reaches the bus with what was fetched for it. -/
theorem takeIn_of_saved? (h : n.saved? attempts m.content fs k = some path) :
    ∃ message d, n.takeIn attempts fs m = (some message, d) ∧ path ∈ message.media ∧
      ∃ data, (attempts k).fetched = .ok data ∧ d.fs.readFile path = .ok data := by
  obtain ⟨saved, hinventory⟩ := inventory_all n attempts m.content fs
  obtain ⟨f, hf, rfl⟩ := hinventory.mem_of_saved? k.mem_all h
  obtain ⟨_, -, hfetched, -⟩ := hinventory.origin _ hf
  cases htake : n.takeIn attempts fs m with
  | mk message? d =>
    cases message? with
    | none =>
      rw [saved?_of_takeIn_none htake k] at h
      cases h
    | some message =>
      have hplace : d.fs.InPlace f := by
        rw [fs_of_takeIn htake]
        exact hinventory.stock.inPlace f (List.mem_map_of_mem hf)
      refine ⟨message, d, rfl, ?_, f.content, hfetched, hplace.readFile⟩
      rw [media_of_takeIn htake, ← hinventory.paths]
      exact List.mem_map_of_mem hf

theorem fileName?_of_saved_document (hstem : n.folder.stem = mediaStem)
    (ha : c.document = some a) (h : n.saved? attempts c fs .document = some path) :
    Path.fileName? path = some (mediaStem.toList ++
      Text.hexDigitsOf 32 (attempts .document).id.val ++
      (normalizedExtension (documentExtension a)).toList) := by
  obtain ⟨a', ha', rfl⟩ := path_of_saved? h
  obtain rfl : a' = a := Option.some.inj (ha'.symm.trans ha)
  have hslash : '/' ∉ n.folder.stem.toList := by rw [hstem]; decide
  obtain ⟨hplain, hname⟩ :=
    Folder.plain_fileName hslash (attempts .document).id (documentExtension a')
  rw [← hstem, ← Folder.toList_fileName]
  exact Path.fileName?_join n.folder.dir hplain hname

/-! ## Room for a document -/

theorem hasRoom_fetchAll (hstem : '/' ∉ n.folder.stem.toList) (hroom : n.folder.HasRoom fs name)
    (kinds : List AttachmentKind)
    (hids : ∀ k ∈ kinds, ∀ ext, n.folder.fileName (attempts k).id ext ≠ name) :
    n.folder.HasRoom (n.fetchAll attempts c fs kinds) name := by
  induction kinds using List.reverseRecOn with
  | nil => exact hroom
  | append_singleton kinds k ih =>
    have hroom := ih fun k hk => hids k (List.mem_append_left _ hk)
    rw [fetchAll_concat, Intake.fetch]
    split
    · exact hroom
    · exact Folder.hasRoom_download hroom hstem (hids k (by simp) _) _

/-- What comes of a document that was fetched: it is saved, unless its name is too long. -/
theorem saved?_document (hstem : n.folder.stem = mediaStem) (ha : m.content.document = some a)
    (hfetched : (attempts .document).fetched = .ok data)
    (hdisk : (attempts .document).trouble = .none)
    (hroom : n.folder.HasRoom fs
      (n.folder.fileName (attempts .document).id (documentExtension a)))
    (hids : ∀ k, k ≠ .document → (attempts k).id ≠ (attempts .document).id) :
    n.saved? attempts m.content fs .document =
      if maxName <
          (n.folder.fileName (attempts .document).id (documentExtension a)).utf8ByteSize then
        none
      else some (n.folder.filePath (attempts .document).id (documentExtension a)) := by
  have hslash : '/' ∉ n.folder.stem.toList := by rw [hstem]; decide
  have hnul : '\x00' ∉ n.folder.stem.toList := by rw [hstem]; decide
  have hbefore : n.folder.HasRoom (n.fetchAll attempts m.content fs [.image, .video])
      (n.folder.fileName (attempts .document).id (documentExtension a)) := by
    refine hasRoom_fetchAll hslash hroom _ fun k hk ext hname => ?_
    have hk : k ≠ .document := by
      rintro rfl
      exact absurd hk (by decide)
    exact hids k hk (Folder.fileName_inj hname)
  have hsaved : n.saved? attempts m.content fs .document =
      (n.folder.download (n.fetchAll attempts m.content fs [.image, .video])
        (attempts .document).trouble (attempts .document).id (attempts .document).fetched
        (documentExtension a)).1 := by
    simp only [Intake.saved?, Intake.fetch, Content.attachment?, ha]
    rfl
  rw [hsaved, hdisk, hfetched]
  exact Folder.download_fst hbefore hslash hnul

/-- The name of a document's file is too long exactly if so many characters of its extension can be
used. -/
theorem maxName_lt_iff (hstem : n.folder.stem = mediaStem) (id : FileId) :
    maxName < (n.folder.fileName id (documentExtension a)).utf8ByteSize ↔
      219 < (usableChars a.fileName).length := by
  have hsize : mediaStem.utf8ByteSize = 3 := rfl
  rw [Folder.utf8ByteSize_fileName, hstem, hsize, ← String.length_toList, maxName]
  rcases documentExtension_cases a with ⟨⟨hnone, -⟩, hext⟩ | ⟨-, hext⟩
  · simp [hext, hnone]
  · rw [hext, dueExtension]
    split
    · rename_i hnone
      simp [hnone, untypedExtension]
    · rw [List.length_cons]
      omega

/-! ## Documents on the bus -/

/-- A document whose bytes are fetched, and for which there is room, reaches the bus exactly if its
declared extension has not too many usable characters. With more it is lost: its file would have a
name of more than 255 bytes. -/
theorem document_saved_iff (hstem : n.folder.stem = mediaStem) (ha : m.content.document = some a)
    (hfetched : (attempts .document).fetched = .ok data)
    (hdisk : (attempts .document).trouble = .none)
    (hroom : n.folder.HasRoom fs
      (n.folder.fileName (attempts .document).id (documentExtension a)))
    (hids : ∀ k, k ≠ .document → (attempts k).id ≠ (attempts .document).id) :
    (∃ message d path, n.takeIn attempts fs m = (some message, d) ∧
        n.saved? attempts m.content fs .document = some path ∧ path ∈ message.media ∧
        d.fs.readFile path = .ok data) ↔
      (usableChars a.fileName).length ≤ 219 := by
  have hsaved := saved?_document hstem ha hfetched hdisk hroom hids
  have hlong := maxName_lt_iff (a := a) hstem (attempts .document).id
  constructor
  · rintro ⟨_, _, path, -, hpath, -⟩
    rw [hsaved] at hpath
    split at hpath
    · cases hpath
    · omega
  · intro hshort
    rw [if_neg (by omega)] at hsaved
    obtain ⟨message, d, htake, hmem, data', hfetched', hread⟩ := takeIn_of_saved? hsaved
    rw [hfetched] at hfetched'
    cases hfetched'
    exact ⟨message, d, _, htake, hsaved, hmem, hread⟩

end

/-- A message with nothing but a document, which has this name. -/
def documentNamed (name : String) : Message :=
  let sender : Address := .ofAccount "15551234567" "s.whatsapp.net"
  ⟨⟨"3EB0C767D26A", sender, sender, false, false, "Ann"⟩,
    ⟨none, none, none, none, some ⟨none, some name, none, "/doc", ⟨#[1, 255]⟩, 4, false⟩, none,
      none⟩⟩

/-- A name whose extension has so many letters. -/
def longName (letters : Nat) : String :=
  "a." ++ String.ofList (List.replicate letters 'x')

theorem usableChars_longName (letters : Nat) :
    usableChars (some (longName letters)) = List.replicate letters 'x' := by
  have hname : (longName letters).toList = ['a'] ++ '.' :: List.replicate letters 'x' := by
    simp [longName]
  have hslash : '/' ∉ (longName letters).toList := by simp [hname]
  have hplain : longName letters ∉ ["", ".", ".."] := by
    simp [← String.toList_inj, hname]
  have hext : Path.extension? (longName letters) = some (List.replicate letters 'x') :=
    (Path.extension?_eq_some_iff (Path.fileName?_of_not_mem hslash hplain)).2
      ⟨['a'], List.cons_ne_nil _ _, hname, by simp⟩
  rw [usableChars, Option.bind_some, hext, Option.getD_some]
  exact List.filter_eq_self.2 fun c hc => by rw [List.eq_of_mem_replicate hc]; decide

/-- In an empty file system there is room for every name. -/
theorem hasRoom_empty (name : String) : listeningIntake.folder.HasRoom .empty name := by
  refine ⟨⟨[(["media"], .directory 0o700)]⟩, ["media"], rfl, .inr ⟨0o700, rfl⟩, rfl, ?_⟩
  simp [node?]

theorem expiredImage_ids (k : AttachmentKind) (hk : k ≠ .document) :
    (expiredImage k).id ≠ (expiredImage .document).id := by
  cases k with
  | document => exact absurd rfl hk
  | image | video | audio => decide

/-- The longest name that a file can get. -/
theorem longestName_saved :
    let m := documentNamed (longName 219)
    listeningIntake.folder.HasRoom .empty
        (listeningIntake.folder.fileName (.ofNat 3) (Media.extensionOfName (longName 219))) ∧
      ∃ message d path, listeningIntake.takeIn expiredImage .empty m = (some message, d) ∧
        listeningIntake.saved? expiredImage m.content .empty .document = some path ∧
        path ∈ message.media ∧ d.fs.readFile path = .ok ⟨#[2]⟩ := by
  intro m
  refine ⟨hasRoom_empty _, (document_saved_iff rfl rfl rfl rfl (hasRoom_empty _)
    expiredImage_ids).2 ?_⟩
  rw [usableChars_longName, List.length_replicate]

/-- With one letter more, the document that was fetched is lost, and the message is dropped with
it. -/
theorem longerName_lost :
    let m := documentNamed (longName 220)
    (expiredImage .document).fetched = .ok ⟨#[2]⟩ ∧ (expiredImage .document).trouble = .none ∧
      listeningIntake.folder.HasRoom .empty
        (listeningIntake.folder.fileName (.ofNat 3) (Media.extensionOfName (longName 220))) ∧
      (∀ k, k ≠ .document → (expiredImage k).id ≠ (expiredImage .document).id) ∧
      (listeningIntake.takeIn expiredImage .empty m).1 = none := by
  intro m
  have hdocument : listeningIntake.saved? expiredImage m.content .empty .document = none := by
    rw [saved?_document rfl rfl rfl rfl (hasRoom_empty _) expiredImage_ids, if_pos]
    rw [maxName_lt_iff rfl, usableChars_longName, List.length_replicate]
    decide
  have hnone (k : AttachmentKind) :
      listeningIntake.saved? expiredImage m.content .empty k = none := by
    cases k with
    | document => exact hdocument
    | image | video | audio =>
      refine Option.eq_none_iff_forall_ne_some.2 fun path hpath => ?_
      obtain ⟨a, ha, -⟩ := path_of_saved? hpath
      cases ha
  refine ⟨rfl, rfl, hasRoom_empty _, expiredImage_ids, ?_⟩
  rw [takeIn_fst, if_pos]
  refine (isEmpty_gathered_iff _ _ _ _).2 ⟨fun line hline => ?_, hnone⟩
  -- Without a saved recording there is no note, and the message says nothing else.
  rw [Intake.lines, Intake.voiceNote?, hnone] at hline
  cases hline

section

variable {n : Intake} {attempts : AttachmentKind → Attempt} {fs : FileSystem} {m : Message}
  {a : Attachment} {path : String}

/-- The file of a document that is saved has the extension that is due to it exactly if its declared
name has no extension or one with a usable character. Otherwise it has none at all. -/
theorem document_extension_iff (hstem : n.folder.stem = mediaStem)
    (ha : m.content.document = some a)
    (hsaved : n.saved? attempts m.content fs .document = some path) :
    (∃ message d, n.takeIn attempts fs m = (some message, d) ∧ path ∈ message.media) ∧
      IsExtension (dueExtension a.fileName) ∧ ∃ name, Path.fileName? path = some name ∧
        (dueExtension a.fileName <:+ name ↔ ¬HasUnusableExtension a.fileName) ∧
        (HasUnusableExtension a.fileName → '.' ∉ name) := by
  obtain ⟨message, d, htake, hmem, -⟩ := takeIn_of_saved? hsaved
  refine ⟨⟨message, d, htake, hmem⟩, isExtension_dueExtension a.fileName, _,
    fileName?_of_saved_document hstem ha hsaved, ?_⟩
  have hdot : '.' ∉ mediaStem.toList ++ Text.hexDigitsOf 32 (attempts .document).id.val := by
    rw [List.mem_append, not_or]
    exact ⟨by decide, fun h => absurd (mem_lowerHexDigits h) (by decide)⟩
  rcases documentExtension_cases a with ⟨hunusable, hext⟩ | ⟨husable, hext⟩
  · rw [hext, List.append_nil]
    refine ⟨iff_of_false (fun hsuffix => hdot (hsuffix.subset ?_)) (not_not.2 hunusable),
      fun _ => hdot⟩
    obtain ⟨chars, hdue, -⟩ := isExtension_dueExtension a.fileName
    rw [hdue]
    exact List.mem_cons_self
  · rw [hext]
    exact ⟨iff_of_true (List.suffix_append _ _) husable, fun hunusable => absurd hunusable husable⟩

end

/-- One of the two characters behind the last dot cannot be used. -/
theorem mixedExtension_due :
    let m := documentNamed "../b.tar.日z"
    let path := "/media/wa_00000000000000000000000000000003.z"
    listeningIntake.saved? expiredImage m.content .empty .document = some path ∧
      dueExtension (some "../b.tar.日z") = ['.', 'z'] ∧
      ∃ name, Path.fileName? path = some name ∧ ['.', 'z'] <:+ name := by
  intro m path
  have hsaved : listeningIntake.saved? expiredImage m.content .empty .document = some path := by
    decide +kernel
  have hdue : dueExtension (some "../b.tar.日z") = ['.', 'z'] := by decide +kernel
  have husable : ¬HasUnusableExtension (some "../b.tar.日z") := fun h =>
    absurd h.1 (by decide +kernel)
  obtain ⟨-, -, name, hname, hiff, -⟩ := document_extension_iff rfl rfl hsaved
  exact ⟨hsaved, hdue, name, hname, hdue ▸ hiff.2 husable⟩

/-- A declared extension of which nothing is left: the file gets none, though it is due one. -/
theorem foreignExtension_lost :
    let m := documentNamed "a.日本"
    let path := "/media/wa_00000000000000000000000000000003"
    listeningIntake.saved? expiredImage m.content .empty .document = some path ∧
      dueExtension (some "a.日本") = ['.', 'b', 'i', 'n'] ∧
      ∃ name, Path.fileName? path = some name ∧ '.' ∉ name := by
  refine ⟨by decide +kernel, by decide +kernel,
    "wa_00000000000000000000000000000003".toList, by decide +kernel, by decide +kernel⟩

end ChatChannel.Native
