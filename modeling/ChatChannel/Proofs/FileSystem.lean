import ChatChannel.FileSystem
import ChatChannel.Proofs.Path

/-!
# ChatChannel.Proofs.FileSystem

What file operations do to the nodes of a file system, place by place, and what stays reachable.

* `InPlace`: a file is where its path leads, and it can be removed.
* `Grows`: a file system has got nothing but some nodes at named places and the missing directories
  on the way to one directory.
* `Shrinks`: a file system has lost files at some places, and nothing else.
* `grows_makeDirectories`: making a directory is such a growth, also where it fails.
* `hasEntry_of_locate`: a name that is joined to a directory leads to an entry of that directory.
-/

namespace ChatChannel.FileSystem

variable {fs fs' fs₁ : FileSystem} {place p : Place} {node : FileNode} {path : String}
  {mode : Nat}

/-! ## Nodes -/

theorem place_ne_nil (h : fs.node? place = none) : place ≠ [] := by
  rintro rfl
  simp [node?] at h

theorem node?_insert (h : fs.node? place = none) :
    (fs.insert place node).node? p = if p = place then some node else fs.node? p := by
  have hne : place ≠ [] := place_ne_nil h
  have hfind : fs.nodes.find? (fun n => n.1 = place) = none := by
    simpa [node?, hne] using h
  by_cases hp : p = place
  · subst hp
    simp [node?, insert, hne, List.find?_append, hfind]
  · have hp' : ¬ place = p := fun h => hp h.symm
    simp [node?, insert, hp, hp', List.find?_append]

theorem node?_erase (hne : place ≠ []) :
    (fs.erase place).node? p = if p = place then none else fs.node? p := by
  by_cases hp : p = place
  · subst hp
    simp [node?, erase, hne, List.find?_filter]
  · -- The node that is looked for is none of those that are taken away.
    have hother : (fun n : Place × FileNode => !decide (n.1 = place) && decide (n.1 = p)) =
        fun n => decide (n.1 = p) := by
      funext n
      by_cases hn : n.1 = p
      · simp [hn, hp]
      · simp [hn]
    simp [node?, erase, hp, List.find?_filter, hother]

theorem find?_overwrite {data : ByteArray} (nodes : List (Place × FileNode)) :
    ((nodes.map fun n => if n.1 = place then (n.1, .file data) else n).find? fun n => n.1 = p) =
      (nodes.find? fun n => n.1 = p).map
        fun n => if n.1 = place then (n.1, .file data) else n := by
  induction nodes with
  | nil => rfl
  | cons n rest ih =>
    by_cases hn : n.1 = place <;> by_cases hp : n.1 = p <;> simp_all

theorem node?_overwrite {content data : ByteArray} (h : fs.node? place = some (.file content)) :
    (fs.overwrite place data).node? p = if p = place then some (.file data) else fs.node? p := by
  have hne : place ≠ [] := by
    rintro rfl
    simp [node?] at h
  by_cases hnil : p = []
  · simp [node?, hnil, hne.symm]
  · simp only [node?, overwrite, hnil, if_false, find?_overwrite]
    by_cases hp : p = place
    · subst hp
      cases hfind : fs.nodes.find? fun n => n.1 = p with
      | none => simp [node?, hnil, hfind] at h
      | some n =>
        have hn : n.1 = p := by simpa using List.find?_some hfind
        simp [hn]
    · cases hfind : fs.nodes.find? fun n => n.1 = p with
      | none => simp [hp]
      | some n =>
        have hn : n.1 = p := by simpa using List.find?_some hfind
        simp [hn, hp]

/-! ## Paths -/

/-- All that is in one file system is in the other, unchanged. -/
def Extends (fs fs' : FileSystem) : Prop :=
  ∀ place node, fs.node? place = some node → fs'.node? place = some node

/-- All directories are there, with their permissions. -/
def KeepsDirectories (fs fs' : FileSystem) : Prop :=
  ∀ place mode, fs.node? place = some (.directory mode) →
    fs'.node? place = some (.directory mode)

theorem Extends.keepsDirectories (h : fs.Extends fs') : fs.KeepsDirectories fs' :=
  fun place _ hplace => h place _ hplace

theorem Extends.refl : fs.Extends fs := fun _ _ h => h

theorem Extends.trans (h : fs.Extends fs₁) (h' : fs₁.Extends fs') : fs.Extends fs' :=
  fun place node hplace => h' place node (h place node hplace)

theorem KeepsDirectories.child (h : fs.KeepsDirectories fs') {name : String} {next : Place}
    (hchild : fs.child place name = .ok next) : fs'.child place name = .ok next := by
  unfold FileSystem.child at hchild ⊢
  split at hchild
  · rename_i mode hplace
    rw [h place mode hplace]
    exact hchild
  · cases hchild
  · cases hchild

theorem KeepsDirectories.follow (h : fs.KeepsDirectories fs') {names : List String} {next : Place}
    (hfollow : fs.follow place names = .ok next) : fs'.follow place names = .ok next := by
  induction names generalizing place with
  | nil => exact hfollow
  | cons name rest ih =>
    simp only [FileSystem.follow] at hfollow ⊢
    split at hfollow
    · rename_i step hchild
      rw [h.child hchild]
      exact ih hfollow
    · cases hfollow

theorem KeepsDirectories.locate (h : fs.KeepsDirectories fs')
    (hlocate : fs.locate path = .ok place) : fs'.locate path = .ok place := by
  unfold FileSystem.locate at hlocate ⊢
  split at hlocate
  · cases hlocate
  · rename_i hnul
    rw [if_neg hnul]
    split at hlocate
    · cases hlocate
    · rename_i hempty
      rw [if_neg hempty]
      exact h.follow hlocate

theorem KeepsDirectories.writableAround (h : fs.KeepsDirectories fs')
    (hwritable : fs.writableAround place = true) : fs'.writableAround place = true := by
  unfold FileSystem.writableAround at hwritable ⊢
  split at hwritable
  · rename_i mode hplace
    rw [h _ mode hplace]
    exact hwritable
  · cases hwritable

/-! ## Operations -/

theorem lookup_inv (h : fs.lookup path = .ok (place, node)) :
    fs.locate path = .ok place ∧ fs.node? place = some node := by
  unfold lookup at h
  split at h
  · cases h
  · rename_i hlocate
    split at h
    · cases h
    · rename_i hnode
      cases h
      exact ⟨hlocate, hnode⟩

theorem lookup_eq (hlocate : fs.locate path = .ok place)
    (hnode : fs.node? place = some node) : fs.lookup path = .ok (place, node) := by
  simp only [lookup, hlocate, hnode]

theorem createNew_inv {created : FileSystem} (h : fs.createNew path = .ok (place, created)) :
    fs.locate path = .ok place ∧ fs.node? place = none ∧ fs.writableAround place = true ∧
      created = fs.insert place (.file ByteArray.empty) := by
  unfold createNew at h
  split at h
  · cases h
  · rename_i hlocate
    split at h
    · cases h
    · rename_i hnone
      split at h
      · rename_i hwritable
        cases h
        exact ⟨hlocate, hnone, hwritable, rfl⟩
      · cases h

theorem makeDirectory_inv {made : FileSystem} (h : fs.makeDirectory path mode = .ok made) :
    ∃ place, fs.locate (withoutSlashes path) = .ok place ∧ fs.node? place = none ∧
      made = fs.insert place (.directory mode) := by
  unfold makeDirectory at h
  split at h
  · cases h
  · rename_i place hlocate
    split at h
    · cases h
    · rename_i hnone
      split at h
      · cases h
        exact ⟨place, hlocate, hnone, rfl⟩
      · cases h

/-- A file with the path that leads to it. -/
structure StoredFile where
  path : String
  place : Place
  content : ByteArray

/-- The file is where its path leads, and it can be removed. -/
structure InPlace (fs : FileSystem) (f : StoredFile) : Prop where
  located : fs.locate f.path = .ok f.place
  file : fs.node? f.place = some (.file f.content)
  writable : fs.writableAround f.place = true

variable {f : StoredFile}

theorem InPlace.readFile (h : fs.InPlace f) : fs.readFile f.path = .ok f.content := by
  simp only [FileSystem.readFile, lookup, h.located, h.file]

theorem InPlace.place_eq {g : StoredFile} (hf : fs.InPlace f) (hg : fs.InPlace g)
    (hpath : f.path = g.path) : f.place = g.place := by
  have hlocated := hf.located
  rw [hpath, hg.located] at hlocated
  exact (Except.ok.inj hlocated).symm

theorem InPlace.mono (h : fs.InPlace f) (hfs : fs.KeepsDirectories fs')
    (hfile : fs'.node? f.place = some (.file f.content)) : fs'.InPlace f :=
  ⟨hfs.locate h.located, hfile, hfs.writableAround h.writable⟩

theorem InPlace.extends (h : fs.InPlace f) (hfs : fs.Extends fs') : fs'.InPlace f :=
  h.mono hfs.keepsDirectories (hfs _ _ h.file)

theorem removeFile_file {content : ByteArray} (hlocate : fs.locate path = .ok place)
    (hfile : fs.node? place = some (.file content)) (hwritable : fs.writableAround place = true) :
    fs.removeFile path = .ok (fs.erase place) := by
  simp only [FileSystem.removeFile, lookup, hlocate, hfile, hwritable, if_true]

theorem InPlace.removeFile (h : fs.InPlace f) : fs.removeFile f.path = .ok (fs.erase f.place) :=
  removeFile_file h.located h.file h.writable

/-- Nothing can be removed but a file that is in place. -/
theorem removeFile_inv {removed : FileSystem} (h : fs.removeFile path = .ok removed) :
    ∃ f, f.path = path ∧ fs.InPlace f ∧ removed = fs.erase f.place := by
  unfold FileSystem.removeFile at h
  split at h
  · cases h
  · cases h
  · rename_i place content hlookup
    obtain ⟨hlocate, hfile⟩ := lookup_inv hlookup
    split at h
    · rename_i hwritable
      cases h
      exact ⟨⟨path, place, content⟩, rfl, ⟨hlocate, hfile, hwritable⟩, rfl⟩
    · cases h

/-! ## Growth -/

/-- The place was empty and holds a directory now, to which one of these paths leads. -/
def Made (mode : Nat) (ups : List String) (fs fs' : FileSystem) (place : Place) : Prop :=
  fs.node? place = none ∧ fs'.node? place = some (.directory mode) ∧
    ∃ up ∈ ups, fs'.locate (withoutSlashes up) = .ok place

/-- The file system has got something new at these places, and directories to which these paths
lead; all else is the same. -/
structure Grows (mode : Nat) (ups : List String) (places : List Place) (fs fs' : FileSystem) :
    Prop where
  fresh : ∀ p ∈ places, fs.node? p = none
  rest : ∀ p, p ∉ places → fs'.node? p = fs.node? p ∨ Made mode ups fs fs' p

variable {ups : List String} {places places' : List Place}

theorem Grows.of_same (h : ∀ p, fs'.node? p = fs.node? p) : Grows mode ups [] fs fs' :=
  ⟨fun _ hp => absurd hp List.not_mem_nil, fun p _ => .inl (h p)⟩

theorem Grows.extends (h : Grows mode ups places fs fs') : fs.Extends fs' := by
  intro p node hp
  have hnot : p ∉ places := by
    intro hmem
    rw [h.fresh p hmem] at hp
    cases hp
  rcases h.rest p hnot with hsame | ⟨hnone, -⟩
  · rw [hsame, hp]
  · rw [hnone] at hp
    cases hp

/-- At all other places, what is a file stays one, and nothing becomes one. -/
theorem Grows.file_iff {content : ByteArray} (h : Grows mode ups places fs fs') (hp : p ∉ places) :
    fs'.node? p = some (.file content) ↔ fs.node? p = some (.file content) := by
  rcases h.rest p hp with hsame | ⟨hnone, hdir, -⟩
  · rw [hsame]
  · simp [hnone, hdir]

theorem Grows.trans (h : Grows mode ups places fs fs₁) (h' : Grows mode ups places' fs₁ fs') :
    Grows mode ups (places ++ places') fs fs' := by
  constructor
  · intro p hp
    rcases List.mem_append.1 hp with hp | hp
    · exact h.fresh p hp
    · cases hnode : fs.node? p with
      | none => rfl
      | some node =>
        have hnode₁ := h.extends p node hnode
        rw [h'.fresh p hp] at hnode₁
        cases hnode₁
  · intro p hp
    obtain ⟨hp, hp'⟩ := not_or.1 (fun h => hp (List.mem_append.2 h))
    rcases h.rest p hp with hsame | ⟨hnone, hdir, up, hup, hlocate⟩
    · rcases h'.rest p hp' with hsame' | ⟨hnone', hmade⟩
      · exact .inl (hsame'.trans hsame)
      · exact .inr ⟨by rw [← hsame, hnone'], hmade⟩
    · refine .inr ⟨hnone, h'.extends p _ hdir, up, hup, ?_⟩
      exact h'.extends.keepsDirectories.locate hlocate

theorem Grows.of_ups {ups' : List String} (h : Grows mode ups places fs fs')
    (hsub : ∀ up ∈ ups, up ∈ ups') : Grows mode ups' places fs fs' := by
  refine ⟨h.fresh, fun p hp => ?_⟩
  rcases h.rest p hp with hsame | ⟨hnone, hdir, up, hup, hlocate⟩
  · exact .inl hsame
  · exact .inr ⟨hnone, hdir, up, hsub up hup, hlocate⟩

theorem extends_insert (h : fs.node? place = none) : fs.Extends (fs.insert place node) := by
  intro p other hp
  rw [node?_insert h, if_neg]
  · exact hp
  · rintro rfl
    rw [h] at hp
    cases hp

theorem grows_makeDirectory {made : FileSystem} (h : fs.makeDirectory path mode = .ok made)
    (hpath : path ∈ ups) : Grows mode ups [] fs made := by
  obtain ⟨place, hlocate, hnone, rfl⟩ := makeDirectory_inv h
  refine ⟨fun _ hp => absurd hp List.not_mem_nil, fun p _ => ?_⟩
  by_cases hp : p = place
  · subst hp
    refine .inr ⟨hnone, by rw [node?_insert hnone, if_pos rfl], path, hpath, ?_⟩
    exact (extends_insert hnone).keepsDirectories.locate hlocate
  · exact .inl (by rw [node?_insert hnone, if_neg hp])

theorem grows_makeChain (fs : FileSystem) (mode : Nat) (paths : List String) :
    Grows mode paths [] fs (fs.makeChain mode paths).2 := by
  induction paths with
  | nil => exact .of_same fun _ => rfl
  | cons path up ih =>
    have hpath : path ∈ path :: up := List.mem_cons_self
    -- What is made for the ancestors is on the way of the whole chain.
    have ih : Grows mode (path :: up) [] fs (fs.makeChain mode up).2 :=
      ih.of_ups fun _ h => List.mem_cons_of_mem _ h
    unfold makeChain
    split
    · rename_i made hmade
      exact grows_makeDirectory hmade hpath
    · split
      · exact .of_same fun _ => rfl
      · split
        · rename_i fault left hchain
          rw [hchain] at ih
          exact ih
        · rename_i above hchain
          rw [hchain] at ih
          split
          · rename_i made hmade
            exact ih.trans (grows_makeDirectory hmade hpath)
          · exact ih
    · exact .of_same fun _ => rfl

/-- Making a directory makes only the missing directories on the way to it. -/
theorem grows_makeDirectories (fs : FileSystem) (dir : String) (mode : Nat) :
    Grows mode (Path.ancestors dir) [] fs (fs.makeDirectories dir mode).2 :=
  grows_makeChain fs mode (Path.ancestors dir)

/-! ## Shrinking -/

/-- The file system has lost the files at these places; all else is the same. -/
structure Shrinks (gone : Place → Prop) (fs fs' : FileSystem) : Prop where
  rest : ∀ p node, fs'.node? p = some node ↔ fs.node? p = some node ∧ ¬ gone p
  files : ∀ p mode, fs.node? p = some (.directory mode) → ¬ gone p

variable {gone gone' : Place → Prop}

theorem Shrinks.of_none (h : ∀ p, ¬ gone p) : Shrinks gone fs fs :=
  ⟨fun p _ => (and_iff_left (h p)).symm, fun p _ _ => h p⟩

theorem Shrinks.node?_of_gone (h : Shrinks gone fs fs') (hp : gone p) : fs'.node? p = none :=
  Option.eq_none_iff_forall_ne_some.2 fun node hnode => ((h.rest p node).1 hnode).2 hp

theorem Shrinks.node?_of_not_gone (h : Shrinks gone fs fs') (hp : ¬ gone p) :
    fs'.node? p = fs.node? p :=
  Option.ext fun node => (h.rest p node).trans (and_iff_left hp)

theorem Shrinks.keepsDirectories (h : Shrinks gone fs fs') : fs.KeepsDirectories fs' :=
  fun p mode hp => (h.rest p _).2 ⟨hp, h.files p mode hp⟩

/-- What is left has been there before. -/
theorem Shrinks.extends (h : Shrinks gone fs fs') : fs'.Extends fs :=
  fun p node hp => ((h.rest p node).1 hp).1

/-- Paths lead where they led, so a file is in place as long as it has not gone itself. -/
theorem Shrinks.inPlace_iff (h : Shrinks gone fs fs') :
    fs'.InPlace f ↔ fs.InPlace f ∧ ¬ gone f.place := by
  constructor
  · intro hf
    exact ⟨hf.extends h.extends, ((h.rest _ _).1 hf.file).2⟩
  · rintro ⟨hf, hgone⟩
    exact hf.mono h.keepsDirectories ((h.rest _ _).2 ⟨hf.file, hgone⟩)

/-- The path to a file that has gone leads to nothing. -/
theorem Shrinks.lookup_of_gone (h : Shrinks gone fs fs') (hf : fs.InPlace f)
    (hgone : gone f.place) : fs'.lookup f.path = .error .notFound := by
  simp only [lookup, h.keepsDirectories.locate hf.located, h.node?_of_gone hgone]

theorem Shrinks.trans (h : Shrinks gone fs fs₁) (h' : Shrinks gone' fs₁ fs') :
    Shrinks (fun p => gone p ∨ gone' p) fs fs' := by
  constructor
  · intro p node
    rw [h'.rest, h.rest, and_assoc, not_or]
  · rintro p mode hp (hgone | hgone)
    · exact h.files p mode hp hgone
    · exact h'.files p mode (h.keepsDirectories p mode hp) hgone

theorem Shrinks.congr (h : Shrinks gone fs fs') (hgone : ∀ p, gone p ↔ gone' p) :
    Shrinks gone' fs fs' := by
  obtain rfl : gone = gone' := funext fun p => propext (hgone p)
  exact h

theorem shrinks_erase (hf : fs.InPlace f) : Shrinks (· = f.place) fs (fs.erase f.place) := by
  have hne : f.place ≠ [] := by
    intro hnil
    have hfile := hf.file
    simp [hnil, node?] at hfile
  constructor
  · intro p node
    rw [node?_erase hne]
    by_cases hp : p = f.place
    · simp [hp]
    · simp [hp]
  · rintro p mode hp rfl
    rw [hf.file] at hp
    cases hp

/-! ## Entries of a directory -/

/-- The place is that of an entry of this name in the directory to which the path leads. The empty
path stands for the directory in which relative paths begin. -/
def HasEntry (fs : FileSystem) (dir name : String) (place : Place) : Prop :=
  ∃ up, place = up ++ [name] ∧
    (dir = "" ∧ up = [] ∨ ∃ mode, fs.lookup dir = .ok (up, .directory mode))

theorem follow_concat (names : List String) (name : String) :
    fs.follow place (names ++ [name]) =
      (fs.follow place names).bind fun next => fs.child next name := by
  induction names generalizing place with
  | nil =>
    simp only [List.nil_append, follow, Except.bind]
    split <;> simp_all
  | cons first rest ih =>
    simp only [List.cons_append, follow]
    cases fs.child place first with
    | ok next => exact ih
    | error fault => rfl

/-- A name that is not one of these stands for an entry of the directory. -/
theorem child_inv {name : String} {next : Place} (hname : name ∉ ["", ".", ".."])
    (h : fs.child place name = .ok next) :
    (∃ mode, fs.node? place = some (.directory mode)) ∧ next = place ++ [name] := by
  obtain ⟨hempty, hdot, hup⟩ : name ≠ "" ∧ name ≠ "." ∧ name ≠ ".." := by simpa using hname
  unfold child at h
  split at h
  · rename_i mode hdir
    simp only [hempty, hdot, hup, decide_false, Bool.or_self, Bool.false_eq_true, if_false] at h
    split at h
    · cases h
    · cases h
      exact ⟨⟨mode, hdir⟩, rfl⟩
  · cases h
  · cases h

theorem locate_inv (h : fs.locate path = .ok place) :
    '\x00' ∉ path.toList ∧ fs.follow [] ((Path.body path).map String.ofList) = .ok place := by
  unfold locate at h
  split at h
  · cases h
  · rename_i hnul
    split at h
    · cases h
    · exact ⟨by simpa using hnul, h⟩

/-- Up to the last name, the way to a joined name is the way to the directory. -/
theorem follow_join {dir name : String} (hslash : '/' ∉ name.toList)
    (hname : name ∉ ["", ".", ".."])
    (h : fs.follow [] ((Path.body (Path.join dir name)).map String.ofList) = .ok place) :
    ∃ up mode, fs.follow [] ((Path.body dir).map String.ofList) = .ok up ∧
      fs.node? up = some (.directory mode) ∧ place = up ++ [name] := by
  have last (names : List String) (h : fs.follow [] (names ++ [name]) = .ok place) :
      ∃ up mode, fs.follow [] names = .ok up ∧ fs.node? up = some (.directory mode) ∧
        place = up ++ [name] := by
    rw [follow_concat] at h
    cases hup : fs.follow [] names with
    | error fault =>
      rw [hup] at h
      cases h
    | ok up =>
      rw [hup] at h
      obtain ⟨⟨mode, hnode⟩, hplace⟩ := child_inv hname h
      exact ⟨up, mode, rfl, hnode, hplace⟩
  rcases Path.body_join dir hslash with hbody | ⟨names, hdir, hbody⟩
  · rw [hbody, List.map_append, List.map_singleton, String.ofList_toList] at h
    exact last _ h
  · rw [hbody, List.map_append, List.map_singleton, String.ofList_toList] at h
    obtain ⟨up, mode, hup, hnode, hplace⟩ := last _ h
    refine ⟨up, mode, ?_, hnode, hplace⟩
    -- The empty name leads nowhere else.
    have hstay : fs.child up "" = .ok up := by simp [child, hnode]
    rw [hdir, List.map_append, List.map_singleton, follow_concat, hup]
    exact hstay

theorem hasEntry_of_locate {dir name : String} (hslash : '/' ∉ name.toList)
    (hname : name ∉ ["", ".", ".."]) (h : fs.locate (Path.join dir name) = .ok place) :
    fs.HasEntry dir name place := by
  obtain ⟨hnul, hfollow⟩ := locate_inv h
  obtain ⟨up, mode, hup, hnode, rfl⟩ := follow_join hslash hname hfollow
  refine ⟨up, rfl, ?_⟩
  by_cases hempty : dir = ""
  · subst hempty
    cases hup
    exact .inl ⟨rfl, rfl⟩
  · right
    refine ⟨mode, ?_⟩
    have hnul : '\x00' ∉ dir.toList := fun h => hnul ((Path.prefix_join hslash).subset h)
    simp only [lookup, locate, List.contains_iff_mem, hnul, hempty, hup, hnode, if_false]

end ChatChannel.FileSystem
