import ChatChannel.Proofs.FileSystem

/-!
# ChatChannel.Proofs.FileSystem.Room

When an entry can be added to a directory. Apart from what the directory itself refuses, only the
name decides: it must not be too long, hold a NUL, or be taken.

* `locate_join`: where a name that is joined to a directory leads.
* `makeDirectories_of_leadsTo`: a directory that is there is left as it is.
* `createNew_join`: whether a file can be made under a name that is not taken.
-/

namespace ChatChannel.FileSystem

variable {fs fs' : FileSystem} {up place : Place} {dir name path : String} {mode : Nat}

/-- The path leads to this directory. The empty path stands for the directory in which relative
paths begin. -/
def LeadsTo (fs : FileSystem) (dir : String) (up : Place) : Prop :=
  dir = "" ∧ up = [] ∨ ∃ mode, fs.lookup dir = .ok (up, .directory mode)

/-- What leads to a directory are names to follow. -/
theorem LeadsTo.follow (h : fs.LeadsTo dir up) :
    '\x00' ∉ dir.toList ∧ fs.follow [] ((Path.body dir).map String.ofList) = .ok up ∧
      ∃ mode, fs.node? up = some (.directory mode) := by
  rcases h with ⟨rfl, rfl⟩ | ⟨mode, hlookup⟩
  · exact ⟨List.not_mem_nil, rfl, 0o755, rfl⟩
  · obtain ⟨hlocate, hnode⟩ := lookup_inv hlookup
    obtain ⟨hnul, hfollow⟩ := locate_inv hlocate
    exact ⟨hnul, hfollow, mode, hnode⟩

theorem KeepsDirectories.leadsTo (hfs : fs.KeepsDirectories fs') (h : fs.LeadsTo dir up) :
    fs'.LeadsTo dir up := by
  rcases h with hempty | ⟨mode, hlookup⟩
  · exact .inl hempty
  · obtain ⟨hlocate, hnode⟩ := lookup_inv hlookup
    exact .inr ⟨mode, lookup_eq (hfs.locate hlocate) (hfs _ _ hnode)⟩

/-! ## Names that are joined -/

/-- The empty name stays where it is. -/
theorem follow_of_concat_empty {names : List String}
    (h : fs.follow place (names ++ [""]) = .ok up) : fs.follow place names = .ok up := by
  rw [follow_concat] at h
  cases hnames : fs.follow place names with
  | error fault =>
    rw [hnames] at h
    cases h
  | ok next =>
    rw [hnames] at h
    simp only [Except.bind, child] at h
    split at h
    · simpa using h
    · cases h
    · cases h

theorem follow_body_join (hslash : '/' ∉ name.toList)
    (h : fs.follow [] ((Path.body dir).map String.ofList) = .ok up) :
    fs.follow [] ((Path.body (Path.join dir name)).map String.ofList) = fs.child up name := by
  have last {names : List String} (hnames : fs.follow [] names = .ok up) :
      fs.follow [] (names ++ [name]) = fs.child up name := by
    rw [follow_concat, hnames]
    rfl
  rcases Path.body_join dir hslash with hbody | ⟨names, hdir, hbody⟩
  · rw [hbody, List.map_append, List.map_singleton, String.ofList_toList]
    exact last h
  · rw [hdir, List.map_append] at h
    rw [hbody, List.map_append, List.map_singleton, String.ofList_toList]
    exact last (follow_of_concat_empty h)

/-- A plain name leads to an entry of the directory, if it is not too long. -/
theorem locate_join (hdir : fs.LeadsTo dir up) (hslash : '/' ∉ name.toList)
    (hname : name ∉ ["", ".", ".."]) (hnul : '\x00' ∉ name.toList) :
    fs.locate (Path.join dir name) =
      if maxName < name.utf8ByteSize then .error .nameTooLong else .ok (up ++ [name]) := by
  obtain ⟨hdirnul, hfollow, mode, hnode⟩ := hdir.follow
  obtain ⟨hempty, hdot, hdots⟩ : name ≠ "" ∧ name ≠ "." ∧ name ≠ ".." := by simpa using hname
  have hjoin : '\x00' ∉ (Path.join dir name).toList ∧ Path.join dir name ≠ "" := by
    rcases Path.toList_join dir (Path.isAbsolute_of_not_mem hslash) with ⟨hjoin, -⟩ | ⟨hjoin, -⟩
    · refine ⟨by simp [hjoin, hdirnul, hnul], fun h => ?_⟩
      rw [h] at hjoin
      exact hempty (String.toList_eq_nil_iff.1 (List.append_eq_nil_iff.1 hjoin.symm).2)
    · refine ⟨by simp [hjoin, hdirnul, hnul], fun h => ?_⟩
      rw [h] at hjoin
      cases (List.append_eq_nil_iff.1 hjoin.symm).2
  rw [locate, if_neg (by simpa using hjoin.1), if_neg hjoin.2, follow_body_join hslash hfollow]
  simp [child, hnode, hempty, hdot, hdots]

/-! ## Directories that are there -/

theorem locate_of_trailing {front : String} (hne : front ≠ "") (k : Nat)
    (hpath : path.toList = front.toList ++ List.replicate k '/')
    (h : fs.locate path = .ok place) : fs.locate front = .ok place := by
  induction k generalizing path with
  | zero =>
    rw [List.replicate_zero, List.append_nil] at hpath
    rwa [← String.toList_inj.1 hpath]
  | succ k ih =>
    -- The last slash leaves an empty name at the end, which leads nowhere else.
    let shorter : String := String.ofList (front.toList ++ List.replicate k '/')
    have hshorter : shorter.toList = front.toList ++ List.replicate k '/' := String.toList_ofList
    have hne' : shorter ≠ "" := by
      intro hempty
      rw [hempty] at hshorter
      exact hne (String.toList_eq_nil_iff.1 (List.append_eq_nil_iff.1 hshorter.symm).1)
    rw [List.replicate_succ', ← List.append_assoc, ← hshorter] at hpath
    obtain ⟨hnul, hfollow⟩ := locate_inv h
    rw [Path.body_append List.not_mem_nil hne' hpath, List.map_append] at hfollow
    have hnul' : '\x00' ∉ shorter.toList := fun hmem =>
      hnul (hpath ▸ List.mem_append_left _ hmem)
    refine ih hshorter ?_
    rw [locate, if_neg (by simpa using hnul'), if_neg hne']
    exact follow_of_concat_empty hfollow

theorem locate_withoutSlashes (h : fs.locate path = .ok place) :
    fs.locate (withoutSlashes path) = .ok place := by
  unfold withoutSlashes
  split
  · exact h
  · rename_i cs hne
    let slashes := (path.toList.reverse.takeWhile (· = '/')).reverse
    have hslashes : slashes = List.replicate slashes.length '/' := by
      refine List.eq_replicate_iff.2 ⟨rfl, fun c hc => ?_⟩
      simpa using List.mem_takeWhile_imp (List.mem_reverse.1 hc)
    have hpath : path.toList = (path.toList.reverse.dropWhile (· = '/')).reverse ++ slashes := by
      rw [← List.reverse_append, List.takeWhile_append_dropWhile, List.reverse_reverse]
    refine locate_of_trailing (fun hempty => hne ?_) slashes.length ?_ h
    · simpa using hempty
    · rw [String.toList_ofList, ← hslashes]
      exact hpath

/-- A directory that is there is left as it is. -/
theorem makeDirectories_of_leadsTo (h : fs.LeadsTo dir up) :
    fs.makeDirectories dir mode = (.ok (), fs) := by
  rcases h with ⟨rfl, rfl⟩ | ⟨dirMode, hlookup⟩
  · rfl
  · obtain ⟨hlocate, hnode⟩ := lookup_inv hlookup
    obtain ⟨ups, hups⟩ : ∃ ups, Path.ancestors dir = dir :: ups := by
      unfold Path.ancestors Path.ancestorsWithin
      split
      · exact ⟨[], rfl⟩
      · split <;> exact ⟨_, rfl⟩
    have hexists : fs.makeDirectory dir mode = .error .exists := by
      simp only [makeDirectory, locate_withoutSlashes hlocate, hnode]
    have hdirectory : fs.isDirectory dir = true := by simp only [isDirectory, hlookup]
    simp only [makeDirectories, hups, makeChain, hexists, hdirectory, if_true]

/-! ## New files -/

/-- A file can be made under a plain name that is not taken, unless the name is too long. -/
theorem createNew_join (hdir : fs.LeadsTo dir up) (hslash : '/' ∉ name.toList)
    (hname : name ∉ ["", ".", ".."]) (hnul : '\x00' ∉ name.toList)
    (hwritable : fs.writableAround (up ++ [name]) = true)
    (hfresh : fs.node? (up ++ [name]) = none) :
    fs.createNew (Path.join dir name) =
      if maxName < name.utf8ByteSize then .error .nameTooLong
      else .ok (up ++ [name], fs.insert (up ++ [name]) (.file ByteArray.empty)) := by
  rw [createNew, locate_join hdir hslash hname hnul]
  by_cases hlong : maxName < name.utf8ByteSize
  · simp only [hlong, if_true]
  · simp only [hlong, if_false, hfresh, hwritable, if_true]

end ChatChannel.FileSystem
