import ChatChannel.Proofs.Media

/-!
# ChatChannel.Proofs.Media.Release

What a guard does to a file system when it is released, for any list of paths: they may lead to
files, to directories or to nothing, and several of them to one place.

* `lookup_release`: a tracked path that can be removed leads to nothing afterwards.
* `release_skip`: a path whose removal fails might as well not be tracked.
* `release_is_exact`: both, and that nothing else changes.
-/

namespace ChatChannel.Media.Transient

open FileSystem

section

variable {t : Transient} {fs removed : FileSystem} {before after : List String} {path : String}
  {fault : FileFault}

theorem release_append (before after : List String) (fs : FileSystem) :
    release ⟨before ++ after⟩ fs = release ⟨after⟩ (release ⟨before⟩ fs) :=
  List.foldl_append

theorem lookup_release (hpath : path ∈ t.paths) (h : fs.removeFile path = .ok removed) :
    (t.release fs).lookup path = .error .notFound := by
  obtain ⟨f, rfl, hf, -⟩ := removeFile_inv h
  exact (shrinks_release t fs).lookup_of_gone hf ⟨f, hpath, rfl, hf⟩

/-- A failure leaves to the later paths what was left to its own. -/
theorem release_cons_of_error (h : fs.removeFile path = .error fault) :
    release ⟨path :: after⟩ fs = release ⟨after⟩ fs :=
  congrArg (release ⟨after⟩) (removeIfPossible_of_error h)

theorem release_skip (h : (release ⟨before⟩ fs).removeFile path = .error fault) :
    release ⟨before ++ path :: after⟩ fs = release ⟨before ++ after⟩ fs := by
  rw [release_append, release_append, release_cons_of_error h]

end

/-- The release of a guard is exact. Whatever its paths lead to, what is there afterwards is what
was there before, less the tracked files that can be removed, and the paths to these lead to
nothing. Where a removal fails, the rest goes on as if that path were not tracked, and every later
file that can be removed at this moment goes. -/
theorem release_is_exact (t : Transient) (fs : FileSystem) :
    (∀ place node, (t.release fs).node? place = some node ↔
      fs.node? place = some node ∧ ¬ t.Holds fs place) ∧
    (∀ path ∈ t.paths, ∀ removed, fs.removeFile path = .ok removed →
      (t.release fs).lookup path = .error .notFound) ∧
    ∀ before path after fault, t.paths = before ++ path :: after →
      (release ⟨before⟩ fs).removeFile path = .error fault →
      t.release fs = release ⟨before ++ after⟩ fs ∧
        ∀ later ∈ after, ∀ removed, (release ⟨before⟩ fs).removeFile later = .ok removed →
          (t.release fs).lookup later = .error .notFound := by
  refine ⟨(shrinks_release t fs).rest, fun path hpath removed h => lookup_release hpath h, ?_⟩
  intro before path after fault hpaths h
  obtain ⟨paths⟩ := t
  obtain rfl : paths = before ++ path :: after := hpaths
  have hskip : release ⟨before ++ path :: after⟩ fs = release ⟨before ++ after⟩ fs := release_skip h
  refine ⟨hskip, fun later hlater removed hlast => ?_⟩
  rw [hskip, release_append]
  exact lookup_release hlater hlast

/-- A guard with failures between its two removable files, one of which it tracks under two names:
a directory, a missing file, one in a directory that gives nothing away, and one below a file. -/
theorem mixedGuard_is_exact :
    let fs : FileSystem := ⟨[(["d"], .directory 0o755), (["d", "a"], .file ⟨#[1]⟩),
      (["locked"], .directory 0o555), (["locked", "b"], .file ⟨#[2]⟩), (["c"], .file ⟨#[3]⟩)]⟩
    let before := ["/d", "/d/a", "/none", "/locked/../d/a"]
    let after := ["/d/a/x", "/c"]
    let t : Transient := ⟨before ++ "/locked/b" :: after⟩
    let half := release ⟨before⟩ fs
    (∀ place node, (t.release fs).node? place = some node ↔
      fs.node? place = some node ∧ ¬ t.Holds fs place) ∧
    fs.removeFile "/d/a" = .ok (fs.erase ["d", "a"]) ∧
    (t.release fs).lookup "/d/a" = .error .notFound ∧
    half.removeFile "/locked/b" = .error .permissionDenied ∧
    t.release fs = release ⟨before ++ after⟩ fs ∧
    half.removeFile "/c" = .ok (half.erase ["c"]) ∧
    (t.release fs).lookup "/c" = .error .notFound := by
  intro fs before after t half
  obtain ⟨hrest, hgone, hskip⟩ := release_is_exact t fs
  have hfirst : fs.removeFile "/d/a" = .ok (fs.erase ["d", "a"]) := by decide +kernel
  have hfault : half.removeFile "/locked/b" = .error .permissionDenied := by decide +kernel
  have hlast : half.removeFile "/c" = .ok (half.erase ["c"]) := by decide +kernel
  obtain ⟨hsame, hlater⟩ := hskip before "/locked/b" after .permissionDenied rfl hfault
  exact ⟨hrest, hfirst, hgone "/d/a" (by decide) _ hfirst, hfault, hsame, hlast,
    hlater "/c" (by decide) _ hlast⟩

end ChatChannel.Media.Transient
