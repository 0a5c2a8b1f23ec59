import ChatChannel.Proofs.Path.Within
import ChatChannel.Settings

/-!
# ChatChannel.Proofs.Settings.Home

Where session stores lie whose path begins with a tilde: in the home directory, unless the tilde is
followed by two slashes (`homeRelative_store_iff`). What stands behind the first of them is then an
absolute path, and it is joined to the home directory as such.
-/

namespace ChatChannel

open ChatChannel.Path Text

variable {home path : String}

/-- A path that says it is in the home directory: a tilde alone, or with a slash behind it. -/
def IsHomeRelative (path : String) : Prop :=
  path = "~" ∨ ['~', '/'] <+: path.toList

/-- What stands behind the tilde and its slash. -/
def behindTilde (path : String) : String :=
  String.ofList (path.toList.drop 2)

theorem expandHome_cases (home : String) (h : IsHomeRelative path) :
    expandHome home path = home ∧ behindTilde path = "" ∨
      expandHome home path = Path.join home (behindTilde path) := by
  rcases h with rfl | ⟨rest, hrest⟩
  · exact .inl ⟨rfl, rfl⟩
  · refine .inr ?_
    rw [behindTilde, expandHome, ← hrest]
    rfl

/-- The tilde alone is no less than the home directory, and no more. -/
theorem components_expandHome (hhome : isAbsolute home = true) (h : IsHomeRelative path)
    (hrest : isAbsolute (behindTilde path) = false) :
    components (expandHome home path) = components home ++ steps (behindTilde path).toList := by
  rcases expandHome_cases home h with ⟨hexpand, hnone⟩ | hexpand
  · have hnil : steps "".toList = [] := rfl
    rw [hexpand, hnone, hnil, List.append_nil]
  · rw [hexpand, components_join hhome hrest]

theorem isWithin_expandHome_iff (hhome : isAbsolute home = true) (h : IsHomeRelative path) :
    IsWithin (expandHome home path) home ↔
      (isAbsolute (behindTilde path) = true → IsWithin (behindTilde path) home) := by
  rcases expandHome_cases home h with ⟨hexpand, hnone⟩ | hexpand
  · rw [hexpand, hnone]
    exact iff_of_true (isWithin_refl home) nofun
  · rw [hexpand]
    exact isWithin_join_iff hhome

theorem expandHome_of_absolute (h : IsHomeRelative path)
    (hrest : isAbsolute (behindTilde path) = true) : expandHome home path = behindTilde path := by
  rcases expandHome_cases home h with ⟨-, hnone⟩ | hexpand
  · rw [hnone] at hrest
    cases hrest
  · rw [hexpand, Path.join, if_pos hrest]

namespace Settings

variable {c : Settings} {host : Host}

theorem sessionStore_of_isHomeRelative (h : IsHomeRelative (trim c.storePath)) (host : Host) :
    c.sessionStore host = expandHome host.home (trim c.storePath) := by
  rw [sessionStore]
  refine if_neg fun hempty => ?_
  rw [hempty] at h
  rcases h with h | h
  · exact absurd h (by decide)
  · exact absurd h (by decide)

/-- A session store that is said to be in the home directory is there, whatever follows the tilde,
unless that is an absolute path which leads elsewhere. An absolute path is taken as it stands, and
of a relative one all names come behind those of the home directory. -/
theorem homeRelative_store_iff (hhome : isAbsolute host.home = true)
    (htilde : IsHomeRelative (trim c.storePath)) :
    (IsWithin (c.sessionStore host) host.home ↔
      (isAbsolute (behindTilde (trim c.storePath)) = true →
        IsWithin (behindTilde (trim c.storePath)) host.home)) ∧
    (isAbsolute (behindTilde (trim c.storePath)) = false →
      components (c.sessionStore host) =
        components host.home ++ steps (behindTilde (trim c.storePath)).toList) ∧
    (isAbsolute (behindTilde (trim c.storePath)) = true →
      c.sessionStore host = behindTilde (trim c.storePath)) := by
  rw [sessionStore_of_isHomeRelative htilde host]
  refine ⟨isWithin_expandHome_iff hhome htilde, fun hrest => ?_, fun hrest => ?_⟩
  · exact components_expandHome hhome htilde hrest
  · exact expandHome_of_absolute htilde hrest

/-- Settings with a session store at this path. -/
def storedAt (path : String) : Settings :=
  { usual with storePath := path }

/-- Dots, doubled slashes and blanks at the ends make no difference. -/
theorem untidyStore_within :
    let c := storedAt "\u3000~/./wa//../store.db\n"
    let host : Host := ⟨"/home/ana/", "/tmp"⟩
    isAbsolute host.home = true ∧ IsHomeRelative (trim c.storePath) ∧
      IsWithin (c.sessionStore host) host.home ∧
      components (c.sessionStore host) =
        ["home", "ana", "wa", "..", "store.db"].map String.toList := by
  intro c host
  have hhome : isAbsolute host.home = true := by decide
  have hpath : trim c.storePath = "~/./wa//../store.db" := by decide +kernel
  have htilde : IsHomeRelative (trim c.storePath) := .inr ⟨_, by rw [hpath]; rfl⟩
  have hrest : isAbsolute (behindTilde (trim c.storePath)) = false := by rw [hpath]; decide +kernel
  obtain ⟨hwithin, hnames, -⟩ := homeRelative_store_iff hhome htilde
  refine ⟨hhome, htilde, hwithin.2 fun habsolute => ?_, (hnames hrest).trans ?_⟩
  · rw [hrest] at habsolute
    cases habsolute
  · rw [hpath]
    decide +kernel

/-- With a slash too many, the store is somewhere else. -/
theorem doubledSlash_leads_away :
    let c := storedAt "~//etc/wa.db"
    let host : Host := ⟨"/home/ana", "/tmp"⟩
    isAbsolute host.home = true ∧ IsHomeRelative (trim c.storePath) ∧
      c.sessionStore host = "/etc/wa.db" ∧ ¬IsWithin (c.sessionStore host) host.home := by
  intro c host
  have hpath : trim c.storePath = "~//etc/wa.db" := by decide +kernel
  have hstore : c.sessionStore host = "/etc/wa.db" := by decide +kernel
  refine ⟨by decide, .inr ⟨_, by rw [hpath]; rfl⟩, hstore, fun hwithin => ?_⟩
  rw [hstore] at hwithin
  exact absurd hwithin.components (by decide +kernel)

end Settings

end ChatChannel
