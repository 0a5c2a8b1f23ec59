import ChatChannel.Proofs.Path

/-!
# ChatChannel.Proofs.Path.Within

Paths that lie within a directory: they begin with all of its components. Joining adds the names of
the second path to the components of the first one (`components_join`), unless the second path is
absolute, and so lies where it says.
-/

namespace ChatChannel.Path

open Text

variable {base path : String}

/-- The names in a text that count wherever it stands behind a slash. -/
def steps (cs : List Char) : List (List Char) :=
  (pieces '/' cs).filter fun name => !isIdle name

/-- The path begins where the other one does, with all components of it. -/
structure IsWithin (path base : String) : Prop where
  absolute : isAbsolute path = isAbsolute base
  components : components base <+: components path

theorem isWithin_refl (path : String) : IsWithin path path :=
  ⟨rfl, List.prefix_refl _⟩

theorem steps_append (cs rest : List Char) :
    steps (cs ++ '/' :: rest) = steps cs ++ steps rest := by
  rw [steps, pieces_append_sep, List.filter_append, steps, steps]

theorem steps_slash (cs : List Char) : steps ('/' :: cs) = steps cs :=
  steps_append [] cs

theorem steps_append_slash (cs : List Char) : steps (cs ++ ['/']) = steps cs := by
  have hnil : steps [] = [] := rfl
  rw [steps_append, hnil, List.append_nil]

theorem isAbsolute_iff : isAbsolute path = true ↔ ∃ rest, path.toList = '/' :: rest := by
  rw [isAbsolute, decide_eq_true_iff, List.head?_eq_some_iff]

/-- In an absolute path all names count, and no dot does. -/
theorem components_of_absolute (h : isAbsolute path = true) :
    components path = steps path.toList := by
  obtain ⟨rest, hpath⟩ := isAbsolute_iff.1 h
  obtain ⟨first, parts, hpieces⟩ := exists_pieces '/' rest
  have hbody : body path = first :: parts := by
    rw [body, hpath]
    exact hpieces
  rw [hpath, steps_slash, steps, hpieces, components, hbody]
  dsimp only
  rw [h, List.filter_cons]
  by_cases hfirst : isIdle first = true
  · simp [hfirst]
  · have hne : first ≠ [] := by
      rintro rfl
      exact hfirst rfl
    simp [hfirst, hne]

section

variable {rest : String}

/-- What comes of a path that is joined to an absolute one. -/
theorem steps_join (hrest : isAbsolute rest = false) :
    steps (join base rest).toList = steps base.toList ++ steps rest.toList := by
  have hnil : steps [] = [] := rfl
  rcases toList_join base hrest with ⟨hjoin, rfl | ⟨front, hbase⟩⟩ | ⟨hjoin, -⟩
  · rw [hjoin, String.toList_empty, hnil, List.nil_append, List.nil_append]
  · rw [hjoin, hbase, List.append_assoc, List.singleton_append, steps_append, steps_append_slash]
  · rw [hjoin, steps_append]

theorem isAbsolute_join (hbase : isAbsolute base = true) : isAbsolute (join base rest) = true := by
  cases hrest : isAbsolute rest with
  | true =>
    rw [join, if_pos hrest]
    exact hrest
  | false =>
    obtain ⟨tail, htail⟩ := isAbsolute_iff.1 hbase
    refine isAbsolute_iff.2 ?_
    rcases toList_join base hrest with ⟨hjoin, -⟩ | ⟨hjoin, -⟩
    · exact ⟨_, by rw [hjoin, htail, List.cons_append]⟩
    · exact ⟨_, by rw [hjoin, htail, List.cons_append]⟩

/-- A relative path that is joined to an absolute one adds its names. -/
theorem components_join (hbase : isAbsolute base = true) (hrest : isAbsolute rest = false) :
    components (join base rest) = components base ++ steps rest.toList := by
  rw [components_of_absolute (isAbsolute_join hbase), components_of_absolute hbase,
    steps_join hrest]

theorem isWithin_join (hbase : isAbsolute base = true) (hrest : isAbsolute rest = false) :
    IsWithin (join base rest) base where
  absolute := (isAbsolute_join hbase).trans hbase.symm
  components := components_join hbase hrest ▸ List.prefix_append _ _

/-- An absolute path is left as it is, wherever it leads. -/
theorem isWithin_join_iff (hbase : isAbsolute base = true) :
    IsWithin (join base rest) base ↔ (isAbsolute rest = true → IsWithin rest base) := by
  cases hrest : isAbsolute rest with
  | true =>
    rw [join, if_pos hrest]
    exact ⟨fun h _ => h, fun h => h rfl⟩
  | false =>
    refine iff_of_true (isWithin_join hbase hrest) fun habsolute => ?_
    cases habsolute

end

end ChatChannel.Path
