import ChatChannel.Path
import ChatChannel.Proofs.Text.Pieces

/-!
# ChatChannel.Proofs.Path

The names that a path is made of. A name without slashes that is joined to a path comes behind the
names of the path, or takes the place of the empty one that a slash leaves at its end (`body_join`);
if it names something, it is the last name of the path (`fileName?_join`). The extension can be seen
from the end of the path (`extension?_of_suffix`).
-/

namespace ChatChannel.Path

open Text

variable {path front base name : String} {last : List Char}

theorem isAbsolute_of_not_mem (h : '/' ∉ path.toList) : isAbsolute path = false := by
  rw [isAbsolute, decide_eq_false_iff_not]
  exact fun hhead => h (List.mem_of_head? hhead)

theorem body_of_relative (h : isAbsolute path = false) : body path = pieces '/' path.toList := by
  unfold body
  split
  · rename_i hpath
    simp [isAbsolute, hpath] at h
  · rfl

theorem body_slash (hlast : '/' ∉ last) (hpath : path.toList = '/' :: last) :
    body path = [last] := by
  rw [body, hpath]
  exact pieces_of_not_mem hlast

/-- The last name is what stands behind the last slash, unless that is the one of the root. -/
theorem body_append (hlast : '/' ∉ last) (hne : front ≠ "")
    (hpath : path.toList = front.toList ++ '/' :: last) : body path = body front ++ [last] := by
  cases hfront : front.toList with
  | nil => exact absurd (String.toList_eq_nil_iff.1 hfront) hne
  | cons c rest =>
    by_cases hc : c = '/'
    · rw [body, body, hpath, hfront, hc]
      exact pieces_append_last hlast
    · have hrelative : isAbsolute front = false := by simp [isAbsolute, hfront, hc]
      have hrelative' : isAbsolute path = false := by simp [isAbsolute, hpath, hfront, hc]
      rw [body_of_relative hrelative, body_of_relative hrelative', hpath]
      exact pieces_append_last hlast

/-- A slash is put between, unless the path ends with one already. -/
theorem toList_join (base : String) (hname : isAbsolute name = false) :
    (join base name).toList = base.toList ++ name.toList ∧
        (base = "" ∨ ∃ front : String, base.toList = front.toList ++ ['/']) ∨
      (join base name).toList = base.toList ++ '/' :: name.toList ∧ base ≠ "" := by
  simp only [join, hname, Bool.false_eq_true, if_false]
  split
  · rename_i hlast
    have hbase : base.toList = [] := List.getLast?_eq_none_iff.1 hlast
    exact .inl ⟨by rw [hbase, List.nil_append], .inl (String.toList_eq_nil_iff.1 hbase)⟩
  · rename_i hlast
    obtain ⟨front, hfront⟩ := List.getLast?_eq_some_iff.1 hlast
    exact .inl ⟨String.toList_append, .inr ⟨String.ofList front, by simpa using hfront⟩⟩
  · rename_i hlast
    refine .inr ⟨by simp, ?_⟩
    rintro rfl
    cases hlast

theorem prefix_join (hname : '/' ∉ name.toList) : base.toList <+: (join base name).toList := by
  rcases toList_join base (isAbsolute_of_not_mem hname) with ⟨hjoin, -⟩ | ⟨hjoin, -⟩
  · exact ⟨_, hjoin.symm⟩
  · exact ⟨_, hjoin.symm⟩

/-- A name that is joined to a path comes behind the names of the path. The empty name at the end of
a path, which names nothing, makes room for it. -/
theorem body_join (base : String) (hname : '/' ∉ name.toList) :
    body (join base name) = body base ++ [name.toList] ∨
      ∃ names, body base = names ++ [[]] ∧ body (join base name) = names ++ [name.toList] := by
  have hnil : '/' ∉ ([] : List Char) := List.not_mem_nil
  rcases toList_join base (isAbsolute_of_not_mem hname) with
    ⟨hjoin, rfl | ⟨front, hbase⟩⟩ | ⟨hjoin, hne⟩
  · have hjoin : join "" name = name := String.toList_inj.1 (by simpa using hjoin)
    refine .inr ⟨[], rfl, ?_⟩
    rw [hjoin, body_of_relative (isAbsolute_of_not_mem hname), pieces_of_not_mem hname]
    rfl
  · rw [hbase, List.append_assoc] at hjoin
    by_cases hfront : front = ""
    · subst hfront
      exact .inr ⟨[], body_slash hnil hbase, body_slash hname hjoin⟩
    · exact .inr ⟨body front, body_append hnil hfront hbase, body_append hname hfront hjoin⟩
  · exact .inl (body_append hname hne hjoin)

/-- A name is the last component that counts, whatever stands before it. -/
theorem getLast?_components {names : List (List Char)} (hbody : body path = names ++ [last])
    (hlast : isIdle last = false) : (components path).getLast? = some last := by
  rw [components, hbody]
  cases names with
  | nil =>
    have hne : last ≠ [] := by
      rintro rfl
      cases hlast
    simp [hne, hlast]
  | cons first rest =>
    have hkept : ((rest ++ [last]).filter fun name => !isIdle name).getLast? = some last := by
      simp [hlast]
    simp only [List.cons_append]
    split
    · exact hkept
    · rw [List.getLast?_cons, hkept]
      rfl

theorem fileName?_join (base : String) (hslash : '/' ∉ name.toList)
    (hname : name ∉ ["", ".", ".."]) : fileName? (join base name) = some name.toList := by
  obtain ⟨hempty, hdot, hup⟩ :
      name.toList ≠ [] ∧ name.toList ≠ ['.'] ∧ name.toList ≠ ['.', '.'] := by
    simp only [List.mem_cons, List.not_mem_nil, or_false, not_or] at hname
    refine ⟨fun h => hname.1 ?_, fun h => hname.2.1 ?_, fun h => hname.2.2 ?_⟩ <;>
      exact String.toList_inj.1 h
  have hidle : isIdle name.toList = false := by simp [isIdle, hempty, hdot]
  have hlast : (components (join base name)).getLast? = some name.toList := by
    rcases body_join base hslash with hbody | ⟨_, -, hbody⟩
    · exact getLast?_components hbody hidle
    · exact getLast?_components hbody hidle
  simp [fileName?, hlast, hdot, hup]

theorem fileName?_of_not_mem (hslash : '/' ∉ name.toList) (hname : name ∉ ["", ".", ".."]) :
    fileName? name = some name.toList := by
  have hjoin : join "" name = name := by simp [join, isAbsolute_of_not_mem hslash]
  rw [← hjoin, fileName?_join "" hslash hname, hjoin]

/-- The extension is what stands behind the last dot of the last name, if something stands before
it. -/
theorem extension?_eq_some_iff {last ext : List Char} (hlast : fileName? path = some last) :
    extension? path = some ext ↔ ∃ front, front ≠ [] ∧ last = front ++ '.' :: ext ∧ '.' ∉ ext := by
  rw [extension?, hlast]
  dsimp only
  constructor
  · intro h
    cases hcut : cutLast '.' last with
    | none =>
      rw [hcut] at h
      cases h
    | some cut =>
      obtain ⟨front, after⟩ := cut
      obtain ⟨hname, hdot⟩ := cutLast_eq_some_iff.1 hcut
      rw [hcut] at h
      cases front with
      | nil => cases h
      | cons c rest =>
        cases h
        exact ⟨c :: rest, List.cons_ne_nil c rest, hname, hdot⟩
  · rintro ⟨front, hfront, hname, hdot⟩
    rw [cutLast_eq_some_iff.2 ⟨hname, hdot⟩]
    cases front with
    | nil => exact absurd rfl hfront
    | cons c rest => rfl

/-- Whatever a name is joined to, its end is the end of the path. -/
theorem suffix_join (base name : String) : name.toList <:+ (join base name).toList := by
  cases hname : isAbsolute name with
  | true =>
    have hjoin : join base name = name := if_pos hname
    exact hjoin.symm ▸ List.suffix_refl _
  | false =>
    rcases toList_join base hname with ⟨hjoin, -⟩ | ⟨hjoin, -⟩
    · exact ⟨_, hjoin.symm⟩
    · exact ⟨base.toList ++ ['/'], by rw [hjoin, ← List.append_cons]⟩

theorem fileName?_of_body {names : List (List Char)} (hbody : body path = names ++ [last])
    (hlong : 2 < last.length) : fileName? path = some last := by
  have hempty : last ≠ [] := by
    rintro rfl
    cases hlong
  have hdot : last ≠ ['.'] := by
    rintro rfl
    exact absurd hlong (by decide)
  have hup : last ≠ ['.', '.'] := by
    rintro rfl
    exact absurd hlong (by decide)
  have hidle : isIdle last = false := by simp [isIdle, hempty, hdot]
  simp [fileName?, getLast?_components hbody hidle, hdot, hup]

/-- The last name of a path ends as the path does. -/
theorem exists_fileName? {tail : List Char} (hpath : tail <:+ path.toList) (hslash : '/' ∉ tail)
    (hlong : 2 < tail.length) : ∃ front, fileName? path = some (front ++ tail) := by
  obtain ⟨before, hbefore⟩ := hpath
  have hlong (front : List Char) : 2 < (front ++ tail).length := by
    rw [List.length_append]
    omega
  -- The last name begins behind the last slash before the tail.
  cases hcut : cutLast '/' before with
  | none =>
    have hall : '/' ∉ path.toList := by
      rw [← hbefore, List.mem_append, not_or]
      exact ⟨cutLast_eq_none_iff.1 hcut, hslash⟩
    have hbody : body path = [] ++ [before ++ tail] := by
      rw [body_of_relative (isAbsolute_of_not_mem hall), pieces_of_not_mem hall, hbefore]
      rfl
    exact ⟨before, fileName?_of_body hbody (hlong before)⟩
  | some cut =>
    obtain ⟨up, front⟩ := cut
    obtain ⟨hup, hfront⟩ := cutLast_eq_some_iff.1 hcut
    have hlast : '/' ∉ front ++ tail := by
      rw [List.mem_append, not_or]
      exact ⟨hfront, hslash⟩
    have hpath : path.toList = (String.ofList up).toList ++ '/' :: (front ++ tail) := by
      rw [← hbefore, hup, String.toList_ofList, List.append_assoc, List.cons_append]
    refine ⟨front, ?_⟩
    by_cases hempty : String.ofList up = ""
    · rw [hempty] at hpath
      have hbody : body path = [] ++ [front ++ tail] := body_slash hlast hpath
      exact fileName?_of_body hbody (hlong front)
    · exact fileName?_of_body (body_append hlast hempty hpath) (hlong front)

/-- A path that ends in a name with an extension has this extension. -/
theorem extension?_of_suffix {name ext : List Char} (hpath : name ++ '.' :: ext <:+ path.toList)
    (hname : name ≠ []) (hext : ext ≠ []) (hslash : '/' ∉ name ++ '.' :: ext) (hdot : '.' ∉ ext) :
    extension? path = some ext := by
  have hlong : 2 < (name ++ '.' :: ext).length := by
    have hn := List.length_pos_iff.2 hname
    have he := List.length_pos_iff.2 hext
    rw [List.length_append, List.length_cons]
    omega
  obtain ⟨front, hlast⟩ := exists_fileName? hpath hslash hlong
  refine (extension?_eq_some_iff hlast).2 ⟨front ++ name, ?_, ?_, hdot⟩
  · exact fun h => hname (List.append_eq_nil_iff.1 h).2
  · rw [List.append_assoc]

end ChatChannel.Path
